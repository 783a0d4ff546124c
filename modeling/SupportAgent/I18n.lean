import SupportAgent.Guards

/-!
# Translations

`src/src/i18n.ts`, lines 1–92.

`t(key, params)` takes the template of `key` from the table of the current locale, then from the
English table, and falls back to the key itself; `??` passes over `null` and `undefined` only.
With parameters, `template.replace(/\{\{(\w+)\}\}/g, …)` replaces each placeholder from the left
by its parameter's value, and keeps a placeholder whose name has none as it is.

`initI18n` loads the English table, and over it the table of the language asked for. A locale file
is read only for a code of two lower-case letters (`/^[a-z]{2}$/`). The language is the one given,
or the first one `detectLocale` finds, in this order:
- `--lang` on the command line;
- the configuration's `language`;
- `LC_ALL`, `LC_MESSAGES` or `LANG`, up to its first `.` and `_`;
- the locale of `Intl`, up to its first `-`.

A table is the value of each own key of the object `JSON.parse` gives for a locale file.
The parameter `files` gives the table of each file that exists and parses.
-/

namespace SupportAgent.I18n

/-! ## Placeholders -/

/-- `\w`: an ASCII letter, an ASCII digit or `_`. -/
def isWordChar (c : Char) : Bool := c.isAlphanum || c == '_'

/-- `(\w+)\}\}` read from the front of `s`: the word characters up to `}}`, and what follows it.
Greedy `\w+` has nothing to backtrack to: a shorter run is followed by a word character, not by
`}`. -/
def closeName : List Char → Option (List Char × List Char)
  | '}' :: '}' :: rest => some ([], rest)
  | c :: s => if isWordChar c then (closeName s).map fun (name, rest) => (c :: name, rest) else none
  | [] => none

/-- The match of `/\{\{(\w+)\}\}/` at the front of `s`: the name, and what follows the `}}`. -/
def placeholderAt : List Char → Option (List Char × List Char)
  | '{' :: '{' :: s =>
    match closeName s with
    | some (name@(_ :: _), rest) => some (name, rest)
    | _ => none
  | _ => none

/-- `replace(/\{\{(\w+)\}\}/g, f)` on the characters of a string, with `n` steps: the leftmost
match is replaced by `f` of its name, and the search goes on after it. A step consumes at least
one character, so the length of the string is enough steps. -/
def replaceGo (f : List Char → List Char) : Nat → List Char → List Char
  | 0, s => s
  | _ + 1, [] => []
  | n + 1, c :: cs =>
    match placeholderAt (c :: cs) with
    | some (name, rest) => f name ++ replaceGo f n rest
    | none => c :: replaceGo f n cs

/-- `s.replace(/\{\{(\w+)\}\}/g, f)`. -/
def replacePlaceholders (f : List Char → List Char) (s : List Char) : List Char :=
  replaceGo f s.length s

/-- A parameter's value: `params` is a `Record<string, string | number>`. -/
inductive Param
  | str (s : String)
  | num (x : JsNum)
  deriving DecidableEq, Repr

/-- `String(value)`; a number is written as the host writes it (`numberToString`). -/
def Param.toString (numberToString : JsNum → String) : Param → String
  | .str s => s
  | .num x => numberToString x

/-- The replacer of `t`: `params[name] !== undefined ? String(params[name]) : '{{name}}'`. -/
def substitute (numberToString : JsNum → String) (params : String → Option Param)
    (name : List Char) : List Char :=
  match params (String.mk name) with
  | some v => (v.toString numberToString).data
  | none => ['{', '{'] ++ name ++ ['}', '}']

/-! ## Tables -/

/-- A translation table: the value of each of its own keys. -/
abbrev TranslationMap := String → Option JsonValue

/-- `{}`. -/
def TranslationMap.empty : TranslationMap := fun _ => none

/-- `table[key]`. -/
def lookup (m : TranslationMap) (key : String) : JsonValue := (m key).getD .undefined

/-- `a ?? b`. -/
def nullish (a b : JsonValue) : JsonValue :=
  match a with
  | .undefined | .null => b
  | _ => a

/-- `{ ...a, ...b }`: the keys of `b` over those of `a`. -/
def spread (a b : TranslationMap) : TranslationMap := fun key => (b key).or (a key)

/-- The module's two tables, `translations` and `fallback`. -/
structure State where
  translations : TranslationMap
  fallback : TranslationMap

/-- Both tables before `initI18n`: `{}`. -/
def State.init : State := ⟨.empty, .empty⟩

/-- `translations[key] ?? fallback[key] ?? key`. -/
def template (st : State) (key : String) : JsonValue :=
  nullish (lookup st.translations key) (nullish (lookup st.fallback key) (.str key))

/-- `t(key, params)`. A template that is not a string has no `replace`: with parameters, `t`
throws a `TypeError`. -/
def t (numberToString : JsNum → String) (st : State) (key : String)
    (params : Option (String → Option Param)) : Except String JsonValue :=
  match params with
  | none => .ok (template st key)
  | some ps =>
    match template st key with
    | .str s => .ok (.str (String.mk (replacePlaceholders (substitute numberToString ps) s.data)))
    | _ => .error "template.replace is not a function"

/-! ## Loading the tables -/

/-- `/^[a-z]{2}$/.test(lang)`: two lower-case ASCII letters and nothing else (`$` without the
`m` flag is the end of the input). -/
def isLocaleCode (lang : String) : Bool :=
  match lang.data with
  | [a, b] => a.isLower && b.isLower
  | _ => false

/-- `path.join(__dirname, 'locales')`. -/
def localesDir (dirname : String) : String := Path.join dirname "locales"

/-- The file `loadLocale(lang)` reads, `path.join(localesDir, '<lang>.json')`: none unless `lang`
is a code of two lower-case letters. -/
def localeFile (dirname lang : String) : Option String :=
  if isLocaleCode lang then some (Path.join (localesDir dirname) (lang ++ ".json")) else none

/-- `loadLocale(lang)`: the table of its file; `{}` when there is no file, or it cannot be read or
parsed. -/
def loadLocale (files : String → Option TranslationMap) (dirname lang : String) :
    TranslationMap :=
  match localeFile dirname lang with
  | some path => (files path).getD .empty
  | none => .empty

/-- What `detectLocale` reads. -/
structure LocaleSources where
  /-- `process.argv`. -/
  argv : List String
  /-- `data.language` of the configuration file. It is `undefined` when there is no file, when
  it cannot be read or parsed, and when it has no `language`: `detectLocale` ignores the errors. -/
  configLanguage : JsonValue
  /-- `process.env`. -/
  env : Env
  /-- `Intl.DateTimeFormat().resolvedOptions().locale`, or the error it throws. -/
  intlLocale : Except String String

/-- `process.argv[process.argv.indexOf('--lang') + 1]`, when there is a `--lang` and the argument
after the first one is not empty. -/
def langFlag : List String → Option String
  | [] => none
  | a :: rest =>
    if a = "--lang" then
      match rest with
      | v :: _ => if v.isEmpty then none else some v
      | [] => none
    else langFlag rest

/-- `a || b` on two variables: `a`, unless it is `undefined` or empty. -/
def orElse (a b : Option String) : Option String :=
  if (a.getD "").isEmpty then b else a

/-- `process.env.LC_ALL || process.env.LC_MESSAGES || process.env.LANG`. -/
def envLang (env : Env) : Option String :=
  orElse (env "LC_ALL") (orElse (env "LC_MESSAGES") (env "LANG"))

/-- `s.split(sep)[0]`. -/
def firstPiece (s : String) (sep : Char) : String := (jsSplit s sep).headD ""

/-- `detectLocale()`: the configuration's `language` is returned as it is, whatever its type. -/
def detectLocale (src : LocaleSources) : JsonValue :=
  match langFlag src.argv with
  | some v => .str v
  | none =>
    if src.configLanguage.truthy then src.configLanguage
    else match envLang src.env with
      | some e =>
        if e.isEmpty then intlOrEnglish
        else .str (firstPiece (firstPiece e '.') '_')
      | none => intlOrEnglish
where
  /-- Steps 4 and 5: the language of `Intl`'s locale, or `'en'`. -/
  intlOrEnglish : JsonValue :=
    match src.intlLocale with
    | .ok locale => if locale.isEmpty then .str "en" else .str (firstPiece locale '-')
    | .error _ => .str "en"

/-- `String(lang)`, for the template literal and `RegExp.prototype.test`: a string is itself, and
the host's conversion `toStr` writes any other value. -/
def langString (toStr : JsonValue → String) : JsonValue → String
  | .str s => s
  | v => toStr v

/-- `explicitLang || detectLocale()`. -/
def language (src : LocaleSources) (explicitLang : Option String) : JsonValue :=
  match explicitLang with
  | some e => if e.isEmpty then detectLocale src else .str e
  | none => detectLocale src

/-- `initI18n(explicitLang)`: the tables after it. -/
def initI18n (files : String → Option TranslationMap) (dirname : String)
    (toStr : JsonValue → String) (src : LocaleSources) (explicitLang : Option String) : State :=
  let lang := language src explicitLang
  let fallback := loadLocale files dirname "en"
  { translations :=
      if lang = .str "en" then fallback
      else spread fallback (loadLocale files dirname (langString toStr lang)),
    fallback }

end SupportAgent.I18n

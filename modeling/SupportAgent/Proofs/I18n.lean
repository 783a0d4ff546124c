import Mathlib.Data.String.Basic
import SupportAgent.I18n
import SupportAgent.Proofs.Path

/-!
# Translations: the placeholder scan and the tables

A template reads as text and placeholders (`Template`): the text before the first placeholder,
then each placeholder's name with the text after it. No text holds a placeholder, and a name is a
run of word characters. So a string is the rendering of exactly one template
(`template_round_trip`).

The scan `template.replace(/\{\{(\w+)\}\}/g, …)` fills that template
(`replacePlaceholders_render`). Each placeholder is replaced by the replacer's value for its name,
the text is copied, and no value is scanned again. So `t` returns a template as it is when none of
its placeholders has a parameter (`t_keeps_template`).

`loadLocale` reads no file but `<localesDir>/<xx>.json`, for `xx` a code of two lower-case letters
(`localeFile_eq`). Without `--lang` and a configured language, a locale variable `xx_YY…` gives
the table of `xx` over the English one (`initI18n_posix_locale`).
-/

namespace SupportAgent.I18n

/-! ## The scan -/

/-- The text of a placeholder, `{{name}}`. -/
def hole (name : List Char) : List Char := '{' :: '{' :: (name ++ ['}', '}'])

/-- A placeholder's name: a non-empty run of word characters. -/
def IsName (name : List Char) : Prop := name ≠ [] ∧ ∀ c ∈ name, isWordChar c = true

instance : DecidablePred IsName := fun name =>
  inferInstanceAs (Decidable (name ≠ [] ∧ ∀ c ∈ name, isWordChar c = true))

/-- What can follow a template's text: nothing, or a placeholder. -/
def OpensHole (v : List Char) : Prop := v = [] ∨ ∃ w, v = '{' :: '{' :: w

theorem hole_append (name rest : List Char) :
    hole name ++ rest = '{' :: '{' :: (name ++ '}' :: '}' :: rest) := by
  simp [hole]

theorem opensHole_hole_append (name rest : List Char) : OpensHole (hole name ++ rest) :=
  .inr ⟨_, hole_append name rest⟩

theorem isWordChar_brace_close : isWordChar '}' = false := by decide

theorem isWordChar_brace_open : isWordChar '{' = false := by decide

theorem closeName_word {name : List Char} (h : ∀ c ∈ name, isWordChar c = true)
    (rest : List Char) : closeName (name ++ '}' :: '}' :: rest) = some (name, rest) := by
  induction name with
  | nil => simp [closeName]
  | cons c name ih =>
    have hc := h c (.head _)
    have hne : c ≠ '}' := by rintro rfl; simp [isWordChar_brace_close] at hc
    simp [closeName, hc, hne, ih fun d hd => h d (.tail _ hd)]

theorem closeName_some {s name rest : List Char} (h : closeName s = some (name, rest)) :
    s = name ++ '}' :: '}' :: rest ∧ ∀ c ∈ name, isWordChar c = true := by
  induction s using closeName.induct generalizing name rest with
  | case1 r =>
    simp only [closeName, Option.some.injEq, Prod.mk.injEq] at h
    obtain ⟨rfl, rfl⟩ := h
    simp
  | case2 c s hne hc ih =>
    rw [closeName.eq_2 c s hne, if_pos hc] at h
    obtain ⟨⟨n, r⟩, hnr, he⟩ := Option.map_eq_some'.mp h
    cases he
    obtain ⟨rfl, hw⟩ := ih hnr
    exact ⟨rfl, List.forall_mem_cons.mpr ⟨hc, hw⟩⟩
  | case3 c s hne hc => rw [closeName.eq_2 c s hne, if_neg hc] at h; cases h
  | case4 => simp [closeName] at h

theorem closeName_append_some {s name rest : List Char} (h : closeName s = some (name, rest))
    (v : List Char) : closeName (s ++ v) = some (name, rest ++ v) := by
  obtain ⟨rfl, hw⟩ := closeName_some h
  simpa using closeName_word hw (rest ++ v)

theorem closeName_append_none {s : List Char} (h : closeName s = none) {v : List Char}
    (hv : v = [] ∨ ∃ w, v = '{' :: w) : closeName (s ++ v) = none := by
  induction s using closeName.induct with
  | case1 r => simp [closeName] at h
  | case2 c s hne hc ih =>
    rw [closeName.eq_2 c s hne, if_pos hc, Option.map_eq_none'] at h
    have hne' : c ≠ '}' := by rintro rfl; simp [isWordChar_brace_close] at hc
    rw [List.cons_append, closeName.eq_2 c _ fun _ h' => absurd h' hne', if_pos hc, ih h]
    rfl
  | case3 c s hne hc =>
    rw [List.cons_append, closeName.eq_2 c _ ?_, if_neg hc]
    rintro r rfl hs
    rcases s with _ | ⟨d, s⟩
    · rcases hv with rfl | ⟨w, rfl⟩ <;> simp at hs
    · simp only [List.cons_append, List.cons.injEq] at hs
      exact hne s rfl (by rw [hs.1])
  | case4 =>
    rcases hv with rfl | ⟨w, rfl⟩
    · rfl
    · rw [List.nil_append, closeName.eq_2 _ _ (by simp), if_neg (by simp [isWordChar_brace_open])]

theorem placeholderAt_some {s name rest : List Char} (h : placeholderAt s = some (name, rest)) :
    s = hole name ++ rest ∧ IsName name := by
  unfold placeholderAt at h
  split at h
  · split at h
    · cases h
      obtain ⟨rfl, hw⟩ := closeName_some ‹_›
      exact ⟨by simp [hole], List.cons_ne_nil _ _, hw⟩
    · cases h
  · cases h

theorem placeholderAt_hole {name : List Char} (hn : IsName name) (rest : List Char) :
    placeholderAt (hole name ++ rest) = some (name, rest) := by
  obtain ⟨c, cs, rfl⟩ := List.exists_cons_of_ne_nil hn.1
  simp only [hole_append, placeholderAt, closeName_word hn.2]

theorem placeholderAt_append_some {u name rest : List Char}
    (h : placeholderAt u = some (name, rest)) (v : List Char) :
    placeholderAt (u ++ v) = some (name, rest ++ v) := by
  obtain ⟨rfl, hn⟩ := placeholderAt_some h
  rw [List.append_assoc]
  exact placeholderAt_hole hn _

theorem placeholderAt_append_none {u : List Char} (hu : u ≠ []) (h : placeholderAt u = none)
    {v : List Char} (hv : OpensHole v) : placeholderAt (u ++ v) = none := by
  rcases hp : placeholderAt (u ++ v) with _ | ⟨name, rest⟩
  · rfl
  exfalso
  obtain ⟨he, hne, hw⟩ := placeholderAt_some hp
  rw [hole_append] at he
  match u, hu with
  | [c], _ =>
    simp only [List.singleton_append, List.cons.injEq] at he
    obtain ⟨rfl, rfl⟩ := he
    obtain ⟨d, ds, rfl⟩ := List.exists_cons_of_ne_nil hne
    rcases hv with hv | ⟨w, hv⟩
    · cases hv
    · injection hv with _ hv
      injection hv with hd
      have := hw d (.head _)
      rw [hd, isWordChar_brace_open] at this
      cases this
  | c :: d :: s, _ =>
    simp only [List.cons_append, List.cons.injEq] at he
    obtain ⟨rfl, rfl, hs⟩ := he
    have hc := closeName_word hw rest
    rw [← hs] at hc
    rcases hcs : closeName s with _ | ⟨m, r⟩
    · rw [closeName_append_none hcs (hv.imp id fun ⟨w, hw⟩ => ⟨_, hw⟩)] at hc
      cases hc
    · rw [closeName_append_some hcs, Option.some.injEq, Prod.mk.injEq] at hc
      obtain ⟨rfl, -⟩ := hc
      obtain ⟨c', cs', rfl⟩ := List.exists_cons_of_ne_nil hne
      simp [placeholderAt, hcs] at h

theorem placeholderAt_length {s name rest : List Char} (h : placeholderAt s = some (name, rest)) :
    rest.length < s.length := by
  obtain ⟨rfl, -⟩ := placeholderAt_some h
  simp [hole]
  omega

/-! ## Templates -/

/-- Text with no placeholder in it. -/
def Plain (s : List Char) : Prop := ∀ w ∈ s.tails, placeholderAt w = none

instance : DecidablePred Plain := fun s =>
  inferInstanceAs (Decidable (∀ w ∈ s.tails, placeholderAt w = none))

theorem plain_nil : Plain [] := by decide

theorem Plain.cons {c : Char} {s : List Char} : Plain (c :: s) ↔ placeholderAt (c :: s) = none ∧ Plain s := by
  simp [Plain]

/-- A template as its placeholders cut it: the text before the first one, then each placeholder's
name with the text after it. No text holds a placeholder and every name is a run of word
characters, so the scan cuts the rendered template where it was put together. -/
@[ext] structure Template where
  head : List Char
  holes : List (List Char × List Char)
  head_plain : Plain head
  holes_wf : ∀ p ∈ holes, IsName p.1 ∧ Plain p.2

/-- The placeholders, each written out, with the text after it. -/
def renderHoles (hs : List (List Char × List Char)) : List Char :=
  hs.flatMap fun p => hole p.1 ++ p.2

/-- The placeholders, each replaced by `f` of its name, with the text after it. -/
def fillHoles (f : List Char → List Char) (hs : List (List Char × List Char)) : List Char :=
  hs.flatMap fun p => f p.1 ++ p.2

@[simp] theorem renderHoles_nil : renderHoles [] = [] := rfl

@[simp] theorem renderHoles_cons (p : List Char × List Char) (hs : List (List Char × List Char)) :
    renderHoles (p :: hs) = hole p.1 ++ p.2 ++ renderHoles hs := by
  simp [renderHoles]

@[simp] theorem fillHoles_nil (f : List Char → List Char) : fillHoles f [] = [] := rfl

@[simp] theorem fillHoles_cons (f : List Char → List Char) (p : List Char × List Char)
    (hs : List (List Char × List Char)) : fillHoles f (p :: hs) = f p.1 ++ p.2 ++ fillHoles f hs := by
  simp [fillHoles]

/-- The string of a template. -/
def Template.render (tpl : Template) : List Char := tpl.head ++ renderHoles tpl.holes

/-- A template with each placeholder replaced by `f` of its name. -/
def Template.fill (f : List Char → List Char) (tpl : Template) : List Char :=
  tpl.head ++ fillHoles f tpl.holes

theorem opensHole_renderHoles (hs : List (List Char × List Char)) : OpensHole (renderHoles hs) := by
  cases hs with
  | nil => exact .inl rfl
  | cons p hs => rw [renderHoles_cons, List.append_assoc]; exact opensHole_hole_append _ _

/-! ## Reading a string as a template -/

/-- The cut the scan makes, with `n` steps: the text up to the first match, and each match's name
with the text up to the next one. Out of steps, the rest is text, as `replaceGo` leaves it. -/
def parseGo : Nat → List Char → List Char × List (List Char × List Char)
  | 0, s => (s, [])
  | _ + 1, [] => ([], [])
  | n + 1, c :: cs =>
    match placeholderAt (c :: cs) with
    | some (name, rest) => ([], (name, (parseGo n rest).1) :: (parseGo n rest).2)
    | none => (c :: (parseGo n cs).1, (parseGo n cs).2)

/-- The scan replaces each placeholder of the cut by `f` of its name and copies the text. -/
theorem replaceGo_eq_fill (f : List Char → List Char) :
    ∀ (n : Nat) (s : List Char), replaceGo f n s = (parseGo n s).1 ++ fillHoles f (parseGo n s).2
  | 0, s => by simp [replaceGo, parseGo]
  | n + 1, [] => rfl
  | n + 1, c :: cs => by
    rcases hp : placeholderAt (c :: cs) with _ | ⟨name, rest⟩ <;>
      simp [replaceGo, parseGo, hp, replaceGo_eq_fill f n]

/-- With enough steps, the cut is the text and placeholders of `s`, and it is well formed. -/
theorem parseGo_spec : ∀ (n : Nat) (s : List Char), s.length ≤ n →
    (parseGo n s).1 ++ renderHoles (parseGo n s).2 = s ∧ Plain (parseGo n s).1 ∧
      ∀ p ∈ (parseGo n s).2, IsName p.1 ∧ Plain p.2
  | 0, [], _ => ⟨rfl, plain_nil, by simp [parseGo]⟩
  | 0, _ :: _, h => absurd h (by simp)
  | _ + 1, [], _ => ⟨rfl, plain_nil, by simp [parseGo]⟩
  | n + 1, c :: cs, h => by
    simp only [List.length_cons, Nat.add_le_add_iff_right] at h
    simp only [parseGo]
    split
    · rename_i name rest hp
      have hl := placeholderAt_length hp
      simp only [List.length_cons] at hl
      obtain ⟨ih1, ih2, ih3⟩ := parseGo_spec n rest (by omega)
      obtain ⟨he, hn⟩ := placeholderAt_some hp
      refine ⟨by rw [he, List.nil_append, renderHoles_cons, List.append_assoc, ih1], plain_nil, ?_⟩
      rintro p (_ | ⟨_, hp'⟩)
      · exact ⟨hn, ih2⟩
      · exact ih3 p hp'
    · rename_i hp
      obtain ⟨ih1, ih2, ih3⟩ := parseGo_spec n cs h
      refine ⟨by simp [ih1], Plain.cons.mpr ⟨?_, ih2⟩, ih3⟩
      rcases h' : placeholderAt (c :: (parseGo n cs).1) with _ | ⟨name, rest⟩
      · rfl
      · have := placeholderAt_append_some h' (renderHoles (parseGo n cs).2)
        rw [List.cons_append, ih1, hp] at this
        cases this

/-- The template a string reads as. -/
def Template.parse (s : List Char) : Template where
  head := (parseGo s.length s).1
  holes := (parseGo s.length s).2
  head_plain := (parseGo_spec _ s le_rfl).2.1
  holes_wf := (parseGo_spec _ s le_rfl).2.2

/-- The cut of a rendered template is the template: the scan finds a match at each placeholder
and nowhere else. -/
theorem parseGo_render : ∀ (n : Nat) (head : List Char) (hs : List (List Char × List Char)),
    Plain head → (∀ p ∈ hs, IsName p.1 ∧ Plain p.2) → (head ++ renderHoles hs).length ≤ n →
    parseGo n (head ++ renderHoles hs) = (head, hs)
  | 0, [], [], _, _, _ => rfl
  | 0, [], _ :: _, _, _, h => absurd h (by simp [hole])
  | 0, _ :: _, _, _, _, h => absurd h (by simp)
  | _ + 1, [], [], _, _, _ => rfl
  | n + 1, [], (name, x) :: hs, _, hw, h => by
    obtain ⟨hn, hx⟩ := hw _ (.head _)
    have hp := placeholderAt_hole hn (x ++ renderHoles hs)
    rw [hole_append] at hp
    rw [List.nil_append, renderHoles_cons, List.append_assoc, hole_append] at h ⊢
    simp only [List.length_cons, List.length_append, Nat.add_le_add_iff_right] at h
    rw [parseGo, hp]
    dsimp only
    rw [parseGo_render n x hs hx (fun p hp => hw p (.tail _ hp)) (by simp; omega)]
  | n + 1, c :: head, hs, hp, hw, h => by
    obtain ⟨hc, hp⟩ := Plain.cons.mp hp
    have hcv : placeholderAt (c :: (head ++ renderHoles hs)) = none :=
      placeholderAt_append_none (List.cons_ne_nil _ _) hc (opensHole_renderHoles hs)
    simp only [List.cons_append, List.length_cons, Nat.add_le_add_iff_right] at h ⊢
    rw [parseGo, hcv, parseGo_render n head hs hp hw h]

theorem Template.render_parse (s : List Char) : (Template.parse s).render = s :=
  (parseGo_spec _ s le_rfl).1

theorem Template.parse_render (tpl : Template) : Template.parse tpl.render = tpl := by
  have h := parseGo_render _ _ _ tpl.head_plain tpl.holes_wf le_rfl
  ext1 <;> simp only [Template.parse, Template.render, h]

/-- Replacing the placeholders of a template's string by `f`
gives the template with each placeholder replaced by `f` of its name, its text kept. -/
theorem replacePlaceholders_render (f : List Char → List Char) (tpl : Template) :
    replacePlaceholders f tpl.render = tpl.fill f := by
  conv_rhs => rw [← Template.parse_render tpl]
  exact replaceGo_eq_fill f _ _

/-- The template format: every string reads as exactly one template, which renders back to it. -/
theorem template_round_trip :
    (∀ s, (Template.parse s).render = s) ∧ ∀ tpl, Template.parse tpl.render = tpl :=
  ⟨Template.render_parse, Template.parse_render⟩

example : (Template.parse "a {{{b}}}".data).holes = [("b".data, ['}'])] := by decide

/-! ## `t` -/

theorem fillHoles_congr {f g : List Char → List Char} :
    ∀ {hs : List (List Char × List Char)}, (∀ p ∈ hs, f p.1 = g p.1) → fillHoles f hs = fillHoles g hs
  | [], _ => rfl
  | p :: hs, h => by
    rw [fillHoles_cons, fillHoles_cons, h p (.head _), fillHoles_congr fun q hq => h q (.tail _ hq)]

theorem fillHoles_hole (hs : List (List Char × List Char)) : fillHoles hole hs = renderHoles hs := rfl

/-- `t` with parameters: the template read as a template, each placeholder replaced by its
parameter's value or kept, the text between them copied. -/
theorem t_some (numberToString : JsNum → String) (st : State) (key : String)
    (ps : String → Option Param) {s : String} (hs : template st key = .str s) :
    t numberToString st key (some ps) =
      .ok (.str (String.mk ((Template.parse s.data).fill (substitute numberToString ps)))) := by
  simp [t, hs, replacePlaceholders, Template.fill, Template.parse, replaceGo_eq_fill]

/-- A template none of whose placeholders has a parameter comes back from `t` as it is. -/
theorem t_keeps_template (numberToString : JsNum → String) (st : State) (key : String)
    (ps : String → Option Param) {s : String} (hs : template st key = .str s)
    (hnone : ∀ p ∈ (Template.parse s.data).holes, ps (String.mk p.1) = none) :
    t numberToString st key (some ps) = .ok (.str s) := by
  have hfill : (Template.parse s.data).fill (substitute numberToString ps) = s.data := by
    rw [Template.fill, fillHoles_congr (g := hole) fun p hp => by simp [substitute, hnone p hp, hole],
      fillHoles_hole]
    exact Template.render_parse s.data
  rw [t_some numberToString st key ps hs, hfill]

/-- `URL: {{url}}` with no `url` comes back as it is. -/
theorem t_keeps_template_url :
    t (fun _ => "") ⟨fun k => if k = "auth.url" then some (.str "URL: {{url}}") else none, .empty⟩
      "auth.url" (some fun _ => none) = .ok (.str "URL: {{url}}") :=
  t_keeps_template _ _ _ _ (by decide) fun _ _ => rfl

/-! ## The locale file -/

section LocalePath

theorem localesDir_eq {dirname : String} (hd : Path.isAbsolute (Path.fields dirname) = true) :
    localesDir dirname =
      Path.renderNames (Path.normalizeNames true (Path.fields dirname) ++ ["locales"]) := by
  have hne : dirname ≠ "" := by rintro rfl; simp [Path.isAbsolute, Path.fields] at hd
  have hl : Path.fields "locales" = ["locales"] := by decide
  have habs : Path.isAbsolute (Path.fields dirname ++ ["locales"]) = true := by
    rwa [Path.isAbsolute_append (Path.fields_ne_nil _) (by rintro h; simp [h, Path.isAbsolute] at hd)
      _ (List.cons_ne_nil _ _)]
  simp only [localesDir, Path.join, hne, if_false, show "locales" ≠ "" by decide, habs, if_true, hl]
  rw [normalizeNames_append_name true _ (by decide) (by decide) (by decide), Path.render, if_neg (by simp)]

theorem plainName_localeFile {lang : String} (hl : isLocaleCode lang = true) :
    PlainName (lang ++ ".json") := by
  unfold isLocaleCode at hl
  split at hl
  · rename_i a b hab
    have ha : a ≠ '/' := by rintro rfl; simp at hl
    have hb : b ≠ '/' := by rintro rfl; simp at hl
    have hdata : (lang ++ ".json").data = [a, b, '.', 'j', 's', 'o', 'n'] := by simp [hab]
    refine ⟨by simp [hdata, ha.symm, hb.symm], ?_, ?_, ?_⟩ <;>
      exact fun h => by simpa [hdata] using congrArg String.data h
  · cases hl

/-- The path of a locale file: the locales directory, a separator, then the code and `.json`. -/
theorem join_localesDir {dirname lang : String} (hd : Path.isAbsolute (Path.fields dirname) = true)
    (hl : isLocaleCode lang = true) :
    Path.join (localesDir dirname) (lang ++ ".json") = localesDir dirname ++ "/" ++ lang ++ ".json" := by
  set N := Path.normalizeNames true (Path.fields dirname) ++ ["locales"] with hNdef
  have hN : ∀ n ∈ N, PlainName n := by
    intro n hn
    rcases List.mem_append.mp hn with hn | hn
    · exact normalizeNames_plain _ (slash_not_mem_fields _) n hn
    · obtain rfl := List.mem_singleton.mp hn
      exact ⟨by decide, by decide, by decide, by decide⟩
  have hNne : N ≠ [] := by simp [hNdef]
  have hdir : localesDir dirname = Path.render N := by
    rw [localesDir_eq hd, ← hNdef, Path.render, if_neg hNne]
  rw [hdir, join_render_name hN (plainName_localeFile hl), Path.render, if_neg (by simp),
    Path.render, if_neg hNne, Path.renderNames_append]
  simp [Path.renderNames, String.append_assoc]

/-- Whatever the language asked for, the only
file it reads is `<localesDir>/<xx>.json`, for `xx` a code of two lower-case letters. -/
theorem localeFile_eq {dirname lang p : String} (hd : Path.isAbsolute (Path.fields dirname) = true)
    (h : localeFile dirname lang = some p) :
    isLocaleCode lang = true ∧ p = localesDir dirname ++ "/" ++ lang ++ ".json" := by
  unfold localeFile at h
  split_ifs at h with hl
  exact ⟨hl, (Option.some.inj h).symm.trans (join_localesDir hd hl)⟩

theorem localeFile_eq_ja :
    isLocaleCode "ja" = true ∧ "/app/locales/ja.json" = localesDir "/app" ++ "/" ++ "ja" ++ ".json" :=
  localeFile_eq (by decide) (by decide)

end LocalePath

/-! ## The language of a POSIX locale -/

theorem splitOn_headD (c : Char) : ∀ l : List Char, (l.splitOn c).headD [] = l.takeWhile (· != c)
  | [] => rfl
  | x :: xs => by
    rw [List.splitOn, List.splitOnP_cons, List.takeWhile_cons]
    by_cases hx : x = c
    · simp [hx]
    · obtain ⟨h, t, ht⟩ := List.exists_cons_of_ne_nil (List.splitOnP_ne_nil (· == c) xs)
      have ih := splitOn_headD c xs
      rw [List.splitOn, ht] at ih
      simp [hx, ht, ← ih]

theorem firstPiece_eq (s : String) (c : Char) :
    firstPiece s c = String.mk (s.data.takeWhile (· != c)) := by
  rw [firstPiece, jsSplit, ← splitOn_headD]
  obtain ⟨h, t, ht⟩ := List.exists_cons_of_ne_nil (List.splitOnP_ne_nil (· == c) s.toList)
  simp [List.splitOn, String.toList, ht]

/-- The language of a locale `xx_YY…`: the text before the `_`, when it holds neither `.` nor
`_`. -/
theorem firstPiece_posix {xx rest : String} (hxx : '.' ∉ xx.data ∧ '_' ∉ xx.data) :
    firstPiece (firstPiece (xx ++ "_" ++ rest) '.') '_' = xx := by
  have hdot : ∀ x ∈ xx.data, (x != '.') = true := fun x hx => by
    simpa using fun h : x = '.' => hxx.1 (h ▸ hx)
  have hund : ∀ x ∈ xx.data, (x != '_') = true := fun x hx => by
    simpa using fun h : x = '_' => hxx.2 (h ▸ hx)
  rw [firstPiece_eq, firstPiece_eq]
  simp [List.takeWhile_append_of_pos hdot, List.takeWhile_append_of_pos hund]

/-- With no `--lang` and no language in the configuration,
a locale variable `xx_YY…` (the first of `LC_ALL`, `LC_MESSAGES` and `LANG` that is not empty)
selects the language `xx`: its table over the English one, whatever follows the `_`. -/
theorem initI18n_posix_locale (files : String → Option TranslationMap) (dirname : String)
    (toStr : JsonValue → String) {src : LocaleSources} {xx rest : String}
    (hflag : langFlag src.argv = none) (hcfg : src.configLanguage.truthy = false)
    (henv : envLang src.env = some (xx ++ "_" ++ rest)) (hxx : '.' ∉ xx.data ∧ '_' ∉ xx.data)
    (hen : xx ≠ "en") :
    initI18n files dirname toStr src none =
      ⟨spread (loadLocale files dirname "en") (loadLocale files dirname xx),
        loadLocale files dirname "en"⟩ := by
  have hne : (xx ++ "_" ++ rest).isEmpty = false := by
    rw [Bool.eq_false_iff, ne_eq, String.isEmpty_iff]
    intro h
    simpa using congrArg String.data h
  have hd : language src none = .str xx := by
    simp [language, detectLocale, hflag, hcfg, henv, hne, firstPiece_posix hxx]
  simp [initI18n, hd, langString, hen]

/-- `LANG=ja_JP.UTF-8`. -/
def jaEnv : Env := fun v => if v = "LANG" then some "ja_JP.UTF-8" else none

theorem initI18n_ja_JP :
    langFlag [] = none ∧ JsonValue.undefined.truthy = false ∧
    envLang jaEnv = some ("ja" ++ "_" ++ "JP.UTF-8") ∧
    ('.' ∉ "ja".data ∧ '_' ∉ "ja".data) ∧
    "ja" ≠ "en" ∧
    initI18n (fun _ => none) "/app" (fun _ => "") ⟨[], .undefined, jaEnv, .error ""⟩ none =
      ⟨spread (loadLocale (fun _ => none) "/app" "en") (loadLocale (fun _ => none) "/app" "ja"),
        loadLocale (fun _ => none) "/app" "en"⟩ :=
  have h1 : langFlag [] = none := rfl
  have h2 : JsonValue.undefined.truthy = false := rfl
  have h3 : envLang jaEnv = some ("ja" ++ "_" ++ "JP.UTF-8") := by decide
  have h4 : '.' ∉ "ja".data ∧ '_' ∉ "ja".data := by decide
  have h5 : "ja" ≠ "en" := by decide
  ⟨h1, h2, h3, h4, h5, initI18n_posix_locale _ _ _ h1 h2 h3 h4 h5⟩

end SupportAgent.I18n

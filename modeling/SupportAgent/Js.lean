import Mathlib.Algebra.Order.Ring.Unbundled.Rat

/-!
# JavaScript values the executor reads

A command's payload is a JSON object whose fields the handlers read through `parseString` and
`parseNumber` (`src/utils.ts`). A JavaScript number is a double; the executor only compares
numbers, tests them for `NaN`, for truthiness and for integrality, so a finite double is kept as
the rational it denotes (`-0` as `0`: no comparison made here tells them apart).
-/

namespace SupportAgent

/-- Results compare by value, so that `decide` evaluates them. -/
instance decEqExcept {ε α : Type} [DecidableEq ε] [DecidableEq α] : DecidableEq (Except ε α)
  | .error a, .error b => decidable_of_iff (a = b) (by simp)
  | .ok a, .ok b => decidable_of_iff (a = b) (by simp)
  | .error _, .ok _ => isFalse (by simp)
  | .ok _, .error _ => isFalse (by simp)

/-- A JavaScript number. -/
inductive JsNum
  | nan
  | posInf
  | negInf
  | fin (q : ℚ)
  deriving DecidableEq, Repr

namespace JsNum

/-- JavaScript's `<`: false as soon as one side is `NaN`. -/
def lt : JsNum → JsNum → Bool
  | fin a, fin b => decide (a < b)
  | negInf, fin _ | negInf, posInf | fin _, posInf => true
  | _, _ => false

/-- Truthiness: `0`, `-0` and `NaN` are falsy. -/
def truthy : JsNum → Bool
  | nan => false
  | fin q => q != 0
  | _ => true

/-- `Number.isNaN`. -/
def isNaN : JsNum → Bool
  | nan => true
  | _ => false

/-- `Number.isInteger`: finite, with no fractional part. -/
def isInteger : JsNum → Bool
  | fin q => q.den == 1
  | _ => false

/-- `===` on numbers: `NaN` is equal to nothing, itself included. -/
def strictEq : JsNum → JsNum → Bool
  | nan, _ | _, nan => false
  | x, y => decide (x = y)

end JsNum

/-- A payload field: a value `JSON.parse` produces, or `undefined` for a missing field. No handler
looks inside an array or an object, so both are one case. -/
inductive JsonValue
  | undefined
  | null
  | bool (b : Bool)
  | num (x : JsNum)
  | str (s : String)
  | object
  deriving DecidableEq, Repr

/-- Truthiness, as `if (payload.createDirectories)` reads a field. -/
def JsonValue.truthy : JsonValue → Bool
  | .undefined | .null => false
  | .bool b => b
  | .num x => x.truthy
  | .str s => !s.isEmpty
  | .object => true

/-- A command's payload (`Record<string, unknown>`), read field by field. -/
abbrev Payload := String → JsonValue

/-- `parseString`: a non-empty string, or `null`. -/
def parseString : JsonValue → Option String
  | .str s => if 0 < s.length then some s else none
  | _ => none

/-- `parseNumber`: a number other than `NaN`, or `null`. -/
def parseNumber : JsonValue → Option JsNum
  | .num x => if x.isNaN then none else some x
  | _ => none

@[simp] theorem parseString_ne_empty {v : JsonValue} {s : String} (h : parseString v = some s) :
    s ≠ "" := by
  cases v <;> simp only [parseString, reduceCtorEq, Option.ite_none_right_eq_some,
    Option.some.injEq] at h
  obtain ⟨hl, rfl⟩ := h
  rintro rfl
  simp at hl

theorem parseNumber_ne_nan {v : JsonValue} {x : JsNum} (h : parseNumber v = some x) :
    x ≠ .nan := by
  cases v <;> simp only [parseNumber, reduceCtorEq, Option.ite_none_left_eq_some,
    Option.some.injEq] at h
  obtain ⟨hn, rfl⟩ := h
  rintro rfl
  simp [JsNum.isNaN] at hn

/-- `s.length`: the UTF-16 code units of a string, two for a character beyond the basic plane. -/
def jsLength (s : String) : Nat :=
  s.toList.foldr (fun ch n => (if ch.toNat < 0x10000 then 1 else 2) + n) 0

/-- The UTF-16 code units of a string: a surrogate pair for a character beyond the basic plane. -/
def utf16Units (s : String) : List Nat :=
  s.toList.flatMap fun ch =>
    if ch.toNat < 0x10000 then [ch.toNat]
    else [0xD800 + (ch.toNat - 0x10000) / 0x400, 0xDC00 + (ch.toNat - 0x10000) % 0x400]

/-- `IsLessThan` on code units: a proper prefix is less, otherwise the first unit that differs
decides. -/
def unitsLt : List Nat → List Nat → Bool
  | _, [] => false
  | [], _ :: _ => true
  | a :: as, b :: bs => if a = b then unitsLt as bs else decide (a < b)

/-- `a < b` on strings. -/
def stringLt (a b : String) : Bool := unitsLt (utf16Units a) (utf16Units b)

/-- `s.split(separator)` for a one-character separator: the pieces between its occurrences. -/
def jsSplit (s : String) (separator : Char) : List String :=
  (s.toList.splitOn separator).map String.mk

/-- One entry of a directory listing, as `fileList` reports it. -/
structure ListItem where
  name : String
  /-- `'directory'` or `'file'`. -/
  type : String
  size : Nat
  modified : String
  deriving DecidableEq, Repr

/-- The `data` of a result: a text, or the listing `fileList` returns. -/
inductive ResultData
  | text (s : String)
  | listing (items : List ListItem) (truncated : Bool) (total : Nat)
  deriving DecidableEq, Repr

/-- `CommandResult`: `data` may come with `error` (the output of a command that failed). -/
structure CommandResult where
  success : Bool
  data : Option ResultData := none
  error : Option String := none
  deriving DecidableEq, Repr

/-- `{ success: false, error }`. -/
def CommandResult.failure (error : String) : CommandResult :=
  { success := false, error := some error }

/-- The limits the executor imports from `./constants`, a module that is not among the sources:
every result holds for all of their values. -/
structure Constants where
  CMD_DEFAULT_TIMEOUT : Nat
  MAX_CMD_TIMEOUT : Nat
  MAX_DIR_ENTRIES : Nat
  MAX_FILE_READ_SIZE : Nat
  MAX_FILE_WRITE_SIZE : Nat
  MAX_OUTPUT_SIZE : Nat
  PROCESS_LIST_TIMEOUT : Nat

end SupportAgent

import SupportAgent.Js
import Mathlib.Data.List.Infix

/-!
# Paths

A path string is kept as its fields, the pieces between its separators: `"/a//b/"` has the fields
`["", "a", "", "b", ""]`, and joining the fields with `/` gives the string back, so a string and
its fields determine each other. The functions of `path.posix` the executor calls (`resolve`,
`dirname`, `basename`, `join`) are lexical: they never look at the file system, and `..` drops the
name before it whatever that name is. A canonical path (`AbsPath`) is the list of names from the
root, as `realpath` returns it.
-/

namespace SupportAgent

/-- The fields of a path string. -/
abbrev RawPath := List String

/-- A canonical absolute path: the names from the root, none of them empty, `.` or `..`. -/
abbrev AbsPath := List String

namespace Path

/-- The fields of the string `s`. -/
def fields (s : String) : RawPath := (s.toList.splitOn '/').map String.mk

/-- `path.isAbsolute`: the string starts with `/`, so its first field is empty and not alone. -/
def isAbsolute (p : RawPath) : Bool := p.head? == some "" && 2 ≤ p.length

/-- The directory a path is resolved from: the root, or the working directory `cwd`. -/
def start (cwd : AbsPath) (p : RawPath) : AbsPath := if isAbsolute p then [] else cwd

/-- One field of lexical normalisation from a canonical path: `..` goes up (and stays at the
root), empty fields and `.` stay. -/
def pushField (acc : AbsPath) (f : String) : AbsPath :=
  if f = "" ∨ f = "." then acc else if f = ".." then acc.dropLast else acc ++ [f]

/-- `path.resolve(p)`, the working directory being `cwd`. -/
def resolve (cwd : AbsPath) (p : RawPath) : AbsPath := p.foldl pushField (start cwd p)

/-- The fields without the empty ones at the end (the trailing separators). -/
def dropTrailingEmpty : RawPath → RawPath
  | [] => []
  | f :: p =>
    match dropTrailingEmpty p with
    | [] => if f = "" then [] else [f]
    | q => f :: q

/-- `path.basename`: the last name, trailing separators ignored (`""` for the root). -/
def basename (p : RawPath) : String := ((dropTrailingEmpty p).getLast?).getD ""

/-- `path.dirname`: the fields before the last name, trailing separators ignored; `"/"` for a
name just under the root, `"."` for a relative name alone, and `"//"` kept as it is. -/
def dirname (p : RawPath) : RawPath :=
  match (dropTrailingEmpty p).dropLast with
  | [] => if isAbsolute p then ["", ""] else ["."]
  | [""] => ["", ""]
  | ["", ""] => ["", "", ""]
  | d => d

/-- One field of `normalizeString` of `path.posix`: `..` drops the name before it; with none left
it goes nowhere from the root of an absolute path and is kept at the front of a relative one. -/
def normalizeField (absolute : Bool) (acc : List String) (f : String) : List String :=
  if f = "" ∨ f = "." then acc
  else if f = ".." then
    if acc = [] ∨ acc.getLast? = some ".." then (if absolute then acc else acc ++ [".."])
    else acc.dropLast
  else acc ++ [f]

/-- `normalizeString` of `path.posix`: the names left after lexical normalisation. -/
def normalizeNames (absolute : Bool) (p : RawPath) : List String :=
  p.foldl (normalizeField absolute) []

/-- The string of a list of names under the root: `"/a/b"` for `["a", "b"]`. -/
def renderNames : List String → String
  | [] => ""
  | n :: p => "/" ++ n ++ renderNames p

/-- The string of a canonical path, `"/"` for the root. -/
def render (p : AbsPath) : String := if p = [] then "/" else renderNames p

/-- `path.join(a, b)`: the two joined by a separator (an empty one left out), then normalised;
`"."` when nothing is left of a relative path. In every call here `b` has no trailing separator,
which `path.join` would keep. -/
def join (a b : String) : String :=
  let p := (if a = "" then [] else fields a) ++ (if b = "" then [] else fields b)
  if isAbsolute p then render (normalizeNames true p)
  else match normalizeNames false p with
    | [] => "."
    | n :: ns => n ++ renderNames ns

/-! ## Fields -/

theorem fields_ne_nil (s : String) : fields s ≠ [] := by
  simp [fields, List.splitOn, List.splitOnP_ne_nil]

/-- The fields are those kept by `dropTrailingEmpty`, then empty ones. -/
theorem dropTrailingEmpty_spec (p : RawPath) :
    ∃ k, p = dropTrailingEmpty p ++ List.replicate k "" := by
  induction p with
  | nil => exact ⟨0, rfl⟩
  | cons f p ih =>
    obtain ⟨k, hk⟩ := ih
    simp only [dropTrailingEmpty]
    split
    · rename_i h
      rw [h] at hk
      split_ifs with hf
      · exact ⟨k + 1, by simp [hf, hk, List.replicate_succ]⟩
      · exact ⟨k, by simp [hk]⟩
    · exact ⟨k, by simp [← hk]⟩

theorem isAbsolute_append {d : RawPath} (hd : d ≠ []) (hd' : d ≠ [""]) (e : RawPath)
    (he : e ≠ []) : isAbsolute (d ++ e) = isAbsolute d := by
  match d, e with
  | [x], y :: e => simp_all [isAbsolute]
  | _ :: _ :: _, _ => simp [isAbsolute]

/-! ## Rendering -/

@[simp] theorem renderNames_append (p q : List String) :
    renderNames (p ++ q) = renderNames p ++ renderNames q := by
  induction p with
  | nil => simp [renderNames]
  | cons n p ih => simp [renderNames, ih, String.append_assoc]

/-- The string of a canonical path under `d` starts with the string of `d` and a separator. -/
theorem render_append_cons (d : AbsPath) (hd : d ≠ []) (n : String) (e : List String) :
    render (d ++ n :: e) = render d ++ "/" ++ (n ++ renderNames e) := by
  simp [render, hd, renderNames, String.append_assoc]

end Path

end SupportAgent

import Mathlib.Data.List.Infix
import SupportAgent.Js

/-!
# The version comparison of the update checker

`isNewerVersion` (`src/src/update-checker.ts`, lines 6–36) cuts each version at its first `-`
(`split('-', 2)` keeps the text up to a second `-` as the pre-release tag), reads the dotted
fields before it with `Number`, and compares major, minor and patch with `!==` and `>`, then the
pre-release tags as strings. `Number(s)` is the host's conversion of a string to a number; it is
the parameter `toNumber`, so every result below holds whatever it returns, `NaN` and `Infinity`
included.

`isValidVersion` (lines 38–43) tests `/^\d+\.\d+\.\d+/`, and `performUpdate` (lines 45–75) turns
what `npm install` reports into its result.
-/

namespace SupportAgent

/-- What `parseVersion` returns. -/
structure Version where
  major : JsNum
  minor : JsNum
  patch : JsNum
  /-- `undefined` when the version has no `-`. -/
  pre : Option String
  deriving DecidableEq, Repr

section IsNewerVersion

variable (toNumber : String → JsNum)

/-- `parseVersion`: `parts[i] ?? 0` is `0` only for a field that is missing, not for `NaN`. -/
def parseVersion (v : String) : Version :=
  let pieces := (jsSplit v '-').take 2
  let main := pieces.headD ""
  let pre := pieces[1]?
  let parts := (jsSplit main '.').map toNumber
  { major := parts[0]?.getD (.fin 0), minor := parts[1]?.getD (.fin 0),
    patch := parts[2]?.getD (.fin 0), pre }

/-- A pre-release tag as a condition: `undefined` and `''` are falsy. -/
def preTruthy : Option String → Bool
  | none => false
  | some s => !s.isEmpty

/-- `if (l.field !== c.field) return l.field > c.field`, and `rest` when they are equal. -/
def compareField (c l : JsNum) (rest : Bool) : Bool :=
  if !l.strictEq c then c.lt l else rest

/-- The comparison of the pre-release tags, once major, minor and patch are equal. -/
def comparePre (c l : Option String) : Bool :=
  if preTruthy c && !preTruthy l then true
  else if !preTruthy c && preTruthy l then false
  else if !preTruthy c && !preTruthy l then false
  else stringLt (c.getD "") (l.getD "")

/-- `isNewerVersion(current, latest)`. -/
def isNewerVersion (current latest : String) : Bool :=
  let c := parseVersion toNumber current
  let l := parseVersion toNumber latest
  compareField c.major l.major <| compareField c.minor l.minor <|
    compareField c.patch l.patch <| comparePre c.pre l.pre

end IsNewerVersion

/-! ## The version check -/

/-- `\d+` at the front of `s`: what follows the longest run of ASCII digits, when the run is not
empty. In `/^\d+\.\d+\.\d+/` a shorter run would be followed by a digit where the pattern
asks for `.`, so the longest run is the only one that can match. -/
def digitRun : List Char → Option (List Char)
  | c :: cs => if c.isDigit then some (cs.dropWhile Char.isDigit) else none
  | [] => none

/-- `isValidVersion(version)`: `/^\d+\.\d+\.\d+/.test(version)`. Without `$` the match need
not reach the end of the string. -/
def isValidVersion (version : String) : Bool :=
  match digitRun version.data with
  | some ('.' :: s) =>
    match digitRun s with
    | some ('.' :: s') => (digitRun s').isSome
    | _ => false
  | _ => false

/-! ## Installing an update -/

/-- What `performUpdate` resolves with. -/
structure UpdateResult where
  success : Bool
  error : Option String
  deriving DecidableEq, Repr

/-- `s.includes(sub)`: `sub` is a contiguous part of `s`. -/
def includes (s sub : String) : Bool := (List.decidableInfix sub.data s.data).decide

/-- The arguments `performUpdate(version)` passes `npm` (`npm.cmd` on `win32`). -/
def updateArgs (version : String) : List String :=
  ["install", "-g", "@ai-support-agent/cli@" ++ version]

/-- `performUpdate(version)`, from what `execFile` passes its callback: no error, or
`error.message` and `stderr`. -/
def performUpdate (version : String) : Option (String × String) → UpdateResult
  | none => ⟨true, none⟩
  | some (errorMessage, stderr) =>
    let message :=
      if !errorMessage.isEmpty then errorMessage
      else if !stderr.isEmpty then stderr
      else "Unknown error"
    if includes message "EACCES" || includes message "permission denied" then
      ⟨false, some ("Permission denied. Try: sudo npm install -g @ai-support-agent/cli@" ++ version)⟩
    else ⟨false, some message⟩

end SupportAgent

import SupportAgent.Js

/-!
# SemVer 2.0.0 precedence

The order `isNewerVersion` is measured against, written from the text of Semantic Versioning
2.0.0 (§2, §9–§11) rather than from the code. A valid version string is the rendering of a `SemVer`:
numeric identifiers are natural numbers written without leading zeros, and the other identifiers
carry their grammar as fields, so that only valid ones can be built.
-/

namespace SupportAgent

/-- A character of an identifier: `[0-9A-Za-z-]`. -/
def identChar (c : Char) : Bool := c.isAlphanum || c == '-'

/-- An alphanumeric pre-release identifier: `[0-9A-Za-z-]+` with a non-digit (§9). -/
structure AlnumId where
  val : String
  chars : val.toList.all identChar = true
  nonDigit : val.toList.any (fun c => !c.isDigit) = true
  deriving DecidableEq

/-- A pre-release identifier (§9): numeric, without leading zeros, or alphanumeric. -/
inductive PreId
  | num (n : Nat)
  | alnum (a : AlnumId)
  deriving DecidableEq

/-- A build identifier: `[0-9A-Za-z-]+` (§10). -/
structure BuildId where
  val : String
  chars : val.toList.all identChar = true
  nonEmpty : val.toList ≠ []
  deriving DecidableEq

/-- A version: `MAJOR.MINOR.PATCH`, then a pre-release and build metadata, each possibly empty. -/
structure SemVer where
  major : Nat
  minor : Nat
  patch : Nat
  pre : List PreId
  build : List BuildId
  deriving DecidableEq

namespace PreId

def render : PreId → String
  | num n => toString n
  | alnum a => a.val

/-- §11.4.1–3: numeric identifiers compare numerically and below alphanumeric ones, which compare
lexically in ASCII order. -/
def lt : PreId → PreId → Bool
  | num a, num b => decide (a < b)
  | num _, alnum _ => true
  | alnum _, num _ => false
  | alnum a, alnum b => unitsLt (a.val.toList.map Char.toNat) (b.val.toList.map Char.toNat)

end PreId

/-- §11.4: identifier by identifier, and a longer list above its own prefix. -/
def preLt : List PreId → List PreId → Bool
  | _, [] => false
  | [], _ :: _ => true
  | a :: as, b :: bs => if a = b then preLt as bs else a.lt b

/-- A pre-release: its identifiers joined by `.`. -/
def renderPre (pre : List PreId) : String := ".".intercalate (pre.map PreId.render)

namespace SemVer

/-- The version string. -/
def render (v : SemVer) : String :=
  toString v.major ++ "." ++ toString v.minor ++ "." ++ toString v.patch ++
    (if v.pre = [] then "" else "-" ++ renderPre v.pre) ++
    (if v.build = [] then "" else "+" ++ ".".intercalate (v.build.map BuildId.val))

/-- `a` has lower precedence than `b` (§11): major, minor and patch numerically, then a
pre-release below its release, then the pre-release identifiers; build metadata is ignored. -/
def lt (a b : SemVer) : Bool :=
  if a.major ≠ b.major then decide (a.major < b.major)
  else if a.minor ≠ b.minor then decide (a.minor < b.minor)
  else if a.patch ≠ b.patch then decide (a.patch < b.patch)
  else match a.pre, b.pre with
    | [], _ => false
    | _ :: _, [] => true
    | pa, pb => preLt pa pb

end SemVer

end SupportAgent

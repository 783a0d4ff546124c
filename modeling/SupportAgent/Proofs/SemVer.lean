import Mathlib.Data.String.Basic
import Mathlib.Data.Nat.Digits
import Mathlib.Data.Nat.Cast.Order.Basic
import Mathlib.Algebra.Order.Ring.Rat
import SupportAgent.SemVer
import SupportAgent.Proofs.UpdateChecker

/-!
# `isNewerVersion` against SemVer precedence

`isNewerVersion` compares the pre-release tags as whole strings, in code-unit order, where SemVer
compares their identifiers one by one and numeric identifiers as numbers: `1.0.0-beta.10` is not
newer than `1.0.0-beta.2` (`numeric_prerelease_compared_as_text`), whatever `Number` returns.

Without build metadata and without `-` in a pre-release identifier, `split('-', 2)` and
`split('.')` give back the fields of a rendered version; and on alphanumeric identifiers, every
character of which is above `.` in code-unit order, comparing the joined tags as strings compares
their identifiers one by one (§11.4). So there the two orders agree
(`isNewerVersion_eq_precedence`), numeric identifiers included when only one version has a
pre-release.

Every SemVer version passes `isValidVersion`, the test of its regular expression, with or without
a pre-release and build metadata (`isValidVersion_render`).
-/

namespace SupportAgent

/-- `beta`. -/
def betaId : AlnumId := ⟨"beta", rfl, rfl⟩

/-- `1.0.0-beta.n`. -/
def betaVersion (n : Nat) : SemVer := ⟨1, 0, 0, [.alnum betaId, .num n], []⟩

/-- `1.0.0-beta.10` has higher precedence than `1.0.0-beta.2`, yet `isNewerVersion` finds it not
newer: the tags `beta.10` and `beta.2` are compared as strings. -/
theorem numeric_prerelease_compared_as_text (toNumber : String → JsNum) :
    (betaVersion 2).render = "1.0.0-beta.2" ∧ (betaVersion 10).render = "1.0.0-beta.10" ∧
    (betaVersion 2).lt (betaVersion 10) = true ∧
    isNewerVersion toNumber (betaVersion 2).render (betaVersion 10).render = false := by
  have h₂ : (betaVersion 2).render = "1.0.0-beta.2" := by decide
  have h₁₀ : (betaVersion 10).render = "1.0.0-beta.10" := by decide
  have hc : parseVersion toNumber "1.0.0-beta.2" =
      ⟨toNumber "1", toNumber "0", toNumber "0", some "beta.2"⟩ := rfl
  have hl : parseVersion toNumber "1.0.0-beta.10" =
      ⟨toNumber "1", toNumber "0", toNumber "0", some "beta.10"⟩ := rfl
  have hpre : comparePre (some "beta.2") (some "beta.10") = false := by decide
  refine ⟨h₂, h₁₀, by decide, ?_⟩
  simp only [h₂, h₁₀, isNewerVersion, hc, hl, hpre, compareField_self]

/-! ## The versions on which the two orders agree -/

/-- An identifier `isNewerVersion` orders as SemVer does: alphanumeric, without `-`. -/
def PreId.plain : PreId → Bool
  | .num _ => false
  | .alnum a => decide ('-' ∉ a.val.toList)

/-- A version whose string `parseVersion` reads back field by field: no build metadata, and no `-`
in a pre-release identifier. -/
def SemVer.plain (v : SemVer) : Bool :=
  v.build.isEmpty && v.pre.all fun p => decide ('-' ∉ p.render.toList)

/-! ## Reading a rendered version back -/

theorem digitChar_isDigit : ∀ d < 10, (Nat.digitChar d).isDigit = true := by
  decide

theorem toDigitsCore_isDigit (fuel n : Nat) (ds : List Char) (hds : ∀ c ∈ ds, c.isDigit = true) :
    ∀ c ∈ Nat.toDigitsCore 10 fuel n ds, c.isDigit = true := by
  induction fuel generalizing n ds with
  | zero => exact hds
  | succ fuel ih =>
    have hd : ∀ c ∈ Nat.digitChar (n % 10) :: ds, c.isDigit = true := by
      simpa [digitChar_isDigit _ (Nat.mod_lt n (by omega))] using hds
    simp only [Nat.toDigitsCore]
    split
    · exact hd
    · exact ih _ _ hd

theorem toDigitsCore_ne_nil (fuel n : Nat) (ds : List Char) :
    Nat.toDigitsCore 10 (fuel + 1) n ds ≠ [] := by
  induction fuel generalizing n ds with
  | zero => simp only [Nat.toDigitsCore]; split <;> simp
  | succ fuel ih =>
    rw [Nat.toDigitsCore]
    split
    · exact List.cons_ne_nil _ _
    · exact ih _ _

theorem toString_no_sep (n : Nat) : '-' ∉ (toString n).data ∧ '.' ∉ (toString n).data := by
  have hdigit : ∀ c ∈ (toString n).data, c.isDigit = true := toDigitsCore_isDigit _ _ _ (by simp)
  constructor <;> intro h <;> simpa using hdigit _ h

theorem PreId.render_ne_nil (p : PreId) : p.render.data ≠ [] := by
  cases p with
  | num n => exact toDigitsCore_ne_nil _ _ _
  | alnum a =>
    show a.val.data ≠ []
    exact fun he => by simpa [he] using a.nonDigit

/-- A version without build metadata: its core joined by `.`, then `-` and the pre-release. -/
theorem render_data {v : SemVer} (hb : v.build = []) :
    v.render.data = ['-'].intercalate
      (['.'].intercalate [(toString v.major).data, (toString v.minor).data,
        (toString v.patch).data] :: if v.pre = [] then [] else [(renderPre v.pre).data]) := by
  simp only [SemVer.render, hb, if_true]
  split <;> simp [List.intercalate]

/-- `parseVersion` splits a rendered version into its numerals and its pre-release. -/
theorem parseVersion_render (toNumber : String → JsNum) {v : SemVer} (hb : v.build = [])
    (hpre : '-' ∉ (renderPre v.pre).data) :
    parseVersion toNumber v.render = ⟨toNumber (toString v.major), toNumber (toString v.minor),
      toNumber (toString v.patch), if v.pre = [] then none else some (renderPre v.pre)⟩ := by
  have hcore := List.splitOn_intercalate [(toString v.major).data,
    (toString v.minor).data, (toString v.patch).data] '.' (by simp [toString_no_sep]) (by simp)
  have hdash := List.splitOn_intercalate (['.'].intercalate [(toString v.major).data,
    (toString v.minor).data, (toString v.patch).data] ::
      if v.pre = [] then [] else [(renderPre v.pre).data]) '-'
      (by split <;> simp [List.intercalate, toString_no_sep, hpre]) (by simp)
  simp only [parseVersion, jsSplit, String.toList, render_data hb, hdash]
  split <;> simp [hcore]

/-! ## Pre-release tags in string order -/

theorem intercalateGo_data (acc s : String) (l : List String) :
    (String.intercalate.go acc s l).data = acc.data ++ (l.map fun a => s.data ++ a.data).flatten := by
  induction l generalizing acc <;> simp [String.intercalate.go, *]

theorem renderPre_nil : renderPre [] = "" := rfl

theorem renderPre_cons_data (a : PreId) (as : List PreId) :
    (renderPre (a :: as)).data =
      a.render.data ++ if as = [] then [] else '.' :: (renderPre as).data := by
  cases as <;> simp [renderPre, String.intercalate, intercalateGo_data]

theorem utf16Units_renderPre_cons (a : PreId) (as : List PreId) :
    utf16Units (renderPre (a :: as)) =
      utf16Units a.render ++ if as = [] then [] else 46 :: utf16Units (renderPre as) := by
  simp only [utf16Units, String.toList, renderPre_cons_data]
  split <;> simp

theorem utf16Units_of_bmp {s : String} (h : ∀ c ∈ s.data, c.toNat < 0x10000) :
    utf16Units s = s.data.map Char.toNat := by
  obtain ⟨l⟩ := s
  induction l with
  | nil => rfl
  | cons c l ih => simp_all [utf16Units]

theorem identChar_codes {c : Char} (h : identChar c = true) (hc : c ≠ '-') :
    46 < c.toNat ∧ c.toNat < 0x10000 := by
  simp [identChar, Char.isAlphanum, Char.isAlpha, Char.isUpper, Char.isLower, Char.isDigit, hc] at h
  simp only [UInt32.le_def, BitVec.le_def, UInt32.toBitVec_ofNat, BitVec.toNat_ofNat] at h
  simp only [Char.toNat, UInt32.toNat]
  omega

theorem PreId.plain_units {p : PreId} (h : p.plain = true) : ∃ a : AlnumId, p = .alnum a ∧
    utf16Units a.val = a.val.data.map Char.toNat ∧ ∀ x ∈ a.val.data.map Char.toNat, 46 < x := by
  cases p with
  | num n => simp [PreId.plain] at h
  | alnum a =>
    have hc : ∀ c ∈ a.val.data, 46 < c.toNat ∧ c.toNat < 0x10000 := fun c hc =>
      identChar_codes (List.all_eq_true.mp a.chars c hc)
        (by rintro rfl; simp [PreId.plain] at h; exact h hc)
    exact ⟨a, rfl, utf16Units_of_bmp fun c h => (hc c h).2, by simpa using fun c h => (hc c h).1⟩

theorem AlnumId.codes_inj {a b : AlnumId} :
    a.val.data.map Char.toNat = b.val.data.map Char.toNat ↔ a = b := by
  refine ⟨fun h => ?_, fun h => h ▸ rfl⟩
  obtain ⟨⟨x⟩, _, _⟩ := a
  obtain ⟨⟨y⟩, _, _⟩ := b
  obtain rfl : x = y :=
    List.map_injective_iff.mpr (Function.LeftInverse.injective Char.ofNat_toNat) h
  rfl

/-- Two code-unit strings, each followed by a tail that starts at or below `.`, compare as the
strings, and as the tails when the strings are equal. -/
theorem unitsLt_append_sep {u v s t : List Nat} (hu : ∀ x ∈ u, 46 < x) (hv : ∀ x ∈ v, 46 < x)
    (hs : ∀ x ∈ s.head?, x ≤ 46) (ht : ∀ x ∈ t.head?, x ≤ 46) :
    unitsLt (u ++ s) (v ++ t) = if u = v then unitsLt s t else unitsLt u v := by
  induction u generalizing v with
  | nil =>
    cases v with
    | nil => simp
    | cons y v =>
      have hy := hv y (by simp)
      cases s with
      | nil => simp [unitsLt]
      | cons x s =>
        have hx := hs x rfl
        simp [unitsLt, show x ≠ y by omega, show x < y by omega]
  | cons x u ih =>
    have hx := hu x (by simp)
    cases v with
    | nil =>
      cases t with
      | nil => simp [unitsLt]
      | cons y t =>
        have hy := ht y rfl
        simp [unitsLt, show x ≠ y by omega, show ¬x < y by omega]
    | cons y v =>
      simp only [List.cons_append, unitsLt, List.cons.injEq]
      by_cases hxy : x = y
      · subst hxy
        simpa using ih (List.forall_mem_cons.mp hu).2 (List.forall_mem_cons.mp hv).2
      · simp [hxy]

theorem sepTail_head (as : List PreId) :
    ∀ x ∈ (if as = [] then [] else 46 :: utf16Units (renderPre as)).head?, x ≤ 46 := by
  split <;> simp

/-- On plain identifiers, the string order of rendered pre-releases is SemVer's (§11.4). -/
theorem stringLt_renderPre {pa pb : List PreId} (ha : pa.all PreId.plain = true)
    (hb : pb.all PreId.plain = true) : stringLt (renderPre pa) (renderPre pb) = preLt pa pb := by
  induction pa generalizing pb with
  | nil =>
    cases pb with
    | nil => rfl
    | cons b bs =>
      simp only [List.all_cons, Bool.and_eq_true] at hb
      obtain ⟨b, rfl, hbu, -⟩ := PreId.plain_units hb.1
      obtain ⟨c, cs, hcs⟩ : ∃ c cs, b.val.data = c :: cs :=
        List.exists_cons_of_ne_nil (PreId.render_ne_nil (.alnum b))
      rw [stringLt, utf16Units_renderPre_cons, PreId.render, hbu, hcs]
      rfl
  | cons a as ih =>
    cases pb with
    | nil => simp [stringLt, renderPre_nil, utf16Units, unitsLt, preLt]
    | cons b bs =>
      simp only [List.all_cons, Bool.and_eq_true] at ha hb
      obtain ⟨a, rfl, hau, hac⟩ := PreId.plain_units ha.1
      obtain ⟨b, rfl, hbu, hbc⟩ := PreId.plain_units hb.1
      rw [stringLt, utf16Units_renderPre_cons, utf16Units_renderPre_cons, PreId.render,
        PreId.render, hau, hbu, unitsLt_append_sep hac hbc (sepTail_head as) (sepTail_head bs)]
      by_cases hab : a = b
      · subst hab
        simp only [if_true, preLt]
        rcases as with _ | ⟨a', as⟩ <;> rcases bs with _ | ⟨b', bs⟩
        · rfl
        · simp [unitsLt, preLt]
        · simp [unitsLt, preLt]
        · simpa [unitsLt] using ih ha.2 hb.2
      · simp [AlnumId.codes_inj, hab, preLt, PreId.lt]

theorem renderPre_no_dash {pre : List PreId}
    (h : pre.all (fun p => decide ('-' ∉ p.render.toList)) = true) : '-' ∉ (renderPre pre).data := by
  induction pre with
  | nil => simp [renderPre_nil]
  | cons a as ih =>
    simp only [List.all_cons, Bool.and_eq_true, decide_eq_true_eq] at h
    rw [renderPre_cons_data]
    split <;> simp_all

/-! ## Agreement -/

theorem compareField_fin (m n : Nat) (r : Bool) :
    compareField (.fin m) (.fin n) r = if m ≠ n then decide (m < n) else r := by
  by_cases h : m = n <;> simp [compareField, JsNum.strictEq, JsNum.lt, h, eq_comm, Nat.cast_lt]

theorem preTruthy_renderPre (p : PreId) (ps : List PreId) :
    preTruthy (some (renderPre (p :: ps))) = true := by
  have hd := renderPre_cons_data p ps
  have : renderPre (p :: ps) ≠ "" := fun he => by simp [he, p.render_ne_nil] at hd
  simpa [preTruthy] using mt (String.isEmpty_iff _).mp this

theorem comparePre_none_left (q : Option String) : comparePre none q = false := by
  unfold comparePre
  cases preTruthy q <;> rfl

theorem comparePre_truthy {s : String} (q : Option String) (hs : preTruthy (some s) = true) :
    comparePre (some s) q = (!preTruthy q || stringLt s (q.getD "")) := by
  unfold comparePre
  rw [hs]
  cases preTruthy q <;> rfl

/-- When `Number` reads the six numerals exactly, `isNewerVersion` is SemVer
precedence on versions without build metadata and without `-` in a pre-release identifier, as long
as, when both versions have a pre-release, their identifiers are alphanumeric. -/
theorem isNewerVersion_eq_precedence (toNumber : String → JsNum) {a b : SemVer}
    (hnum : ∀ n ∈ [a.major, a.minor, a.patch, b.major, b.minor, b.patch],
      toNumber (toString n) = .fin n)
    (ha : a.plain = true) (hb : b.plain = true)
    (hpre : a.pre ≠ [] → b.pre ≠ [] → a.pre.all PreId.plain = true ∧ b.pre.all PreId.plain = true) :
    isNewerVersion toNumber a.render b.render = a.lt b := by
  simp only [SemVer.plain, Bool.and_eq_true, List.isEmpty_iff] at ha hb
  simp only [List.mem_cons, List.not_mem_nil, or_false, forall_eq_or_imp, forall_eq] at hnum
  obtain ⟨h₁, h₂, h₃, h₄, h₅, h₆⟩ := hnum
  simp only [isNewerVersion, parseVersion_render toNumber ha.1 (renderPre_no_dash ha.2),
    parseVersion_render toNumber hb.1 (renderPre_no_dash hb.2), h₁, h₂, h₃, h₄, h₅, h₆,
    compareField_fin, SemVer.lt]
  obtain ⟨am, an, ap, pa, ab⟩ := a
  obtain ⟨bm, bn, bp, pb, bb⟩ := b
  -- major, minor and patch decide alike; what is left is the pre-release
  congr 1; congr 1; congr 1
  cases pa with
  | nil => exact comparePre_none_left _
  | cons x xs =>
    rw [if_neg (List.cons_ne_nil x xs), comparePre_truthy _ (preTruthy_renderPre x xs)]
    cases pb with
    | nil => rfl
    | cons y ys =>
      obtain ⟨hpa, hpb⟩ := hpre (List.cons_ne_nil x xs) (List.cons_ne_nil y ys)
      rw [if_neg (List.cons_ne_nil y ys), preTruthy_renderPre y ys, Option.getD_some,
        Bool.not_true, Bool.false_or]
      exact stringLt_renderPre hpa hpb

/-- The example of the source's comment: `1.0.0-beta.1` is older than `1.0.0`, with a `Number` that
reads `0` and `1`. -/
theorem isNewerVersion_beta_release :
    isNewerVersion (fun s => if s = "1" then .fin 1 else .fin 0) (betaVersion 1).render
        (⟨1, 0, 0, [], []⟩ : SemVer).render = (betaVersion 1).lt ⟨1, 0, 0, [], []⟩ :=
  isNewerVersion_eq_precedence _ (by decide) (by decide) (by decide) (by decide)

/-! ## The version check -/

/-- What `/^\d+\.\d+\.\d+/` matches at the front of a string: three non-empty runs of digits
joined by dots. -/
def CorePrefix (s : List Char) : Prop :=
  ∃ a b c rest, a ≠ [] ∧ b ≠ [] ∧ c ≠ [] ∧ (∀ x ∈ a ++ b ++ c, x.isDigit = true) ∧
    s = a ++ '.' :: (b ++ '.' :: (c ++ rest))

theorem digitRun_dot {d : List Char} (hd : d ≠ []) (hdig : ∀ x ∈ d, x.isDigit = true)
    (r : List Char) : digitRun (d ++ '.' :: r) = some ('.' :: r) := by
  obtain ⟨x, xs, rfl⟩ := List.exists_cons_of_ne_nil hd
  have hxs : xs.dropWhile Char.isDigit = [] :=
    List.dropWhile_eq_nil_iff.2 fun y hy => hdig y (List.mem_cons_of_mem x hy)
  simp [digitRun, hdig x (List.mem_cons_self x xs), List.dropWhile_append, hxs]

theorem digitRun_isSome {c : List Char} (hc : c ≠ []) (hdig : ∀ x ∈ c, x.isDigit = true)
    (rest : List Char) : (digitRun (c ++ rest)).isSome = true := by
  obtain ⟨x, xs, rfl⟩ := List.exists_cons_of_ne_nil hc
  simp [digitRun, hdig x (List.mem_cons_self x xs)]

theorem isValidVersion_of_corePrefix {version : String} (h : CorePrefix version.data) :
    isValidVersion version = true := by
  obtain ⟨a, b, c, rest, ha, hb, hc, hdig, hv⟩ := h
  simp only [List.mem_append, or_imp, forall_and] at hdig
  simp only [isValidVersion, hv, digitRun_dot ha hdig.1.1, digitRun_dot hb hdig.1.2,
    digitRun_isSome hc hdig.2]

/-- Every SemVer version passes the check, whatever its pre-release and build metadata. -/
theorem isValidVersion_render (v : SemVer) : isValidVersion v.render = true := by
  have hnum (n : Nat) : (toString n).data ≠ [] ∧ ∀ x ∈ (toString n).data, x.isDigit = true :=
    ⟨toDigitsCore_ne_nil _ _ _, toDigitsCore_isDigit _ _ _ (by simp)⟩
  refine isValidVersion_of_corePrefix ⟨_, _, _, _, (hnum v.major).1, (hnum v.minor).1,
    (hnum v.patch).1, ?_, by simp [SemVer.render]; rfl⟩
  simp only [List.mem_append]
  rintro x ((h | h) | h)
  exacts [(hnum _).2 x h, (hnum _).2 x h, (hnum _).2 x h]

end SupportAgent

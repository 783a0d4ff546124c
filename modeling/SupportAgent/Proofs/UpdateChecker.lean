import SupportAgent.UpdateChecker

/-!
# `isNewerVersion` is a strict order

On every pair of strings `isNewerVersion` compares major, minor and patch as a lexicographic order
in which `NaN` is below, above and equal to nothing, then the pre-release tags, with a falsy tag
above every truthy one and truthy tags in string order. Each step is irreflexive and transitive,
whatever `Number` returns, so the whole is a strict partial order on all strings
(`isNewerVersion_strictOrder`).
-/

namespace SupportAgent

/-! ## Numbers and strings -/

namespace JsNum

theorem lt_irrefl (x : JsNum) : x.lt x = false := by
  cases x <;> simp [lt]

theorem lt_trans {x y z : JsNum} (h1 : x.lt y = true) (h2 : y.lt z = true) : x.lt z = true := by
  cases x <;> cases y <;> cases z <;> simp_all [lt]
  exact h1.trans h2

theorem strictEq_iff {x y : JsNum} : x.strictEq y = true ↔ x = y ∧ x ≠ nan := by
  cases x <;> cases y <;> simp [strictEq]

theorem strictEq_of_lt {x y : JsNum} (h : x.lt y = true) : y.strictEq x = false := by
  cases hy : y.strictEq x
  · rfl
  · obtain ⟨rfl, -⟩ := strictEq_iff.mp hy
    simp [lt_irrefl] at h

end JsNum

theorem unitsLt_irrefl (a : List Nat) : unitsLt a a = false := by
  induction a <;> simp_all [unitsLt]

theorem unitsLt_trans {a b c : List Nat} (h1 : unitsLt a b = true) (h2 : unitsLt b c = true) :
    unitsLt a c = true := by
  induction a generalizing b c with
  | nil =>
    cases b with
    | nil => simp [unitsLt] at h1
    | cons y b => cases c <;> simp_all [unitsLt]
  | cons x a ih =>
    cases b with
    | nil => simp [unitsLt] at h1
    | cons y b =>
      cases c with
      | nil => simp [unitsLt] at h2
      | cons z c =>
        simp only [unitsLt] at h1 h2 ⊢
        by_cases hxy : x = y <;> by_cases hyz : y = z
        · subst hxy hyz
          simpa using ih (by simpa using h1) (by simpa using h2)
        · subst hxy
          simpa [hyz] using h2
        · subst hyz
          simpa [hxy] using h1
        · simp only [hxy, hyz, if_false, decide_eq_true_eq] at h1 h2
          simp only [show x ≠ z by omega, if_false, decide_eq_true_eq]
          omega

theorem stringLt_irrefl (s : String) : stringLt s s = false := unitsLt_irrefl _

theorem stringLt_trans {a b c : String} (h1 : stringLt a b = true) (h2 : stringLt b c = true) :
    stringLt a c = true := unitsLt_trans h1 h2

/-! ## One step of the comparison -/

theorem compareField_self (x : JsNum) : compareField x x false = false := by
  simp [compareField, JsNum.lt_irrefl]

/-- A field decides when the two values differ, `NaN` included, and passes to the rest when they
are equal numbers. -/
theorem compareField_trans {x y z : JsNum} {r₁ r₂ r₃ : Bool} (h₁ : compareField x y r₁ = true)
    (h₂ : compareField y z r₂ = true) (hr : r₁ = true → r₂ = true → r₃ = true) :
    compareField x z r₃ = true := by
  unfold compareField at *
  cases hxy : y.strictEq x <;> cases hyz : z.strictEq y <;> simp only [hxy, hyz] at h₁ h₂ <;>
    simp only [Bool.not_false, Bool.not_true, if_true, if_false] at h₁ h₂
  · rw [JsNum.strictEq_of_lt (JsNum.lt_trans h₁ h₂)]
    exact JsNum.lt_trans h₁ h₂
  · obtain ⟨rfl, -⟩ := JsNum.strictEq_iff.mp hyz
    simp [hxy, h₁]
  · obtain ⟨rfl, -⟩ := JsNum.strictEq_iff.mp hxy
    simp [hyz, h₂]
  · obtain ⟨rfl, -⟩ := JsNum.strictEq_iff.mp hxy
    obtain ⟨rfl, -⟩ := JsNum.strictEq_iff.mp hyz
    simp [hxy, hr h₁ h₂]

theorem comparePre_eq_true {p q : Option String} :
    comparePre p q = true ↔
      preTruthy p = true ∧ (preTruthy q = false ∨ stringLt (p.getD "") (q.getD "") = true) := by
  unfold comparePre
  cases preTruthy p <;> cases preTruthy q <;> simp

theorem comparePre_self (p : Option String) : comparePre p p = false := by
  cases h : comparePre p p
  · rfl
  · simp [comparePre_eq_true, stringLt_irrefl] at h

theorem comparePre_trans {p q r : Option String} (h₁ : comparePre p q = true)
    (h₂ : comparePre q r = true) : comparePre p r = true := by
  rw [comparePre_eq_true] at *
  obtain ⟨hp, hpq⟩ := h₁
  obtain ⟨hq, hqr⟩ := h₂
  have hlt : stringLt (p.getD "") (q.getD "") = true := by simpa [hq] using hpq
  rcases hqr with hr | hr
  · exact ⟨hp, .inl hr⟩
  · exact ⟨hp, .inr (stringLt_trans hlt hr)⟩

/-! ## The order -/

section

variable (toNumber : String → JsNum)

theorem isNewerVersion_irrefl (v : String) : isNewerVersion toNumber v v = false := by
  simp only [isNewerVersion, comparePre_self, compareField_self]

theorem isNewerVersion_trans {a b c : String} (h₁ : isNewerVersion toNumber a b = true)
    (h₂ : isNewerVersion toNumber b c = true) : isNewerVersion toNumber a c = true :=
  compareField_trans h₁ h₂ fun h₁ h₂ => compareField_trans h₁ h₂ fun h₁ h₂ =>
    compareField_trans h₁ h₂ comparePre_trans

/-- Whatever `Number` returns, `isNewerVersion` is irreflexive and transitive
on all strings, hence asymmetric. -/
theorem isNewerVersion_strictOrder :
    (∀ v, isNewerVersion toNumber v v = false) ∧
    (∀ a b c, isNewerVersion toNumber a b = true → isNewerVersion toNumber b c = true →
      isNewerVersion toNumber a c = true) ∧
    (∀ a b, isNewerVersion toNumber a b = true → isNewerVersion toNumber b a = false) :=
  ⟨isNewerVersion_irrefl toNumber, fun _ _ _ => isNewerVersion_trans toNumber,
    fun a _ h₁ => Bool.eq_false_iff.mpr fun h₂ =>
      absurd (isNewerVersion_trans toNumber h₁ h₂) (by simp [isNewerVersion_irrefl])⟩

end

end SupportAgent

import Mathlib

/-!
# Numbers of the risk engine

`risk-engine.ts` computes with JavaScript numbers. The model computes in an arbitrary
linearly ordered field with a floor, so that every statement holds over the reals, and
takes the transcendental functions of `Math` that the engine calls as an interface
`JsMath` that carries the laws of them the engine depends on.
-/

namespace NovaFund.Risk

/-- The functions of JavaScript's `Math` that the engine calls beyond field arithmetic,
with the laws the engine's results depend on. -/
structure JsMath (α : Type) [LinearOrderedField α] where
  /-- `Math.log1p`, the natural logarithm of `1 + x`. -/
  log1p : α → α
  /-- `Math.exp`. -/
  exp : α → α
  /-- `Math.sqrt`. -/
  sqrt : α → α
  log1p_pos : ∀ x, 0 < x → 0 < log1p x
  log1p_le_log1p : ∀ x y, 0 < x → x ≤ y → log1p x ≤ log1p y
  exp_pos : ∀ x, 0 < exp x
  exp_lt_exp : ∀ x y, x < y → exp x < exp y
  sqrt_nonneg : ∀ x, 0 ≤ x → 0 ≤ sqrt x

variable {α : Type} [LinearOrderedField α]

/-- `clamp`: `Math.min(1, Math.max(0, v))`. -/
def clamp (v : α) : α := min 1 (max 0 v)

/-- `logNorm`: zero for a non-positive value, otherwise `log1p value / log1p reference`
clamped to the unit interval. -/
def logNorm (M : JsMath α) (value reference : α) : α :=
  if value ≤ 0 then 0 else clamp (M.log1p value / M.log1p reference)

theorem clamp_nonneg (v : α) : 0 ≤ clamp v :=
  le_min zero_le_one (le_max_left 0 v)

theorem clamp_le_one (v : α) : clamp v ≤ 1 := min_le_left 1 _

theorem clamp_mem (v : α) : 0 ≤ clamp v ∧ clamp v ≤ 1 := ⟨clamp_nonneg v, clamp_le_one v⟩

theorem clamp_mono : Monotone (clamp : α → α) :=
  fun _ _ h => min_le_min_left 1 (max_le_max_left 0 h)

theorem clamp_of_nonpos {v : α} (h : v ≤ 0) : clamp v = 0 := by
  rw [clamp, max_eq_left h, min_eq_right zero_le_one]

theorem clamp_of_one_le {v : α} (h : 1 ≤ v) : clamp v = 1 := by
  rw [clamp, max_eq_right (zero_le_one.trans h), min_eq_left h]

theorem clamp_of_mem {v : α} (h0 : 0 ≤ v) (h1 : v ≤ 1) : clamp v = v := by
  rw [clamp, max_eq_right h0, min_eq_right h1]

theorem logNorm_nonneg (M : JsMath α) (value reference : α) :
    0 ≤ logNorm M value reference := by
  unfold logNorm
  split
  · exact le_rfl
  · exact clamp_nonneg _

theorem logNorm_le_one (M : JsMath α) (value reference : α) :
    logNorm M value reference ≤ 1 := by
  unfold logNorm
  split
  · exact zero_le_one
  · exact clamp_le_one _

theorem logNorm_mem (M : JsMath α) (value reference : α) :
    0 ≤ logNorm M value reference ∧ logNorm M value reference ≤ 1 :=
  ⟨logNorm_nonneg M value reference, logNorm_le_one M value reference⟩

theorem logNorm_of_nonpos (M : JsMath α) {value : α} (reference : α) (h : value ≤ 0) :
    logNorm M value reference = 0 := if_pos h

/-- A clamped ratio grows with its numerator and as its positive denominator shrinks; a
non-positive numerator clamps to zero whatever the denominator. -/
theorem clamp_div_le_clamp_div {a a' d d' : α} (ha : a ≤ a') (hd' : 0 < d') (hdd : d' ≤ d) :
    clamp (a / d) ≤ clamp (a' / d') := by
  rcases le_or_lt a 0 with ha0 | ha0
  · rw [clamp_of_nonpos (div_nonpos_of_nonpos_of_nonneg ha0 (hd'.le.trans hdd))]
    exact clamp_nonneg _
  · apply clamp_mono
    calc a / d ≤ a / d' := div_le_div_of_nonneg_left ha0.le hd' hdd
      _ ≤ a' / d' := div_le_div_of_nonneg_right ha hd'.le

/-- `logNorm` against a positive reference is monotone in the value: a non-positive value
scores zero, and `log1p` is positive and monotone on positive values. -/
theorem logNorm_mono (M : JsMath α) {reference : α} (href : 0 < reference) :
    Monotone (fun value => logNorm M value reference) := by
  intro v w hvw
  have hden := M.log1p_pos reference href
  by_cases hv : v ≤ 0
  · simp only [logNorm_of_nonpos M reference hv]
    exact logNorm_nonneg M w reference
  · have hw : ¬ w ≤ 0 := fun hw => hv (hvw.trans hw)
    simp only [logNorm, if_neg hv, if_neg hw]
    apply clamp_mono
    exact div_le_div_of_nonneg_right
      (M.log1p_le_log1p v w (lt_of_not_le hv) hvw) hden.le

/-- A value at or beyond the reference saturates `logNorm` at one. -/
theorem logNorm_of_reference_le (M : JsMath α) {value reference : α} (href : 0 < reference)
    (h : reference ≤ value) : logNorm M value reference = 1 := by
  have hden := M.log1p_pos reference href
  have hnum := M.log1p_le_log1p reference value href h
  rw [logNorm, if_neg (not_le.mpr (href.trans_le h))]
  exact clamp_of_one_le ((one_le_div hden).mpr hnum)

section Round

variable [FloorRing α]

/-- `Math.round`: the integer nearest to `x`, halves rounded up. -/
def jsRound (x : α) : ℤ := ⌊x + 1 / 2⌋

theorem jsRound_mono : Monotone (jsRound : α → ℤ) :=
  fun _ _ h => Int.floor_mono (add_le_add_right h _)

theorem jsRound_nonneg {x : α} (h : 0 ≤ x) : 0 ≤ jsRound x :=
  Int.floor_nonneg.mpr (by linarith)

theorem le_jsRound {x : α} {n : ℤ} (h : (n : α) ≤ x) : n ≤ jsRound x :=
  Int.le_floor.mpr (by linarith)

theorem jsRound_le {x : α} {n : ℤ} (h : x ≤ n) : jsRound x ≤ n := by
  rw [← Int.lt_add_one_iff, jsRound, Int.floor_lt]
  push_cast
  linarith

/-- `Math.round` of an integer is that integer. -/
theorem jsRound_intCast (n : ℤ) : jsRound (n : α) = n := by
  rw [jsRound, Int.floor_eq_iff]
  constructor <;> linarith

/-- Rounding a value of the unit interval scaled by a hundred gives a score in `[0, 100]`. -/
theorem jsRound_hundred_mem {x : α} (h : 0 ≤ x ∧ x ≤ 1) :
    0 ≤ jsRound (100 * x) ∧ jsRound (100 * x) ≤ 100 :=
  ⟨jsRound_nonneg (by linarith [h.1]), jsRound_le (by push_cast; linarith [h.2])⟩

end Round

end NovaFund.Risk

import NovaFund.Risk.Numeric

/-!
# JavaScript's `Math` over the reals

The real logarithm, exponential and square root satisfy the laws `JsMath` asks for, so
every result proved for an arbitrary `JsMath` holds of the engine computing over `ℝ`.
-/

namespace NovaFund.Risk

/-- `Math.log1p`, `Math.exp` and `Math.sqrt` as the real functions they approximate. -/
noncomputable def realMath : JsMath ℝ where
  log1p x := Real.log (1 + x)
  exp := Real.exp
  sqrt := Real.sqrt
  log1p_pos _ hx := Real.log_pos (by linarith)
  log1p_le_log1p _ _ hx hxy := Real.log_le_log (by linarith) (by linarith)
  exp_pos := Real.exp_pos
  exp_lt_exp _ _ h := Real.exp_lt_exp.mpr h
  sqrt_nonneg x _ := Real.sqrt_nonneg x

end NovaFund.Risk

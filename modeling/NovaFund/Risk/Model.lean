import NovaFund.Risk.Features

/-!
# The success-prediction ensemble

A logistic regression, five gradient-boosted stumps of depth two and five linear
"random forest" trees, blended into a probability with a confidence interval
(`risk-engine.ts`, "ML Model").
-/

namespace NovaFund.Risk

variable {α : Type} [LinearOrderedField α]

/-- `LR_WEIGHTS`, in the order `Object.keys` lists them. -/
def LR_WEIGHTS : List (FeatureKey × α) :=
  [(.fundingCompletionRate, 0.18), (.fundingVelocityNorm, 0.12),
   (.earlyMomentum, 0.14), (.daysRemainingRatio, 0.05),
   (.whaleConcentration, -0.10), (.teamStrength, 0.13),
   (.teamExperience, 0.07), (.prevSuccessBoost, 0.09),
   (.advisoryStrength, 0.06), (.communityEngagement, 0.10),
   (.sentimentNorm, 0.08), (.githubActivity, 0.07),
   (.socialReach, 0.04), (.techRobustness, 0.11),
   (.auditSafety, 0.09), (.contractSecurity, 0.10),
   (.projectQuality, 0.10), (.roadmapScore, 0.07),
   (.whitepaperQuality, 0.06), (.legalRisk, -0.09),
   (.liquidityRisk, -0.06), (.categoryRisk, -0.05)]

/-- `LR_WEIGHTS[k] ?? 0`. -/
def lrWeight (k : FeatureKey) : α := (LR_WEIGHTS.lookup k).getD 0

/-- The logit that `runLogisticRegression` accumulates over `Object.keys(LR_WEIGHTS)`. -/
def logit (fv : FeatureVector α) : α :=
  LR_WEIGHTS.foldl (fun acc kw => acc + kw.2 * fv.get kw.1) (-0.5)

/-- `runLogisticRegression`. -/
def runLogisticRegression (M : JsMath α) (fv : FeatureVector α) : α :=
  1 / (1 + M.exp (-logit fv * 4))

/-- An additive accumulation carries a shift of its start value through to its result. -/
theorem foldl_add_shift (L : List (FeatureKey × α)) (g : FeatureKey × α → α) (a d : α) :
    L.foldl (fun acc kw => acc + g kw) (a + d) = L.foldl (fun acc kw => acc + g kw) a + d := by
  induction L generalizing a with
  | nil => rfl
  | cons kw L ih => simp only [List.foldl_cons, add_right_comm a d, ih]

/-- Accumulating `w * fv[k]` over a table with distinct keys: replacing feature `k` by `v`
moves the sum by `k`'s weight times the change. -/
theorem foldl_weighted_set {L : List (FeatureKey × α)} (hL : (L.map Prod.fst).Nodup)
    (fv : FeatureVector α) (k : FeatureKey) (v acc : α) :
    L.foldl (fun acc kw => acc + kw.2 * (fv.set k v).get kw.1) acc =
      L.foldl (fun acc kw => acc + kw.2 * fv.get kw.1) acc +
        (L.lookup k).getD 0 * (v - fv.get k) := by
  induction L generalizing acc with
  | nil => simp
  | cons jw L ih =>
    obtain ⟨j, w⟩ := jw
    rw [List.map_cons, List.nodup_cons] at hL
    dsimp only at hL
    simp only [List.foldl_cons, ih hL.2, List.lookup_cons]
    by_cases hjk : j = k
    · subst hjk
      have hnone : L.lookup j = none := by
        rw [List.lookup_eq_none_iff]
        intro p hp
        simp only [bne_iff_ne, ne_eq]
        rintro rfl
        exact hL.1 (List.mem_map_of_mem Prod.fst hp)
      have hshift := foldl_add_shift L (fun kw => kw.2 * fv.get kw.1) acc (w * fv.get j)
      have hshift' := foldl_add_shift L (fun kw => kw.2 * fv.get kw.1) acc (w * v)
      simp only [FeatureVector.get_set_self, hnone, beq_self_eq_true, Option.getD_none,
        Option.getD_some, zero_mul, add_zero, hshift, hshift']
      ring
    · have hkj : (k == j) = false := beq_false_of_ne (Ne.symm hjk)
      simp only [FeatureVector.get_set_of_ne _ _ hjk, hkj]

/-- Resetting one feature moves the logit by that feature's weight times the change. -/
theorem logit_set (fv : FeatureVector α) (k : FeatureKey) (v : α) :
    logit (fv.set k v) = logit fv + lrWeight k * (v - fv.get k) := by
  have hkeys : ((LR_WEIGHTS : List (FeatureKey × α)).map Prod.fst).Nodup := by
    simp only [LR_WEIGHTS, List.map_cons, List.map_nil]
    decide
  exact foldl_weighted_set hkeys fv k v _

/-- The logistic regression is strictly increasing in the logit: `Math.exp` is positive
and strictly increasing. -/
theorem runLogisticRegression_lt_iff (M : JsMath α) (fv fv' : FeatureVector α) :
    runLogisticRegression M fv < runLogisticRegression M fv' ↔ logit fv < logit fv' := by
  have key : ∀ x y : α, x < y → 1 / (1 + M.exp (-x * 4)) < 1 / (1 + M.exp (-y * 4)) :=
    fun x y hxy => one_div_lt_one_div_of_lt (by linarith [M.exp_pos (-y * 4)])
      (by linarith [M.exp_lt_exp (-y * 4) (-x * 4) (by linarith)])
  constructor
  · intro h
    by_contra hle
    rcases (not_lt.mp hle).lt_or_eq with hlt | heq
    · exact absurd (key _ _ hlt) (not_lt.mpr h.le)
    · exact absurd h (by simp [runLogisticRegression, heq])
  · exact key _ _

/-- `TreeNode`: a leaf is the source's bare number. -/
inductive TreeNode (α : Type)
  | leaf (value : α)
  | node (f : FeatureKey) (t : α) (l r : TreeNode α)

/-- `evalTree`. -/
def evalTree (node : TreeNode α) (fv : FeatureVector α) : α :=
  match node with
  | .leaf v => v
  | .node f t l r => if fv.get f ≤ t then evalTree l fv else evalTree r fv

/-- `GBDT_TREES`. -/
def GBDT_TREES : List (TreeNode α) :=
  [.node .fundingCompletionRate 0.5
      (.node .earlyMomentum 0.3 (.leaf (-0.12)) (.leaf 0.04))
      (.node .fundingVelocityNorm 0.6 (.leaf 0.08) (.leaf 0.18)),
   .node .teamStrength 0.5
      (.node .prevSuccessBoost 0.5 (.leaf (-0.10)) (.leaf 0.02))
      (.node .advisoryStrength 0.4 (.leaf 0.06) (.leaf 0.14)),
   .node .contractSecurity 0.5
      (.node .auditSafety 0.3 (.leaf (-0.15)) (.leaf (-0.03)))
      (.node .techRobustness 0.6 (.leaf 0.05) (.leaf 0.12)),
   .node .sentimentNorm 0.45
      (.node .communityEngagement 0.3 (.leaf (-0.08)) (.leaf (-0.02)))
      (.node .socialReach 0.5 (.leaf 0.04) (.leaf 0.10)),
   .node .legalRisk 0.5
      (.node .liquidityRisk 0.6 (.leaf 0.06) (.leaf (-0.02)))
      (.node .whaleConcentration 0.4 (.leaf (-0.04)) (.leaf (-0.13)))]

/-- `runGBDT`. -/
def runGBDT (fv : FeatureVector α) : α :=
  clamp (0.5 + 0.1 * GBDT_TREES.foldl (fun sum tree => sum + evalTree tree fv) 0)

/-- An entry of `RF_TREES`: feature `features[i]` carries weight `weights[i]`. -/
structure RFTree (α : Type) where
  features : List FeatureKey
  weights : List α

/-- `RF_TREES`. -/
def RF_TREES : List (RFTree α) :=
  [⟨[.fundingCompletionRate, .earlyMomentum, .teamStrength], [0.45, 0.35, 0.20]⟩,
   ⟨[.communityEngagement, .githubActivity, .sentimentNorm], [0.40, 0.35, 0.25]⟩,
   ⟨[.contractSecurity, .techRobustness, .auditSafety], [0.40, 0.35, 0.25]⟩,
   ⟨[.projectQuality, .roadmapScore, .advisoryStrength], [0.40, 0.30, 0.30]⟩,
   ⟨[.teamExperience, .prevSuccessBoost, .socialReach], [0.35, 0.40, 0.25]⟩]

/-- One tree's prediction in `runRandomForest`: its weighted feature sum, clamped. Every
tree of `RF_TREES` has as many weights as features, so pairing them index by index is
the source's `weights[i]`. -/
def RFTree.predict (tree : RFTree α) (fv : FeatureVector α) : α :=
  clamp ((tree.features.zip tree.weights).foldl (fun sum fw => sum + fv.get fw.1 * fw.2) 0)

/-- `runRandomForest`. -/
def runRandomForest (fv : FeatureVector α) : α :=
  let preds := RF_TREES.map (fun tree => tree.predict fv)
  preds.foldl (· + ·) 0 / preds.length

/-! ## The range of each model

Each model gives a value in the unit interval whatever the features are: the sigmoid
because `Math.exp` is positive, the boosted trees through their clamp, and the forest as
the mean of five clamped sums. -/

theorem runLogisticRegression_mem (M : JsMath α) (fv : FeatureVector α) :
    0 ≤ runLogisticRegression M fv ∧ runLogisticRegression M fv ≤ 1 := by
  have hexp := (M.exp_pos (-logit fv * 4)).le
  have hpos : (0 : α) < 1 + M.exp (-logit fv * 4) := add_pos_of_pos_of_nonneg one_pos hexp
  exact ⟨(one_div_pos.mpr hpos).le, (div_le_one hpos).mpr (le_add_of_nonneg_right hexp)⟩

theorem runGBDT_mem (fv : FeatureVector α) : 0 ≤ runGBDT fv ∧ runGBDT fv ≤ 1 :=
  clamp_mem _

/-- The mean of values in the unit interval is in the unit interval. -/
theorem foldl_add_div_length_mem {xs : List α} (hne : xs ≠ []) (h : ∀ x ∈ xs, 0 ≤ x ∧ x ≤ 1) :
    0 ≤ xs.foldl (· + ·) (0 : α) / xs.length ∧ xs.foldl (· + ·) (0 : α) / xs.length ≤ 1 := by
  rw [← List.sum_eq_foldl]
  have hlen : (0 : α) < xs.length := Nat.cast_pos.mpr (List.length_pos.mpr hne)
  refine ⟨div_nonneg (List.sum_nonneg fun x hx => (h x hx).1) hlen.le, (div_le_one hlen).mpr ?_⟩
  simpa only [nsmul_eq_mul, mul_one] using List.sum_le_card_nsmul xs 1 fun x hx => (h x hx).2

theorem runRandomForest_mem (fv : FeatureVector α) :
    0 ≤ runRandomForest fv ∧ runRandomForest fv ≤ 1 :=
  foldl_add_div_length_mem (by simp [RF_TREES]) fun _ hx => by
    obtain ⟨tree, -, rfl⟩ := List.mem_map.mp hx
    exact clamp_mem _

/-- The ensemble's blend of three values in the unit interval is in it: its weights are
non-negative and sum to one. -/
theorem blend_mem {lr gb rf : α} (hlr : 0 ≤ lr ∧ lr ≤ 1) (hgb : 0 ≤ gb ∧ gb ≤ 1)
    (hrf : 0 ≤ rf ∧ rf ≤ 1) :
    0 ≤ 0.35 * lr + 0.45 * gb + 0.20 * rf ∧ 0.35 * lr + 0.45 * gb + 0.20 * rf ≤ 1 := by
  obtain ⟨hl, hl'⟩ := hlr
  obtain ⟨hg, hg'⟩ := hgb
  obtain ⟨hr, hr'⟩ := hrf
  refine ⟨by positivity, ?_⟩
  calc 0.35 * lr + 0.45 * gb + 0.20 * rf ≤ 0.35 * 1 + 0.45 * 1 + 0.20 * 1 := by gcongr
    _ = 1 := by norm_num

/-- The weighted variance of the three models is non-negative. -/
theorem weighted_sq_nonneg (a b c : α) : 0 ≤ 0.35 * a ^ 2 + 0.45 * b ^ 2 + 0.20 * c ^ 2 := by
  positivity

/-- `SuccessPrediction["confidenceLevel"]`. -/
inductive ConfidenceLevel
  | LOW | MEDIUM | HIGH
  deriving DecidableEq, Repr

/-- `SuccessPrediction`. -/
structure SuccessPrediction (α : Type) where
  probability : α
  confidenceInterval : α × α
  confidenceLevel : ConfidenceLevel

variable [FloorRing α]

/-- `predictSuccessProbability`. -/
def predictSuccessProbability (M : JsMath α) (fv : FeatureVector α) : SuccessPrediction α :=
  let lr := runLogisticRegression M fv
  let gb := runGBDT fv
  let rf := runRandomForest fv
  let prob := 0.35 * lr + 0.45 * gb + 0.20 * rf
  let variance := 0.35 * (lr - prob) ^ 2 + 0.45 * (gb - prob) ^ 2 + 0.20 * (rf - prob) ^ 2
  let std := M.sqrt variance
  let margin := 1.96 * std
  { probability := (jsRound (prob * 1000) : α) / 1000
    confidenceInterval :=
      ((jsRound (max 0 (prob - margin) * 1000) : α) / 1000,
        (jsRound (min 1 (prob + margin) * 1000) : α) / 1000)
    confidenceLevel := if std < 0.05 then .HIGH else if std < 0.12 then .MEDIUM else .LOW }

/-! ## The prediction's interval -/

/-- `Math.round(x * 1000) / 1000` is monotone. -/
theorem round_thousandths_mono {x y : α} (h : x ≤ y) :
    (jsRound (x * 1000) : α) / 1000 ≤ (jsRound (y * 1000) : α) / 1000 :=
  div_le_div_of_nonneg_right
    (Int.cast_le.mpr (jsRound_mono (mul_le_mul_of_nonneg_right h (by norm_num)))) (by norm_num)

/-- Rounding to thousandths keeps a value of the unit interval in it. -/
theorem round_thousandths_mem {x : α} (h : 0 ≤ x ∧ x ≤ 1) :
    0 ≤ (jsRound (x * 1000) : α) / 1000 ∧ (jsRound (x * 1000) : α) / 1000 ≤ 1 := by
  have h0 : 0 ≤ x * 1000 := mul_nonneg h.1 (by norm_num)
  have h1 : x * 1000 ≤ ((1000 : ℤ) : α) := by
    rw [Int.cast_ofNat]
    exact mul_le_of_le_one_left (by norm_num) h.2
  refine ⟨div_nonneg (Int.cast_nonneg.mpr (jsRound_nonneg h0)) (by norm_num),
    (div_le_one (by norm_num)).mpr ?_⟩
  exact_mod_cast jsRound_le h1

/-- The rounded interval of a probability `prob` widened by a non-negative `margin` and cut
to the unit interval holds the rounded probability, and lies in the unit interval. -/
theorem rounded_interval_mem {prob margin : α} (hp : 0 ≤ prob ∧ prob ≤ 1) (hm : 0 ≤ margin) :
    0 ≤ (jsRound (max 0 (prob - margin) * 1000) : α) / 1000 ∧
      (jsRound (max 0 (prob - margin) * 1000) : α) / 1000 ≤ (jsRound (prob * 1000) : α) / 1000 ∧
      (jsRound (prob * 1000) : α) / 1000 ≤ (jsRound (min 1 (prob + margin) * 1000) : α) / 1000 ∧
      (jsRound (min 1 (prob + margin) * 1000) : α) / 1000 ≤ 1 :=
  ⟨(round_thousandths_mem ⟨le_max_left _ _, max_le zero_le_one ((sub_le_self _ hm).trans hp.2)⟩).1,
    round_thousandths_mono (max_le hp.1 (sub_le_self _ hm)),
    round_thousandths_mono (le_min hp.2 (le_add_of_nonneg_right hm)),
    (round_thousandths_mem ⟨le_min zero_le_one (add_nonneg hp.1 hm), min_le_left _ _⟩).2⟩

/-- For every feature vector, whatever its values, `predictSuccessProbability` returns a
confidence interval `[lo, hi]` and a probability `p` with `0 ≤ lo ≤ p ≤ hi ≤ 1`: the blend
of three models in the unit interval is in it, and the margin is non-negative because the
weighted variance is. -/
theorem predictSuccessProbability_interval_mem (M : JsMath α) (fv : FeatureVector α) :
    let r := predictSuccessProbability M fv
    0 ≤ r.confidenceInterval.1 ∧ r.confidenceInterval.1 ≤ r.probability ∧
      r.probability ≤ r.confidenceInterval.2 ∧ r.confidenceInterval.2 ≤ 1 := by
  exact rounded_interval_mem
    (blend_mem (runLogisticRegression_mem M fv) (runGBDT_mem fv) (runRandomForest_mem fv))
    (mul_nonneg (by norm_num) (M.sqrt_nonneg _ (weighted_sq_nonneg _ _ _)))

/-! ## The confidence level -/

end NovaFund.Risk

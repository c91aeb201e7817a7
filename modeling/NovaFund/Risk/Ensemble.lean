import NovaFund.Risk.Score
import NovaFund.Risk.Explain
import NovaFund.Risk.RealMath

/-!
# Each model of the ensemble rewards what the risk score rewards

The logistic regression, the boosted stumps and the linear forest of
`predictSuccessProbability` all read the features the same way round: every feature with a
positive weight in `LR_WEIGHTS` can only help, and the four with a negative weight can only
hurt. For the regression this is the sign of its weights, for the forest the sign of its
tree weights, and for the stumps an order between the two sides of every split: past a
threshold on a feature that helps, every leaf is higher than every leaf before it, and lower
on a risk. So a feature vector at least as good on every feature never gets a lower success
probability, and, as `computeRiskScore` reads the same four features as risks, never a lower
risk score either.
-/

namespace NovaFund.Risk

variable {α : Type}

/-- The four features the ensemble reads as risks, those with a negative weight in
`LR_WEIGHTS`. -/
def FeatureKey.isRisk : FeatureKey → Bool
  | .whaleConcentration | .legalRisk | .liquidityRisk | .categoryRisk => true
  | _ => false

variable [LinearOrderedField α]

/-- `y` is at least as good as `x` for feature `k`: no lower on a feature that helps, no
higher on a risk. `k.Toward 0 w` says that the weight `w` reads `k` that way round. -/
structure FeatureKey.Toward (k : FeatureKey) (x y : α) : Prop where
  helps : k.isRisk = false → x ≤ y
  risk : k.isRisk = true → y ≤ x

theorem FeatureKey.Toward.of_helps {k : FeatureKey} {x y : α} (hk : k.isRisk = false)
    (h : x ≤ y) : k.Toward x y :=
  ⟨fun _ => h, fun hk' => absurd (hk.symm.trans hk') Bool.false_ne_true⟩

theorem FeatureKey.Toward.of_risk {k : FeatureKey} {x y : α} (hk : k.isRisk = true)
    (h : y ≤ x) : k.Toward x y :=
  ⟨fun hk' => absurd (hk'.symm.trans hk) Bool.false_ne_true, fun _ => h⟩

theorem FeatureKey.Toward.refl (k : FeatureKey) (x : α) : k.Toward x x :=
  ⟨fun _ => le_rfl, fun _ => le_rfl⟩

/-- A weight that reads `k` the right way round keeps the order of two values of `k`. -/
theorem FeatureKey.Toward.mul_le {k : FeatureKey} {w x y : α} (hw : k.Toward 0 w)
    (hxy : k.Toward x y) : w * x ≤ w * y := by
  cases hk : k.isRisk
  · exact mul_le_mul_of_nonneg_left (hxy.helps hk) (hw.helps hk)
  · exact mul_le_mul_of_nonpos_left (hxy.risk hk) (hw.risk hk)

/-- `fv'` is at least as good as `fv` on every feature. -/
def FeatureVector.PredictLE (fv fv' : FeatureVector α) : Prop :=
  ∀ k : FeatureKey, k.Toward (fv.get k) (fv'.get k)

/-- Moving one feature the right way round gives a vector at least as good. -/
theorem FeatureVector.predictLE_set (fv : FeatureVector α) {k : FeatureKey} {v : α}
    (h : k.Toward (fv.get k) v) : fv.PredictLE (fv.set k v) := by
  intro j
  by_cases hj : j = k
  · subst hj
    rwa [FeatureVector.get_set_self]
  · rw [FeatureVector.get_set_of_ne _ _ hj]
    exact .refl j _

/-- A vector at least as good on every feature is at least as good on the eighteen that
`computeRiskScore` reads. -/
theorem FeatureVector.PredictLE.scoreLE {fv fv' : FeatureVector α} (h : fv.PredictLE fv') :
    fv.ScoreLE fv' where
  fundingCompletionRate := (h .fundingCompletionRate).helps rfl
  fundingVelocityNorm := (h .fundingVelocityNorm).helps rfl
  whaleConcentration := (h .whaleConcentration).risk rfl
  earlyMomentum := (h .earlyMomentum).helps rfl
  teamStrength := (h .teamStrength).helps rfl
  teamExperience := (h .teamExperience).helps rfl
  prevSuccessBoost := (h .prevSuccessBoost).helps rfl
  advisoryStrength := (h .advisoryStrength).helps rfl
  contractSecurity := (h .contractSecurity).helps rfl
  techRobustness := (h .techRobustness).helps rfl
  auditSafety := (h .auditSafety).helps rfl
  githubActivity := (h .githubActivity).helps rfl
  communityEngagement := (h .communityEngagement).helps rfl
  sentimentNorm := (h .sentimentNorm).helps rfl
  socialReach := (h .socialReach).helps rfl
  liquidityRisk := (h .liquidityRisk).risk rfl
  categoryRisk := (h .categoryRisk).risk rfl
  legalRisk := (h .legalRisk).risk rfl

/-- Conversely, a vector at least as good on the features `computeRiskScore` reads and on
the four only the ensemble reads is at least as good on every feature. -/
theorem FeatureVector.ScoreLE.predictLE {fv fv' : FeatureVector α} (h : fv.ScoreLE fv')
    (hdays : fv.daysRemainingRatio ≤ fv'.daysRemainingRatio)
    (hquality : fv.projectQuality ≤ fv'.projectQuality)
    (hroadmap : fv.roadmapScore ≤ fv'.roadmapScore)
    (hwhitepaper : fv.whitepaperQuality ≤ fv'.whitepaperQuality) : fv.PredictLE fv' := by
  cases h
  intro k
  cases k <;> first | exact .of_helps rfl ‹_› | exact .of_risk rfl ‹_›

/-- An accumulation of pointwise larger terms from a larger start is larger. -/
theorem foldl_add_le {β : Type} {L : List β} {g g' : β → α} (h : ∀ x ∈ L, g x ≤ g' x)
    {a a' : α} (ha : a ≤ a') :
    L.foldl (fun s x => s + g x) a ≤ L.foldl (fun s x => s + g' x) a' := by
  induction L generalizing a a' with
  | nil => exact ha
  | cons x L ih =>
    exact ih (fun y hy => h y (List.mem_cons_of_mem x hy))
      (add_le_add ha (h x (List.mem_cons_self x L)))

/-! ## The logistic regression -/

/-- Every weight of `LR_WEIGHTS` is non-negative on a feature that helps and non-positive on
a risk. -/
theorem LR_WEIGHTS_toward :
    ∀ kw ∈ (LR_WEIGHTS : List (FeatureKey × α)), kw.1.Toward 0 kw.2 := by
  simp only [LR_WEIGHTS, List.forall_mem_cons, List.mem_nil_iff, false_implies,
    implies_true, and_true]
  and_intros <;> first
    | exact .of_helps (by rfl) (NNRat.cast_nonneg _)
    | exact .of_risk (by rfl) (neg_nonpos.mpr (NNRat.cast_nonneg _))

theorem logit_mono {fv fv' : FeatureVector α} (h : fv.PredictLE fv') : logit fv ≤ logit fv' :=
  foldl_add_le (fun kw hkw => (LR_WEIGHTS_toward kw hkw).mul_le (h kw.1)) le_rfl

theorem runLogisticRegression_mono (M : JsMath α) {fv fv' : FeatureVector α}
    (h : fv.PredictLE fv') : runLogisticRegression M fv ≤ runLogisticRegression M fv' :=
  not_lt.mp fun hlt => ((runLogisticRegression_lt_iff M fv' fv).mp hlt).not_le (logit_mono h)

/-! ## The boosted stumps -/

/-- The leaves of a tree, left to right. -/
def TreeNode.leaves : TreeNode α → List α
  | .leaf v => [v]
  | .node _ _ l r => l.leaves ++ r.leaves

theorem evalTree_mem_leaves (node : TreeNode α) (fv : FeatureVector α) :
    evalTree node fv ∈ node.leaves := by
  induction node with
  | leaf v => exact List.mem_singleton_self v
  | node f t l r ihl ihr =>
    rw [evalTree, TreeNode.leaves]
    split
    · exact List.mem_append_left _ ihl
    · exact List.mem_append_right _ ihr

/-- Every split orders its two sides the way its feature is read: each leaf past the
threshold is at least as good as each leaf before it. -/
def TreeNode.Ordered : TreeNode α → Prop
  | .leaf _ => True
  | .node f _ l r =>
    l.Ordered ∧ r.Ordered ∧ ∀ a ∈ l.leaves, ∀ b ∈ r.leaves, f.Toward a b

/-- A tree whose splits are ordered gives a vector at least as good a value at least as
high. Where the two vectors take different sides of a split, the order of the split's
feature decides which side the better one takes. -/
theorem evalTree_mono {node : TreeNode α} (hn : node.Ordered) {fv fv' : FeatureVector α}
    (h : fv.PredictLE fv') : evalTree node fv ≤ evalTree node fv' := by
  induction node with
  | leaf v => exact le_rfl
  | node f t l r ihl ihr =>
    obtain ⟨hl, hr, hlr⟩ := hn
    have hf := h f
    rw [evalTree, evalTree]
    split_ifs with hx hy hy
    · exact ihl hl
    · have hab := hlr _ (evalTree_mem_leaves l fv) _ (evalTree_mem_leaves r fv')
      cases hk : f.isRisk
      · exact hab.helps hk
      · exact absurd ((hf.risk hk).trans hx) hy
    · have hab := hlr _ (evalTree_mem_leaves l fv') _ (evalTree_mem_leaves r fv)
      cases hk : f.isRisk
      · exact absurd ((hf.helps hk).trans hy) hx
      · exact hab.risk hk
    · exact ihr hr

theorem GBDT_TREES_ordered : ∀ tree ∈ (GBDT_TREES : List (TreeNode α)), tree.Ordered := by
  simp only [GBDT_TREES, List.forall_mem_cons, List.mem_nil_iff, false_implies, implies_true,
    and_true, TreeNode.Ordered, TreeNode.leaves, List.singleton_append, List.mem_cons,
    List.mem_singleton, forall_eq_or_imp, forall_eq, true_and]
  and_intros <;> first
    | exact .of_helps (by rfl) (by norm_num)
    | exact .of_risk (by rfl) (by norm_num)

theorem runGBDT_mono {fv fv' : FeatureVector α} (h : fv.PredictLE fv') :
    runGBDT fv ≤ runGBDT fv' :=
  clamp_mono (add_le_add_left (mul_le_mul_of_nonneg_left
    (foldl_add_le (fun tree htree => evalTree_mono (GBDT_TREES_ordered tree htree) h) le_rfl)
    (by norm_num)) _)

/-! ## The linear forest -/

theorem RF_TREES_toward : ∀ tree ∈ (RF_TREES : List (RFTree α)),
    ∀ fw ∈ tree.features.zip tree.weights, fw.1.Toward 0 fw.2 := by
  simp only [RF_TREES, List.forall_mem_cons, List.mem_nil_iff, false_implies, implies_true,
    and_true, List.zip_cons_cons, List.zip_nil_right]
  and_intros <;> exact .of_helps (by rfl) (NNRat.cast_nonneg _)

theorem RFTree.predict_mono {tree : RFTree α} (ht : ∀ fw ∈ tree.features.zip tree.weights,
    fw.1.Toward 0 fw.2) {fv fv' : FeatureVector α} (h : fv.PredictLE fv') :
    tree.predict fv ≤ tree.predict fv' :=
  clamp_mono (foldl_add_le (fun fw hfw => by
    simpa only [mul_comm _ fw.2] using (ht fw hfw).mul_le (h fw.1)) le_rfl)

theorem runRandomForest_mono {fv fv' : FeatureVector α} (h : fv.PredictLE fv') :
    runRandomForest fv ≤ runRandomForest fv' := by
  simp only [runRandomForest, List.foldl_map, List.length_map]
  exact div_le_div_of_nonneg_right (foldl_add_le (fun tree htree =>
    RFTree.predict_mono (RF_TREES_toward tree htree) h) le_rfl) (Nat.cast_nonneg _)

/-! ## The prediction -/

variable [FloorRing α]

theorem predictSuccessProbability_probability_mono (M : JsMath α) {fv fv' : FeatureVector α}
    (h : fv.PredictLE fv') :
    (predictSuccessProbability M fv).probability ≤
      (predictSuccessProbability M fv').probability :=
  round_thousandths_mono (weighted_three_le (by norm_num) (by norm_num) (by norm_num)
    (runLogisticRegression_mono M h) (runGBDT_mono h) (runRandomForest_mono h))

/-- The risk score and the success prediction never disagree on two projects of which one is
at least as good on every feature: for every pair of feature vectors, the better one gets
every component of its risk score and its success probability at least as high. The
ensemble's three models and `computeRiskScore` read the same four features as risks. -/
theorem better_features_raise_score_and_probability (M : JsMath α) {fv fv' : FeatureVector α}
    (h : fv.PredictLE fv') :
    (computeRiskScore fv).AtMost (computeRiskScore fv') ∧
      (predictSuccessProbability M fv).probability ≤
        (predictSuccessProbability M fv').probability :=
  ⟨computeRiskScore_mono h.scoreLE, predictSuccessProbability_probability_mono M h⟩

/-- Lowering the legal risk of the baseline vector to 0.1 lowers neither its risk score nor
its success probability. -/
theorem better_features_raise_score_and_probability_legal :
    (BASELINES : FeatureVector ℝ).PredictLE (BASELINES.set .legalRisk 0.1) ∧
      (computeRiskScore (BASELINES : FeatureVector ℝ)).AtMost
          (computeRiskScore (BASELINES.set .legalRisk (0.1 : ℝ))) ∧
        (predictSuccessProbability realMath BASELINES).probability ≤
          (predictSuccessProbability realMath (BASELINES.set .legalRisk 0.1)).probability :=
  have hle : (BASELINES : FeatureVector ℝ).PredictLE (BASELINES.set .legalRisk 0.1) :=
    FeatureVector.predictLE_set _ (.of_risk rfl (by norm_num [BASELINES, FeatureVector.get]))
  ⟨hle, better_features_raise_score_and_probability realMath hle⟩

end NovaFund.Risk

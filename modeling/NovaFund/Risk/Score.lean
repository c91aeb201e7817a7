import NovaFund.Risk.Features

/-!
# Risk scores

`computeRiskScore` rounds six weighted sums of features to integer sub-scores and
their weighted sum to the overall score; `classifyRiskLevel` buckets the overall score.
Every weight vector sums to one, so features in the unit interval give scores in
`[0, 100]`, and the scores are monotone in the features they reward.
-/

namespace NovaFund.Risk

/-- `RiskScore`: every component is a `Math.round` result. -/
structure RiskScore where
  overall : ℤ
  fundingRisk : ℤ
  teamRisk : ℤ
  technicalRisk : ℤ
  communityRisk : ℤ
  marketRisk : ℤ
  legalRisk : ℤ
  deriving DecidableEq, Repr

/-- `RiskLevel`. -/
inductive RiskLevel
  | VERY_LOW | LOW | MEDIUM | HIGH | VERY_HIGH
  deriving DecidableEq, Repr

/-- `classifyRiskLevel`: a higher score is a lower risk. -/
def classifyRiskLevel (score : ℤ) : RiskLevel :=
  if 80 ≤ score then .VERY_LOW
  else if 65 ≤ score then .LOW
  else if 45 ≤ score then .MEDIUM
  else if 25 ≤ score then .HIGH
  else .VERY_HIGH

/-- The seven components of a score. -/
def RiskScore.components (s : RiskScore) : List ℤ :=
  [s.overall, s.fundingRisk, s.teamRisk, s.technicalRisk, s.communityRisk, s.marketRisk,
    s.legalRisk]

/-- Every component of the score lies in `[0, 100]`. -/
def RiskScore.InRange (s : RiskScore) : Prop :=
  ∀ x ∈ s.components, 0 ≤ x ∧ x ≤ 100

/-- Every component of `s` is at most the same component of `t`. -/
structure RiskScore.AtMost (s t : RiskScore) : Prop where
  overall : s.overall ≤ t.overall
  fundingRisk : s.fundingRisk ≤ t.fundingRisk
  teamRisk : s.teamRisk ≤ t.teamRisk
  technicalRisk : s.technicalRisk ≤ t.technicalRisk
  communityRisk : s.communityRisk ≤ t.communityRisk
  marketRisk : s.marketRisk ≤ t.marketRisk
  legalRisk : s.legalRisk ≤ t.legalRisk

variable {α : Type} [LinearOrderedField α]

/-- Sums with non-negative weights are monotone in each term. -/
theorem weighted_two_le {w₁ w₂ x₁ x₂ y₁ y₂ : α} (hw₁ : 0 ≤ w₁) (hw₂ : 0 ≤ w₂) (h₁ : x₁ ≤ y₁)
    (h₂ : x₂ ≤ y₂) : w₁ * x₁ + w₂ * x₂ ≤ w₁ * y₁ + w₂ * y₂ :=
  add_le_add (mul_le_mul_of_nonneg_left h₁ hw₁) (mul_le_mul_of_nonneg_left h₂ hw₂)

theorem weighted_three_le {w₁ w₂ w₃ x₁ x₂ x₃ y₁ y₂ y₃ : α} (hw₁ : 0 ≤ w₁) (hw₂ : 0 ≤ w₂)
    (hw₃ : 0 ≤ w₃) (h₁ : x₁ ≤ y₁) (h₂ : x₂ ≤ y₂) (h₃ : x₃ ≤ y₃) :
    w₁ * x₁ + w₂ * x₂ + w₃ * x₃ ≤ w₁ * y₁ + w₂ * y₂ + w₃ * y₃ :=
  add_le_add (weighted_two_le hw₁ hw₂ h₁ h₂) (mul_le_mul_of_nonneg_left h₃ hw₃)

theorem weighted_le {w₁ w₂ w₃ w₄ x₁ x₂ x₃ x₄ y₁ y₂ y₃ y₄ : α} (hw₁ : 0 ≤ w₁) (hw₂ : 0 ≤ w₂)
    (hw₃ : 0 ≤ w₃) (hw₄ : 0 ≤ w₄) (h₁ : x₁ ≤ y₁) (h₂ : x₂ ≤ y₂) (h₃ : x₃ ≤ y₃) (h₄ : x₄ ≤ y₄) :
    w₁ * x₁ + w₂ * x₂ + w₃ * x₃ + w₄ * x₄ ≤ w₁ * y₁ + w₂ * y₂ + w₃ * y₃ + w₄ * y₄ :=
  add_le_add (weighted_three_le hw₁ hw₂ hw₃ h₁ h₂ h₃) (mul_le_mul_of_nonneg_left h₄ hw₄)

/-- A weighted sum of values in the unit interval, with non-negative weights summing to
one, is in the unit interval: it lies between the sums at all zeros and at all ones. -/
theorem convex_mem {w₁ w₂ w₃ w₄ x₁ x₂ x₃ x₄ : α} (hw₁ : 0 ≤ w₁) (hw₂ : 0 ≤ w₂)
    (hw₃ : 0 ≤ w₃) (hw₄ : 0 ≤ w₄) (hsum : w₁ + w₂ + w₃ + w₄ = 1)
    (hx₁ : 0 ≤ x₁ ∧ x₁ ≤ 1) (hx₂ : 0 ≤ x₂ ∧ x₂ ≤ 1) (hx₃ : 0 ≤ x₃ ∧ x₃ ≤ 1)
    (hx₄ : 0 ≤ x₄ ∧ x₄ ≤ 1) :
    0 ≤ w₁ * x₁ + w₂ * x₂ + w₃ * x₃ + w₄ * x₄ ∧ w₁ * x₁ + w₂ * x₂ + w₃ * x₃ + w₄ * x₄ ≤ 1 := by
  have hlow := weighted_le hw₁ hw₂ hw₃ hw₄ hx₁.1 hx₂.1 hx₃.1 hx₄.1
  have hhigh := weighted_le hw₁ hw₂ hw₃ hw₄ hx₁.2 hx₂.2 hx₃.2 hx₄.2
  simp only [mul_zero, add_zero, mul_one] at hlow hhigh
  exact ⟨hlow, hhigh.trans hsum.le⟩

/-- The weights of `computeRiskScore`: non-negative, and each sub-score's row sums to one
(the market row, of three terms, with a zero weight added). -/
theorem score_weights :
    (0 : α) ≤ 0.40 ∧ (0 : α) ≤ 0.25 ∧ (0 : α) ≤ 0.20 ∧ (0 : α) ≤ 0.15 ∧ (0 : α) ≤ 0.35 ∧
      (0 : α) ≤ 0.30 ∧ (0 : α) ≤ 100 ∧ (0.40 : α) + 0.25 + 0.20 + 0.15 = 1 ∧
      (0.35 : α) + 0.25 + 0.25 + 0.15 = 1 ∧ (0.35 : α) + 0.30 + 0.20 + 0.15 = 1 ∧
      (0.40 : α) + 0.35 + 0.25 + 0 = 1 := by
  norm_num

theorem one_sub_mem {x : α} (hx : 0 ≤ x ∧ x ≤ 1) : 0 ≤ 1 - x ∧ 1 - x ≤ 1 :=
  ⟨sub_nonneg.mpr hx.2, sub_le_self 1 hx.1⟩

/-- The overall score's weighted sum is monotone in each sub-score. -/
theorem overall_weighted_le {f t c m k l f' t' c' m' k' l' : α} (hf : f ≤ f') (ht : t ≤ t')
    (hc : c ≤ c') (hm : m ≤ m') (hk : k ≤ k') (hl : l ≤ l') :
    0.20 * f + 0.18 * t + 0.18 * c + 0.14 * m + 0.16 * k + 0.14 * l ≤
      0.20 * f' + 0.18 * t' + 0.18 * c' + 0.14 * m' + 0.16 * k' + 0.14 * l' := by
  obtain ⟨w20, w18, w14, w16⟩ : (0 : α) ≤ 0.20 ∧ (0 : α) ≤ 0.18 ∧ (0 : α) ≤ 0.14 ∧
      (0 : α) ≤ 0.16 := by norm_num
  exact add_le_add (add_le_add (weighted_le w20 w18 w18 w14 hf ht hc hm)
    (mul_le_mul_of_nonneg_left hk w16)) (mul_le_mul_of_nonneg_left hl w14)

variable [FloorRing α]

/-- The overall score: the weighted sum of the six rounded sub-scores, rounded. -/
def overallScore (funding team technical community market legal : ℤ) : ℤ :=
  jsRound (0.20 * (funding : α) + 0.18 * (team : α) + 0.18 * (technical : α) +
    0.14 * (community : α) + 0.16 * (market : α) + 0.14 * (legal : α))

/-- `computeRiskScore`. -/
def computeRiskScore (fv : FeatureVector α) : RiskScore :=
  let fundingRisk := jsRound (100 * (0.40 * fv.fundingCompletionRate +
    0.25 * fv.fundingVelocityNorm + 0.20 * (1 - fv.whaleConcentration) +
    0.15 * fv.earlyMomentum))
  let teamRisk := jsRound (100 * (0.35 * fv.teamStrength + 0.25 * fv.teamExperience +
    0.25 * fv.prevSuccessBoost + 0.15 * fv.advisoryStrength))
  let technicalRisk := jsRound (100 * (0.35 * fv.contractSecurity +
    0.30 * fv.techRobustness + 0.20 * fv.auditSafety + 0.15 * fv.githubActivity))
  let communityRisk := jsRound (100 * (0.35 * fv.communityEngagement +
    0.30 * fv.sentimentNorm + 0.20 * fv.socialReach + 0.15 * fv.githubActivity))
  let marketRisk := jsRound (100 * (0.40 * (1 - fv.liquidityRisk) +
    0.35 * (1 - fv.categoryRisk) + 0.25 * fv.earlyMomentum))
  let legalRisk := jsRound (100 * (1 - fv.legalRisk))
  { overall := overallScore (α := α) fundingRisk teamRisk technicalRisk communityRisk
      marketRisk legalRisk
    fundingRisk, teamRisk, technicalRisk, communityRisk, marketRisk, legalRisk }

/-- The overall score of sub-scores in `[0, 100]` is in `[0, 100]`: its weights sum to one. -/
theorem overallScore_mem {f t c m k l : ℤ} (hf : 0 ≤ f ∧ f ≤ 100) (ht : 0 ≤ t ∧ t ≤ 100)
    (hc : 0 ≤ c ∧ c ≤ 100) (hm : 0 ≤ m ∧ m ≤ 100) (hk : 0 ≤ k ∧ k ≤ 100)
    (hl : 0 ≤ l ∧ l ≤ 100) :
    0 ≤ overallScore (α := α) f t c m k l ∧ overallScore (α := α) f t c m k l ≤ 100 := by
  have cast_mem : ∀ x : ℤ, 0 ≤ x ∧ x ≤ 100 → (0 : α) ≤ x ∧ (x : α) ≤ 100 :=
    fun x hx => ⟨by exact_mod_cast hx.1, by exact_mod_cast hx.2⟩
  obtain ⟨⟨hf0, hf1⟩, ⟨ht0, ht1⟩, ⟨hc0, hc1⟩, ⟨hm0, hm1⟩, ⟨hk0, hk1⟩, ⟨hl0, hl1⟩⟩ :=
    And.intro (cast_mem f hf) (And.intro (cast_mem t ht) (And.intro (cast_mem c hc)
      (And.intro (cast_mem m hm) (And.intro (cast_mem k hk) (cast_mem l hl)))))
  have hlow := overall_weighted_le hf0 ht0 hc0 hm0 hk0 hl0
  have hsum : (0.20 * 100 + 0.18 * 100 + 0.18 * 100 + 0.14 * 100 + 0.16 * 100 + 0.14 * 100 : α) =
      ((100 : ℤ) : α) := by norm_num
  exact ⟨jsRound_nonneg (by simpa only [mul_zero, add_zero] using hlow),
    jsRound_le ((overall_weighted_le hf1 ht1 hc1 hm1 hk1 hl1).trans hsum.le)⟩

/-- The overall score is monotone in each sub-score: its weights are positive. -/
theorem overallScore_mono {f t c m k l f' t' c' m' k' l' : ℤ} (hf : f ≤ f') (ht : t ≤ t')
    (hc : c ≤ c') (hm : m ≤ m') (hk : k ≤ k') (hl : l ≤ l') :
    overallScore (α := α) f t c m k l ≤ overallScore (α := α) f' t' c' m' k' l' := by
  exact jsRound_mono (overall_weighted_le (Int.cast_le.mpr hf) (Int.cast_le.mpr ht)
    (Int.cast_le.mpr hc) (Int.cast_le.mpr hm) (Int.cast_le.mpr hk) (Int.cast_le.mpr hl))

/-- The eighteen features `computeRiskScore` reads are each in the unit interval. -/
structure FeatureVector.ScoreInputsInUnit (fv : FeatureVector α) : Prop where
  fundingCompletionRate : 0 ≤ fv.fundingCompletionRate ∧ fv.fundingCompletionRate ≤ 1
  fundingVelocityNorm : 0 ≤ fv.fundingVelocityNorm ∧ fv.fundingVelocityNorm ≤ 1
  whaleConcentration : 0 ≤ fv.whaleConcentration ∧ fv.whaleConcentration ≤ 1
  earlyMomentum : 0 ≤ fv.earlyMomentum ∧ fv.earlyMomentum ≤ 1
  teamStrength : 0 ≤ fv.teamStrength ∧ fv.teamStrength ≤ 1
  teamExperience : 0 ≤ fv.teamExperience ∧ fv.teamExperience ≤ 1
  prevSuccessBoost : 0 ≤ fv.prevSuccessBoost ∧ fv.prevSuccessBoost ≤ 1
  advisoryStrength : 0 ≤ fv.advisoryStrength ∧ fv.advisoryStrength ≤ 1
  contractSecurity : 0 ≤ fv.contractSecurity ∧ fv.contractSecurity ≤ 1
  techRobustness : 0 ≤ fv.techRobustness ∧ fv.techRobustness ≤ 1
  auditSafety : 0 ≤ fv.auditSafety ∧ fv.auditSafety ≤ 1
  githubActivity : 0 ≤ fv.githubActivity ∧ fv.githubActivity ≤ 1
  communityEngagement : 0 ≤ fv.communityEngagement ∧ fv.communityEngagement ≤ 1
  sentimentNorm : 0 ≤ fv.sentimentNorm ∧ fv.sentimentNorm ≤ 1
  socialReach : 0 ≤ fv.socialReach ∧ fv.socialReach ≤ 1
  liquidityRisk : 0 ≤ fv.liquidityRisk ∧ fv.liquidityRisk ≤ 1
  categoryRisk : 0 ≤ fv.categoryRisk ∧ fv.categoryRisk ≤ 1
  legalRisk : 0 ≤ fv.legalRisk ∧ fv.legalRisk ≤ 1

/-- With the features it reads in the unit interval, every component of
`computeRiskScore` is in `[0, 100]`: each sub-score's weights sum to one. -/
theorem computeRiskScore_inRange {fv : FeatureVector α} (h : fv.ScoreInputsInUnit) :
    (computeRiskScore fv).InRange := by
  obtain ⟨w40, w25, w20, w15, w35, w30, -, sfunding, steam, stechnical, smarket⟩ :=
    score_weights (α := α)
  have hfunding : 0 ≤ (computeRiskScore fv).fundingRisk ∧
      (computeRiskScore fv).fundingRisk ≤ 100 :=
    jsRound_hundred_mem (convex_mem w40 w25 w20 w15 sfunding h.fundingCompletionRate
      h.fundingVelocityNorm (one_sub_mem h.whaleConcentration) h.earlyMomentum)
  have hteam : 0 ≤ (computeRiskScore fv).teamRisk ∧ (computeRiskScore fv).teamRisk ≤ 100 :=
    jsRound_hundred_mem (convex_mem w35 w25 w25 w15 steam h.teamStrength h.teamExperience
      h.prevSuccessBoost h.advisoryStrength)
  have htechnical : 0 ≤ (computeRiskScore fv).technicalRisk ∧
      (computeRiskScore fv).technicalRisk ≤ 100 :=
    jsRound_hundred_mem (convex_mem w35 w30 w20 w15 stechnical h.contractSecurity
      h.techRobustness h.auditSafety h.githubActivity)
  have hcommunity : 0 ≤ (computeRiskScore fv).communityRisk ∧
      (computeRiskScore fv).communityRisk ≤ 100 :=
    jsRound_hundred_mem (convex_mem w35 w30 w20 w15 stechnical h.communityEngagement
      h.sentimentNorm h.socialReach h.githubActivity)
  have hmarket : 0 ≤ (computeRiskScore fv).marketRisk ∧
      (computeRiskScore fv).marketRisk ≤ 100 := by
    have hsum := convex_mem w40 w35 w25 le_rfl smarket (one_sub_mem h.liquidityRisk)
      (one_sub_mem h.categoryRisk) h.earlyMomentum ⟨le_rfl, zero_le_one⟩
    rw [zero_mul, add_zero] at hsum
    exact jsRound_hundred_mem hsum
  have hlegal : 0 ≤ (computeRiskScore fv).legalRisk ∧ (computeRiskScore fv).legalRisk ≤ 100 :=
    jsRound_hundred_mem (one_sub_mem h.legalRisk)
  exact List.forall_mem_cons.mpr ⟨overallScore_mem hfunding hteam htechnical hcommunity hmarket
    hlegal, List.forall_mem_cons.mpr ⟨hfunding, List.forall_mem_cons.mpr ⟨hteam,
    List.forall_mem_cons.mpr ⟨htechnical, List.forall_mem_cons.mpr ⟨hcommunity,
    List.forall_mem_cons.mpr ⟨hmarket, List.forall_mem_cons.mpr ⟨hlegal,
    fun _ h => absurd h (List.not_mem_nil _)⟩⟩⟩⟩⟩⟩⟩

/-- `fv'` is at least as good as `fv` on every feature `computeRiskScore` reads: no lower
on the fifteen it rewards, no higher on the four it penalises. -/
structure FeatureVector.ScoreLE (fv fv' : FeatureVector α) : Prop where
  fundingCompletionRate : fv.fundingCompletionRate ≤ fv'.fundingCompletionRate
  fundingVelocityNorm : fv.fundingVelocityNorm ≤ fv'.fundingVelocityNorm
  whaleConcentration : fv'.whaleConcentration ≤ fv.whaleConcentration
  earlyMomentum : fv.earlyMomentum ≤ fv'.earlyMomentum
  teamStrength : fv.teamStrength ≤ fv'.teamStrength
  teamExperience : fv.teamExperience ≤ fv'.teamExperience
  prevSuccessBoost : fv.prevSuccessBoost ≤ fv'.prevSuccessBoost
  advisoryStrength : fv.advisoryStrength ≤ fv'.advisoryStrength
  contractSecurity : fv.contractSecurity ≤ fv'.contractSecurity
  techRobustness : fv.techRobustness ≤ fv'.techRobustness
  auditSafety : fv.auditSafety ≤ fv'.auditSafety
  githubActivity : fv.githubActivity ≤ fv'.githubActivity
  communityEngagement : fv.communityEngagement ≤ fv'.communityEngagement
  sentimentNorm : fv.sentimentNorm ≤ fv'.sentimentNorm
  socialReach : fv.socialReach ≤ fv'.socialReach
  liquidityRisk : fv'.liquidityRisk ≤ fv.liquidityRisk
  categoryRisk : fv'.categoryRisk ≤ fv.categoryRisk
  legalRisk : fv'.legalRisk ≤ fv.legalRisk

/-- `computeRiskScore` is monotone: better features give every component a score at least
as high. Each sub-score rounds a sum with non-negative weights, and so does the overall. -/
theorem computeRiskScore_mono {fv fv' : FeatureVector α} (h : fv.ScoreLE fv') :
    (computeRiskScore fv).AtMost (computeRiskScore fv') := by
  obtain ⟨h1, h2, h3, h4, h5, h6, h7, h8, h9, h10, h11, h12, h13, h14, h15, h16, h17, h18⟩ := h
  obtain ⟨w40, w25, w20, w15, w35, w30, w100, -⟩ := score_weights (α := α)
  have hfunding : (computeRiskScore fv).fundingRisk ≤ (computeRiskScore fv').fundingRisk :=
    jsRound_mono (mul_le_mul_of_nonneg_left
      (weighted_le w40 w25 w20 w15 h1 h2 (sub_le_sub_left h3 1) h4) w100)
  have hteam : (computeRiskScore fv).teamRisk ≤ (computeRiskScore fv').teamRisk :=
    jsRound_mono (mul_le_mul_of_nonneg_left (weighted_le w35 w25 w25 w15 h5 h6 h7 h8) w100)
  have htechnical : (computeRiskScore fv).technicalRisk ≤ (computeRiskScore fv').technicalRisk :=
    jsRound_mono (mul_le_mul_of_nonneg_left (weighted_le w35 w30 w20 w15 h9 h10 h11 h12) w100)
  have hcommunity : (computeRiskScore fv).communityRisk ≤ (computeRiskScore fv').communityRisk :=
    jsRound_mono (mul_le_mul_of_nonneg_left
      (weighted_le w35 w30 w20 w15 h13 h14 h15 h12) w100)
  have hmarket : (computeRiskScore fv).marketRisk ≤ (computeRiskScore fv').marketRisk :=
    jsRound_mono (mul_le_mul_of_nonneg_left (add_le_add (add_le_add
      (mul_le_mul_of_nonneg_left (sub_le_sub_left h16 1) w40)
      (mul_le_mul_of_nonneg_left (sub_le_sub_left h17 1) w35))
      (mul_le_mul_of_nonneg_left h4 w25)) w100)
  have hlegal : (computeRiskScore fv).legalRisk ≤ (computeRiskScore fv').legalRisk :=
    jsRound_mono (mul_le_mul_of_nonneg_left (sub_le_sub_left h18 1) w100)
  exact ⟨overallScore_mono hfunding hteam htechnical hcommunity hmarket hlegal,
    hfunding, hteam, htechnical, hcommunity, hmarket, hlegal⟩

end NovaFund.Risk

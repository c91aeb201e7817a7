import NovaFund.Risk.Ensemble

/-!
# The assessment entry point

`assessFromRawData` chains feature extraction, scoring, the ensemble and the
explanation. Its score and its success probability are monotone in the quality of every
input it reads, and the score lies in `[0, 100]` whenever the founders' success rate is the
documented fraction; the engine clamps every other feature but passes that rate through
unclamped.
-/

namespace NovaFund.Risk

variable {α : Type} [LinearOrderedField α]

/-- An order on optional fields that holds when both are absent, or both present and
ordered. -/
theorem optionRel_map_getD_le {o o' : Option α} (h : Option.Rel (· ≤ ·) o o') {f : α → α}
    (hf : Monotone f) (d : α) : (o.map f).getD d ≤ (o'.map f).getD d := by
  cases h with
  | some hab => exact hf hab
  | none => exact le_rfl

theorem optionRel_getD_le {o o' : Option α} (h : Option.Rel (· ≤ ·) o o') (d : α) :
    o.getD d ≤ o'.getD d := by
  simpa using optionRel_map_getD_le h monotone_id d

/-- `fundingCompletionRate` grows with the amount raised and as the goal shrinks, when a
change of either keeps it positive. -/
theorem clamp_completion_le {tr tr' g g' : α} (htr : tr ≤ tr')
    (htr_pos : tr ≠ tr' → 0 < tr ∧ 0 < tr') (hg : g' ≤ g)
    (hg_pos : g' ≠ g → 0 < g' ∧ 0 < g) :
    clamp (tr / orOne g) ≤ clamp (tr' / orOne g') := by
  by_cases hgg : g' = g
  · subst hgg
    by_cases hd : 0 < orOne g'
    · exact clamp_div_le_clamp_div htr hd le_rfl
    · by_cases htt : tr = tr'
      · rw [htt]
      · rw [clamp_of_nonpos (div_nonpos_of_nonneg_of_nonpos (htr_pos htt).1.le
          (not_lt.mp hd))]
        exact clamp_nonneg _
  · obtain ⟨hg', hg0⟩ := hg_pos hgg
    rw [orOne_of_ne_zero hg0.ne', orOne_of_ne_zero hg'.ne']
    exact clamp_div_le_clamp_div htr hg' hg

/-- `whaleConcentration` shrinks with the largest contribution and as the amount raised
grows, under the same positivity conditions. -/
theorem clamp_whale_le {lc lc' tr tr' : α} (hlc : lc' ≤ lc) (hlc_raised : lc' ≠ lc → 0 ≤ tr)
    (htr : tr ≤ tr') (htr_pos : tr ≠ tr' → 0 < tr ∧ 0 < tr') :
    clamp (lc' / orOne tr') ≤ clamp (lc / orOne tr) := by
  by_cases htt : tr = tr'
  · subst htt
    by_cases hll : lc' = lc
    · rw [hll]
    · exact clamp_div_le_clamp_div hlc (orOne_pos (hlc_raised hll)) le_rfl
  · obtain ⟨h0, h0'⟩ := htr_pos htt
    rw [orOne_of_ne_zero h0.ne', orOne_of_ne_zero h0'.ne']
    exact clamp_div_le_clamp_div hlc h0 htr

/-- `r'` is at least as good an input as `r`: no worse in every field the assessment
reads, with a change of the amount raised or of the goal keeping both positive, and a
change of the largest contribution only over a non-negative amount raised. Fields the
score does not read may differ freely. -/
structure ProjectRawData.AtLeastAsGood (r r' : ProjectRawData α) : Prop where
  fundingVelocity : r.onChain.fundingVelocity ≤ r'.onChain.fundingVelocity
  contributorCount : r.onChain.contributorCount ≤ r'.onChain.contributorCount
  teamSize : r.offChain.teamSize ≤ r'.offChain.teamSize
  teamExperienceYears : r.offChain.teamExperienceYears ≤ r'.offChain.teamExperienceYears
  advisorCount : r.offChain.advisorCount ≤ r'.offChain.advisorCount
  advisorQualityScore : r.offChain.advisorQualityScore ≤ r'.offChain.advisorQualityScore
  legalComplianceScore : r.offChain.legalComplianceScore ≤ r'.offChain.legalComplianceScore
  sentimentScore : r.offChain.sentimentScore ≤ r'.offChain.sentimentScore
  whitepaperScore : r.offChain.whitepaperScore ≤ r'.offChain.whitepaperScore
  roadmapClarity : r.offChain.roadmapClarity ≤ r'.offChain.roadmapClarity
  partnershipCount : r.offChain.partnershipCount ≤ r'.offChain.partnershipCount
  mediaScore : r.offChain.mediaScore ≤ r'.offChain.mediaScore
  milestoneCount : r.offChain.milestoneCount ≤ r'.offChain.milestoneCount
  githubCommits : r.offChain.githubCommits.getD 0 ≤ r'.offChain.githubCommits.getD 0
  githubContributors :
    r.offChain.githubContributors.getD 0 ≤ r'.offChain.githubContributors.getD 0
  githubStars : r.offChain.githubStars.getD 0 ≤ r'.offChain.githubStars.getD 0
  twitterFollowers : r.offChain.twitterFollowers.getD 0 ≤ r'.offChain.twitterFollowers.getD 0
  discordMembers : r.offChain.discordMembers.getD 0 ≤ r'.offChain.discordMembers.getD 0
  previousProjectsSuccessRate : Option.Rel (· ≤ ·)
    r.offChain.previousProjectsSuccessRate r'.offChain.previousProjectsSuccessRate
  contractAuditScore :
    Option.Rel (· ≤ ·) r.onChain.contractAuditScore r'.onChain.contractAuditScore
  tokenomicsScore : Option.Rel (· ≤ ·) r.onChain.tokenomicsScore r'.onChain.tokenomicsScore
  liquidityDepth : Option.Rel (· ≤ ·) r.onChain.liquidityDepth r'.onChain.liquidityDepth
  hasMultisig : r.onChain.hasMultisig = true → r'.onChain.hasMultisig = true
  totalRaised : r.onChain.totalRaised ≤ r'.onChain.totalRaised
  totalRaised_pos : r.onChain.totalRaised ≠ r'.onChain.totalRaised →
    0 < r.onChain.totalRaised ∧ 0 < r'.onChain.totalRaised
  largestContribution : r'.onChain.largestContribution ≤ r.onChain.largestContribution
  largestContribution_raised :
    r'.onChain.largestContribution ≠ r.onChain.largestContribution → 0 ≤ r.onChain.totalRaised
  fundingGoal : r'.offChain.fundingGoal ≤ r.offChain.fundingGoal
  fundingGoal_pos : r'.offChain.fundingGoal ≠ r.offChain.fundingGoal →
    0 < r'.offChain.fundingGoal ∧ 0 < r.offChain.fundingGoal
  category : r.offChain.category = r'.offChain.category

theorem optionRel_le_refl (o : Option α) : Option.Rel (· ≤ ·) o o := by
  cases o with
  | none => exact .none
  | some a => exact .some le_rfl

/-- Every input is at least as good as itself. -/
theorem ProjectRawData.AtLeastAsGood.refl (r : ProjectRawData α) : r.AtLeastAsGood r where
  fundingVelocity := le_rfl
  contributorCount := le_rfl
  teamSize := le_rfl
  teamExperienceYears := le_rfl
  advisorCount := le_rfl
  advisorQualityScore := le_rfl
  legalComplianceScore := le_rfl
  sentimentScore := le_rfl
  whitepaperScore := le_rfl
  roadmapClarity := le_rfl
  partnershipCount := le_rfl
  mediaScore := le_rfl
  milestoneCount := le_rfl
  githubCommits := le_rfl
  githubContributors := le_rfl
  githubStars := le_rfl
  twitterFollowers := le_rfl
  discordMembers := le_rfl
  previousProjectsSuccessRate := optionRel_le_refl _
  contractAuditScore := optionRel_le_refl _
  tokenomicsScore := optionRel_le_refl _
  liquidityDepth := optionRel_le_refl _
  hasMultisig := id
  totalRaised := le_rfl
  totalRaised_pos h := absurd rfl h
  largestContribution := le_rfl
  largestContribution_raised h := absurd rfl h
  fundingGoal := le_rfl
  fundingGoal_pos h := absurd rfl h
  category := rfl

/-- Every feature `computeRiskScore` reads is no worse on a better input. The two ratio
features need their own lemmas; the rest are clamps and sums of monotone parts. -/
theorem extractFeatures_scoreLE (M : JsMath α) {r r' : ProjectRawData α}
    (h : r.AtLeastAsGood r') : (extractFeatures M r).ScoreLE (extractFeatures M r') := by
  have hlog : ∀ {x x' : α} (ref : α), 0 < ref → x ≤ x' → logNorm M x ref ≤ logNorm M x' ref :=
    fun _ href hx => logNorm_mono M href hx
  have hratio : ∀ {x x' : α} (c : α), 0 < c → x ≤ x' → clamp (x / c) ≤ clamp (x' / c) :=
    fun _ hc hx => clamp_mono (div_le_div_of_nonneg_right hx hc.le)
  have hfcr := clamp_completion_le h.totalRaised h.totalRaised_pos h.fundingGoal h.fundingGoal_pos
  have hfvn := hlog 5000 Nat.ofNat_pos h.fundingVelocity
  have hte := hlog 5 Nat.ofNat_pos h.teamExperienceYears
  have hpsb := optionRel_getD_le h.previousProjectsSuccessRate 0.4
  have hts := hratio 10 Nat.ofNat_pos h.teamSize
  have hcc := hratio 500 Nat.ofNat_pos h.contributorCount
  have htwitter := hlog 10000 Nat.ofNat_pos h.twitterFollowers
  have hdiscord := hlog 5000 Nat.ofNat_pos h.discordMembers
  have hsent := hratio 2 Nat.ofNat_pos (add_le_add_right h.sentimentScore 1)
  have hac := hratio 3 Nat.ofNat_pos h.advisorCount
  have haq := hratio 100 Nat.ofNat_pos h.advisorQualityScore
  have hcommits := hlog 200 Nat.ofNat_pos h.githubCommits
  have hcontributors := hlog 20 Nat.ofNat_pos h.githubContributors
  have hstars := hlog 500 Nat.ofNat_pos h.githubStars
  have haudit := optionRel_map_getD_le h.contractAuditScore
    (fun _ _ hs => hratio 100 Nat.ofNat_pos hs) 0.3
  have hmultisig : (if r.onChain.hasMultisig then (1 : α) else 0) ≤
      (if r'.onChain.hasMultisig then 1 else 0) := by
    have hm := h.hasMultisig
    revert hm
    cases r.onChain.hasMultisig <;> cases r'.onChain.hasMultisig <;> norm_num
  have htoken := hratio 100 Nat.ofNat_pos (optionRel_getD_le h.tokenomicsScore 40)
  have hliquidity := optionRel_map_getD_le h.liquidityDepth
    (fun _ _ hd => hlog 500000 Nat.ofNat_pos hd) 0.2
  have hlegal := hratio 100 Nat.ofNat_pos h.legalComplianceScore
  obtain ⟨w5, w3, w25, w20, w35, w30, w6, w4, w2⟩ : (0 : α) ≤ 0.5 ∧ (0 : α) ≤ 0.3 ∧
      (0 : α) ≤ 0.25 ∧ (0 : α) ≤ 0.20 ∧ (0 : α) ≤ 0.35 ∧ (0 : α) ≤ 0.30 ∧ (0 : α) ≤ 0.6 ∧
      (0 : α) ≤ 0.4 ∧ (0 : α) ≤ 0.2 := by norm_num
  have hadv : (extractFeatures M r).advisoryStrength ≤ (extractFeatures M r').advisoryStrength :=
    clamp_mono (weighted_two_le w5 w5 hac haq)
  have hce : (extractFeatures M r).communityEngagement ≤
      (extractFeatures M r').communityEngagement :=
    clamp_mono (weighted_three_le w35 w35 w30 htwitter hdiscord hsent)
  have hgithub : (extractFeatures M r).githubActivity ≤ (extractFeatures M r').githubActivity :=
    clamp_mono (weighted_three_le w5 w3 w2 hcommits hcontributors hstars)
  have hsecurity : (extractFeatures M r).contractSecurity ≤
      (extractFeatures M r').contractSecurity :=
    clamp_mono (weighted_two_le w6 w4 haudit hmultisig)
  exact {
    fundingCompletionRate := hfcr
    fundingVelocityNorm := hfvn
    whaleConcentration := clamp_whale_le h.largestContribution h.largestContribution_raised
      h.totalRaised h.totalRaised_pos
    earlyMomentum := clamp_mono (weighted_le w35 w25 w20 w20 hfcr hfvn hce hcc)
    teamStrength := clamp_mono (weighted_le w3 w25 w25 w20 hte hpsb hts hadv)
    teamExperience := hte
    prevSuccessBoost := hpsb
    advisoryStrength := hadv
    contractSecurity := hsecurity
    techRobustness := clamp_mono (weighted_three_le w4 w3 w3 hsecurity hgithub htoken)
    auditSafety := haudit
    githubActivity := hgithub
    communityEngagement := hce
    sentimentNorm := hsent
    socialReach := clamp_mono (weighted_two_le w6 w4 htwitter hdiscord)
    liquidityRisk := sub_le_sub_left hliquidity 1
    categoryRisk := by dsimp only [extractFeatures]; rw [h.category]
    legalRisk := sub_le_sub_left hlegal 1 }

/-- On an input at least as good with the same funding window, every feature is no worse,
the four that only the ensemble reads included: the days remaining do not move, and project
quality, roadmap and whitepaper are clamps of sums of monotone parts. -/
theorem extractFeatures_predictLE (M : JsMath α) {r r' : ProjectRawData α}
    (h : r.AtLeastAsGood r')
    (hdeadline : r'.offChain.fundingDeadlineDays = r.offChain.fundingDeadlineDays)
    (hactive : r'.onChain.daysActive = r.onChain.daysActive) :
    (extractFeatures M r).PredictLE (extractFeatures M r') := by
  have hs := extractFeatures_scoreLE M h
  have hwq := clamp_div_le_clamp_div h.whitepaperScore (Nat.ofNat_pos : (0 : α) < 100) le_rfl
  have hrs := clamp_div_le_clamp_div h.roadmapClarity (Nat.ofNat_pos : (0 : α) < 100) le_rfl
  have hpc := clamp_div_le_clamp_div h.partnershipCount (Nat.ofNat_pos : (0 : α) < 3) le_rfl
  have hms := clamp_div_le_clamp_div h.mediaScore (Nat.ofNat_pos : (0 : α) < 100) le_rfl
  have hmc := clamp_div_le_clamp_div h.milestoneCount (Nat.ofNat_pos : (0 : α) < 10) le_rfl
  obtain ⟨w25, w20, w15, w10⟩ :
      (0 : α) ≤ 0.25 ∧ (0 : α) ≤ 0.20 ∧ (0 : α) ≤ 0.15 ∧ (0 : α) ≤ 0.10 := by norm_num
  refine hs.predictLE ?_ (clamp_mono (add_le_add (add_le_add
    (weighted_le w25 w20 w20 w15 hwq hrs hs.advisoryStrength hpc)
    (mul_le_mul_of_nonneg_left hms w10)) (mul_le_mul_of_nonneg_left hmc w10))) hrs hwq
  dsimp only [extractFeatures]
  rw [hdeadline, hactive]

/-- Every feature `computeRiskScore` reads is in the unit interval, provided the founders'
success rate, the one input passed through unclamped, is a fraction when present. -/
theorem extractFeatures_scoreInputsInUnit (M : JsMath α) {raw : ProjectRawData α}
    (hprev : ∀ x, raw.offChain.previousProjectsSuccessRate = some x → 0 ≤ x ∧ x ≤ 1) :
    (extractFeatures M raw).ScoreInputsInUnit := by
  have hsome : ∀ (o : Option α) (f : α → α) (d : α), (∀ x, 0 ≤ f x ∧ f x ≤ 1) →
      0 ≤ d → d ≤ 1 → 0 ≤ (o.map f).getD d ∧ (o.map f).getD d ≤ 1 := by
    intro o f d hf hd0 hd1
    cases o with
    | none => exact ⟨hd0, hd1⟩
    | some x => exact hf x
  have haudit := hsome raw.onChain.contractAuditScore (fun s => clamp (s / 100)) 0.3
    (fun _ => clamp_mem _) (by norm_num) (by norm_num)
  have hliquidity := hsome raw.onChain.liquidityDepth (fun d => logNorm M d 500000) 0.2
    (fun _ => logNorm_mem M _ _) (by norm_num) (by norm_num)
  have hlegal := clamp_mem (raw.offChain.legalComplianceScore / 100)
  exact {
    fundingCompletionRate := clamp_mem _
    fundingVelocityNorm := logNorm_mem M _ _
    whaleConcentration := clamp_mem _
    earlyMomentum := clamp_mem _
    teamStrength := clamp_mem _
    teamExperience := logNorm_mem M _ _
    prevSuccessBoost := by
      show 0 ≤ raw.offChain.previousProjectsSuccessRate.getD 0.4 ∧
        raw.offChain.previousProjectsSuccessRate.getD 0.4 ≤ 1
      cases hp : raw.offChain.previousProjectsSuccessRate with
      | none => norm_num
      | some x => exact hprev x hp
    advisoryStrength := clamp_mem _
    contractSecurity := clamp_mem _
    techRobustness := clamp_mem _
    auditSafety := haudit
    githubActivity := clamp_mem _
    communityEngagement := clamp_mem _
    sentimentNorm := clamp_mem _
    socialReach := clamp_mem _
    liquidityRisk := ⟨sub_nonneg.mpr hliquidity.2, sub_le_self 1 hliquidity.1⟩
    categoryRisk := CATEGORY_RISK_mem _
    legalRisk := ⟨sub_nonneg.mpr hlegal.2, sub_le_self 1 hlegal.1⟩ }

/-- `RiskAssessmentResult`, without the generated `explanationSummary` and
`investorInsights` texts. -/
structure RiskAssessmentResult (α : Type) where
  projectId : String
  timestamp : ℕ
  riskLevel : RiskLevel
  riskScore : RiskScore
  successPrediction : SuccessPrediction α
  topRiskFactors : List (RiskFactor α)
  topStrengths : List (RiskFactor α)

variable [FloorRing α]

/-- `assessFromRawData`. -/
def assessFromRawData (M : JsMath α) (raw : ProjectRawData α) : RiskAssessmentResult α :=
  let fv := extractFeatures M raw
  let riskScore := computeRiskScore fv
  let explanation := computeExplainability fv
  { projectId := raw.offChain.projectId
    timestamp := raw.timestamp
    riskLevel := classifyRiskLevel riskScore.overall
    riskScore
    successPrediction := predictSuccessProbability M fv
    topRiskFactors := explanation.risks
    topStrengths := explanation.strengths }

@[simp] theorem assessFromRawData_riskScore (M : JsMath α) (raw : ProjectRawData α) :
    (assessFromRawData M raw).riskScore = computeRiskScore (extractFeatures M raw) := rfl

/-- The assessment is monotone in the quality of the input: on an input at least as good
that agrees on the funding window, the overall score and each of the six sub-scores are at
least as high, and so is the success probability. -/
theorem assessFromRawData_mono (M : JsMath α) {r r' : ProjectRawData α}
    (h : r.AtLeastAsGood r')
    (hdeadline : r'.offChain.fundingDeadlineDays = r.offChain.fundingDeadlineDays)
    (hactive : r'.onChain.daysActive = r.onChain.daysActive) :
    (assessFromRawData M r).riskScore.AtMost (assessFromRawData M r').riskScore ∧
      (assessFromRawData M r).successPrediction.probability ≤
        (assessFromRawData M r').successPrediction.probability :=
  ⟨computeRiskScore_mono (extractFeatures_scoreLE M h),
    predictSuccessProbability_probability_mono M
      (extractFeatures_predictLE M h hdeadline hactive)⟩

/-- A small solar-grid project, the input the examples below start from. -/
def pilotProject : ProjectRawData ℝ where
  onChain :=
    { totalRaised := 40000, contributorCount := 120, largestContribution := 8000,
      fundingVelocity := 1500, daysActive := 20, contractAuditScore := some 85,
      hasMultisig := false, tokenomicsScore := some 70, liquidityDepth := some 100000 }
  offChain :=
    { projectId := "solar-grid", category := .INFRASTRUCTURE, teamSize := 6,
      teamExperienceYears := 4, githubCommits := some 150, githubStars := some 80,
      githubContributors := some 7, twitterFollowers := some 3000,
      discordMembers := some 1200, whitepaperScore := 75, roadmapClarity := 70,
      partnershipCount := 2, advisorCount := 2, advisorQualityScore := 60,
      previousProjectsSuccessRate := some 0.5, legalComplianceScore := 80, mediaScore := 55,
      sentimentScore := 0.3, fundingGoal := 100000, fundingDeadlineDays := 60,
      milestoneCount := 5 }
  timestamp := 0

/-- The pilot project with a faster funding velocity, a multisig wallet, a better
compliance score and a clearer roadmap scores at least as high everywhere, with a success
probability at least as high. -/
theorem assessFromRawData_mono_pilot :
    let better : ProjectRawData ℝ :=
      { onChain := { pilotProject.onChain with fundingVelocity := 2500, hasMultisig := true }
        offChain := { pilotProject.offChain with legalComplianceScore := 90, roadmapClarity := 85 }
        timestamp := 0 }
    pilotProject.AtLeastAsGood better ∧
      better.offChain.fundingDeadlineDays = pilotProject.offChain.fundingDeadlineDays ∧
      better.onChain.daysActive = pilotProject.onChain.daysActive ∧
      (assessFromRawData realMath pilotProject).riskScore.AtMost
        (assessFromRawData realMath better).riskScore ∧
      (assessFromRawData realMath pilotProject).successPrediction.probability ≤
        (assessFromRawData realMath better).successPrediction.probability := by
  intro better
  have h : pilotProject.AtLeastAsGood better :=
    { ProjectRawData.AtLeastAsGood.refl pilotProject with
      fundingVelocity := by norm_num [pilotProject, better]
      legalComplianceScore := by norm_num [pilotProject, better]
      roadmapClarity := by norm_num [pilotProject, better]
      hasMultisig := fun _ => rfl }
  exact ⟨h, rfl, rfl, assessFromRawData_mono realMath h rfl rfl⟩

/-- The founders' success rate reaches the team sub-score unclamped: a rate of five or
more lifts the team sub-score above 100, although every other feature is clamped. -/
theorem assessFromRawData_teamRisk_gt_hundred (M : JsMath α) {raw : ProjectRawData α} {x : α}
    (hx : raw.offChain.previousProjectsSuccessRate = some x) (h5 : 5 ≤ x) :
    100 < (assessFromRawData M raw).riskScore.teamRisk := by
  let fv := extractFeatures M raw
  have hpsb : fv.prevSuccessBoost = x := by
    show raw.offChain.previousProjectsSuccessRate.getD 0.4 = x
    rw [hx, Option.getD_some]
  have hts : 0 ≤ fv.teamStrength := clamp_nonneg _
  have hte : 0 ≤ fv.teamExperience := logNorm_nonneg _ _ _
  have has : 0 ≤ fv.advisoryStrength := clamp_nonneg _
  show (100 : ℤ) < jsRound (100 * (0.35 * fv.teamStrength + 0.25 * fv.teamExperience +
    0.25 * fv.prevSuccessBoost + 0.15 * fv.advisoryStrength))
  calc (100 : ℤ) < 125 := by norm_num
    _ ≤ _ := le_jsRound (by rw [hpsb]; push_cast; linarith)

/-- The pilot project with a recorded success rate of five: team sub-score above 100. -/
theorem assessFromRawData_teamRisk_gt_hundred_pilot :
    let raw : ProjectRawData ℝ :=
      { pilotProject with
        offChain := { pilotProject.offChain with previousProjectsSuccessRate := some 5 } }
    raw.offChain.previousProjectsSuccessRate = some 5 ∧
      100 < (assessFromRawData realMath raw).riskScore.teamRisk :=
  ⟨rfl, assessFromRawData_teamRisk_gt_hundred realMath rfl (by norm_num)⟩

/-- When the founders' success rate is absent or a fraction, as documented, every
component of the risk score is an integer in `[0, 100]`. -/
theorem assessFromRawData_riskScore_inRange (M : JsMath α) {raw : ProjectRawData α}
    (hprev : ∀ x, raw.offChain.previousProjectsSuccessRate = some x → 0 ≤ x ∧ x ≤ 1) :
    (assessFromRawData M raw).riskScore.InRange :=
  computeRiskScore_inRange (extractFeatures_scoreInputsInUnit M hprev)

/-- The pilot project's success rate of one half keeps its score in range. -/
theorem assessFromRawData_riskScore_inRange_pilot :
    (∀ x, pilotProject.offChain.previousProjectsSuccessRate = some x → 0 ≤ x ∧ x ≤ 1) ∧
      (assessFromRawData realMath pilotProject).riskScore.InRange := by
  have hprev : ∀ x, pilotProject.offChain.previousProjectsSuccessRate = some x →
      0 ≤ x ∧ x ≤ 1 := by
    rintro x hx
    obtain rfl : (0.5 : ℝ) = x := Option.some.inj hx
    norm_num
  exact ⟨hprev, assessFromRawData_riskScore_inRange realMath hprev⟩

end NovaFund.Risk

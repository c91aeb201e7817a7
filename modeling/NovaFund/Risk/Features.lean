import NovaFund.Risk.Numeric

/-!
# Feature engineering

The records a risk assessment starts from and the twenty-two features that
`extractFeatures` derives from them (`risk-engine.ts`, "Feature Engineering"). Fields
of the source records that no modelled function reads are left out.
-/

namespace NovaFund.Risk

/-- `ProjectCategory`. -/
inductive ProjectCategory
  | DEFI | NFT | GAMING | INFRASTRUCTURE | DAO | SOCIAL | OTHER
  deriving DecidableEq, Repr

variable {α : Type}

/-- `ProjectOnChainData`, the fields `extractFeatures` reads. -/
structure ProjectOnChainData (α : Type) where
  totalRaised : α
  contributorCount : α
  largestContribution : α
  /-- USD per day. -/
  fundingVelocity : α
  daysActive : α
  /-- `0–100`. -/
  contractAuditScore : Option α
  hasMultisig : Bool
  /-- `0–100`. -/
  tokenomicsScore : Option α
  liquidityDepth : Option α

/-- `ProjectOffChainData`, the fields the assessment reads. -/
structure ProjectOffChainData (α : Type) where
  projectId : String
  category : ProjectCategory
  teamSize : α
  teamExperienceYears : α
  githubCommits : Option α
  githubStars : Option α
  githubContributors : Option α
  twitterFollowers : Option α
  discordMembers : Option α
  whitepaperScore : α
  roadmapClarity : α
  partnershipCount : α
  advisorCount : α
  advisorQualityScore : α
  /-- Documented as `0–1`. -/
  previousProjectsSuccessRate : Option α
  legalComplianceScore : α
  mediaScore : α
  /-- Documented as `-1 to 1`. -/
  sentimentScore : α
  fundingGoal : α
  fundingDeadlineDays : α
  milestoneCount : α

/-- `ProjectRawData`. -/
structure ProjectRawData (α : Type) where
  onChain : ProjectOnChainData α
  offChain : ProjectOffChainData α
  timestamp : ℕ

/-- The keys of `FeatureVector`, in the order of its declaration. -/
inductive FeatureKey
  | fundingCompletionRate | fundingVelocityNorm | daysRemainingRatio | whaleConcentration
  | teamStrength | teamExperience | prevSuccessBoost | communityEngagement | sentimentNorm
  | githubActivity | socialReach | contractSecurity | auditSafety | techRobustness
  | projectQuality | roadmapScore | legalRisk | liquidityRisk | categoryRisk
  | earlyMomentum | whitepaperQuality | advisoryStrength
  deriving DecidableEq, Repr

/-- `FeatureVector`. -/
structure FeatureVector (α : Type) where
  fundingCompletionRate : α
  fundingVelocityNorm : α
  daysRemainingRatio : α
  whaleConcentration : α
  teamStrength : α
  teamExperience : α
  prevSuccessBoost : α
  communityEngagement : α
  sentimentNorm : α
  githubActivity : α
  socialReach : α
  contractSecurity : α
  auditSafety : α
  techRobustness : α
  projectQuality : α
  roadmapScore : α
  legalRisk : α
  liquidityRisk : α
  categoryRisk : α
  earlyMomentum : α
  whitepaperQuality : α
  advisoryStrength : α

/-- `fv[k]`. -/
def FeatureVector.get (fv : FeatureVector α) : FeatureKey → α
  | .fundingCompletionRate => fv.fundingCompletionRate
  | .fundingVelocityNorm => fv.fundingVelocityNorm
  | .daysRemainingRatio => fv.daysRemainingRatio
  | .whaleConcentration => fv.whaleConcentration
  | .teamStrength => fv.teamStrength
  | .teamExperience => fv.teamExperience
  | .prevSuccessBoost => fv.prevSuccessBoost
  | .communityEngagement => fv.communityEngagement
  | .sentimentNorm => fv.sentimentNorm
  | .githubActivity => fv.githubActivity
  | .socialReach => fv.socialReach
  | .contractSecurity => fv.contractSecurity
  | .auditSafety => fv.auditSafety
  | .techRobustness => fv.techRobustness
  | .projectQuality => fv.projectQuality
  | .roadmapScore => fv.roadmapScore
  | .legalRisk => fv.legalRisk
  | .liquidityRisk => fv.liquidityRisk
  | .categoryRisk => fv.categoryRisk
  | .earlyMomentum => fv.earlyMomentum
  | .whitepaperQuality => fv.whitepaperQuality
  | .advisoryStrength => fv.advisoryStrength

/-- The vector with feature `k` replaced by `v`. -/
def FeatureVector.set (fv : FeatureVector α) (k : FeatureKey) (v : α) : FeatureVector α :=
  match k with
  | .fundingCompletionRate => { fv with fundingCompletionRate := v }
  | .fundingVelocityNorm => { fv with fundingVelocityNorm := v }
  | .daysRemainingRatio => { fv with daysRemainingRatio := v }
  | .whaleConcentration => { fv with whaleConcentration := v }
  | .teamStrength => { fv with teamStrength := v }
  | .teamExperience => { fv with teamExperience := v }
  | .prevSuccessBoost => { fv with prevSuccessBoost := v }
  | .communityEngagement => { fv with communityEngagement := v }
  | .sentimentNorm => { fv with sentimentNorm := v }
  | .githubActivity => { fv with githubActivity := v }
  | .socialReach => { fv with socialReach := v }
  | .contractSecurity => { fv with contractSecurity := v }
  | .auditSafety => { fv with auditSafety := v }
  | .techRobustness => { fv with techRobustness := v }
  | .projectQuality => { fv with projectQuality := v }
  | .roadmapScore => { fv with roadmapScore := v }
  | .legalRisk => { fv with legalRisk := v }
  | .liquidityRisk => { fv with liquidityRisk := v }
  | .categoryRisk => { fv with categoryRisk := v }
  | .earlyMomentum => { fv with earlyMomentum := v }
  | .whitepaperQuality => { fv with whitepaperQuality := v }
  | .advisoryStrength => { fv with advisoryStrength := v }

@[simp] theorem FeatureVector.get_set_self (fv : FeatureVector α) (k : FeatureKey) (v : α) :
    (fv.set k v).get k = v := by
  cases k <;> rfl

@[simp] theorem FeatureVector.get_set_of_ne (fv : FeatureVector α) {k j : FeatureKey}
    (v : α) (h : j ≠ k) : (fv.set k v).get j = fv.get j := by
  cases k <;> cases j <;> first | rfl | exact absurd rfl h

variable [LinearOrderedField α]

/-- `CATEGORY_RISK`. The source's fallback `?? 0.5` is unreachable for a category of the
declared type. -/
def CATEGORY_RISK : ProjectCategory → α
  | .INFRASTRUCTURE => 0.20
  | .DEFI => 0.45
  | .DAO => 0.40
  | .GAMING => 0.55
  | .NFT => 0.70
  | .SOCIAL => 0.50
  | .OTHER => 0.60

theorem CATEGORY_RISK_mem (c : ProjectCategory) :
    0 ≤ (CATEGORY_RISK c : α) ∧ (CATEGORY_RISK c : α) ≤ 1 := by
  cases c <;> constructor <;> norm_num [CATEGORY_RISK]

/-- JavaScript's `x || 1` on a number: `1` replaces a zero. -/
def orOne (x : α) : α := if x = 0 then 1 else x

theorem orOne_of_ne_zero {x : α} (h : x ≠ 0) : orOne x = x := if_neg h

theorem orOne_pos {x : α} (h : 0 ≤ x) : 0 < orOne x := by
  unfold orOne
  split
  · exact one_pos
  · exact lt_of_le_of_ne h (Ne.symm ‹_›)

/-- `extractFeatures`. -/
def extractFeatures (M : JsMath α) (raw : ProjectRawData α) : FeatureVector α :=
  let oc := raw.onChain
  let off := raw.offChain
  let fundingCompletionRate := clamp (oc.totalRaised / orOne off.fundingGoal)
  let daysRemaining := max 0 (off.fundingDeadlineDays - oc.daysActive)
  let daysRemainingRatio :=
    if 0 < off.fundingDeadlineDays then clamp (daysRemaining / off.fundingDeadlineDays) else 0
  let fundingVelocityNorm := logNorm M oc.fundingVelocity 5000
  let whaleConcentration := clamp (oc.largestContribution / orOne oc.totalRaised)
  let teamExperience := logNorm M off.teamExperienceYears 5
  let prevSuccessBoost := off.previousProjectsSuccessRate.getD 0.4
  let advisoryStrength :=
    clamp (0.5 * clamp (off.advisorCount / 3) + 0.5 * clamp (off.advisorQualityScore / 100))
  let teamStrength := clamp (0.3 * teamExperience + 0.25 * prevSuccessBoost +
    0.25 * clamp (off.teamSize / 10) + 0.20 * advisoryStrength)
  let twitterScore := logNorm M (off.twitterFollowers.getD 0) 10000
  let discordScore := logNorm M (off.discordMembers.getD 0) 5000
  let sentimentNorm := clamp ((off.sentimentScore + 1) / 2)
  let communityEngagement :=
    clamp (0.35 * twitterScore + 0.35 * discordScore + 0.30 * sentimentNorm)
  let socialReach := clamp (0.6 * twitterScore + 0.4 * discordScore)
  let githubActivity := clamp (0.5 * logNorm M (off.githubCommits.getD 0) 200 +
    0.3 * logNorm M (off.githubContributors.getD 0) 20 +
    0.2 * logNorm M (off.githubStars.getD 0) 500)
  let auditSafety := (oc.contractAuditScore.map (fun s => clamp (s / 100))).getD 0.3
  let contractSecurity := clamp (0.6 * auditSafety + 0.4 * (if oc.hasMultisig then 1 else 0))
  let techRobustness := clamp (0.4 * contractSecurity + 0.3 * githubActivity +
    0.3 * clamp (oc.tokenomicsScore.getD 40 / 100))
  let whitepaperQuality := clamp (off.whitepaperScore / 100)
  let roadmapScore := clamp (off.roadmapClarity / 100)
  let legalRisk := 1 - clamp (off.legalComplianceScore / 100)
  let projectQuality := clamp (0.25 * whitepaperQuality + 0.20 * roadmapScore +
    0.20 * advisoryStrength + 0.15 * clamp (off.partnershipCount / 3) +
    0.10 * clamp (off.mediaScore / 100) + 0.10 * clamp (off.milestoneCount / 10))
  let liquidityRisk := 1 - (oc.liquidityDepth.map (fun d => logNorm M d 500000)).getD 0.2
  let categoryRisk := CATEGORY_RISK off.category
  let earlyMomentum := clamp (0.35 * fundingCompletionRate + 0.25 * fundingVelocityNorm +
    0.20 * communityEngagement + 0.20 * clamp (oc.contributorCount / 500))
  { fundingCompletionRate, fundingVelocityNorm, daysRemainingRatio, whaleConcentration,
    teamStrength, teamExperience, prevSuccessBoost, communityEngagement, sentimentNorm,
    githubActivity, socialReach, contractSecurity, auditSafety, techRobustness,
    projectQuality, roadmapScore, legalRisk, liquidityRisk, categoryRisk,
    earlyMomentum, whitepaperQuality, advisoryStrength }

end NovaFund.Risk

import NovaFund.Risk.Assess

/-!
# The explanation summary and the investor insights

`buildExplanationSummary` writes the paragraph an investor reads first: the risk category of
the overall score, the top risk factor, the top strength, and the weakest of the funding,
team and technical sub-scores (`risk-engine.ts`, "Explainability"). It reads the category
off the overall score by thresholds of its own; they are `classifyRiskLevel`'s, so the
summary never names another category than the assessment's `riskLevel`.

`buildInvestorInsights` lists up to six lines: seven threshold warnings in a fixed order,
then the recommendations of the two top risks. The cut to six falls after the sixth
warning at the earliest, so it only ever drops the last warning, the favourable verdict,
and only when all six warnings before it fire.
-/

namespace NovaFund.Risk

variable {α : Type}

/-- `riskWord` in `buildExplanationSummary`. -/
def riskWord (overall : ℤ) : String :=
  if 80 ≤ overall then "very low risk"
  else if 65 ≤ overall then "low risk"
  else if 45 ≤ overall then "moderate risk"
  else if 25 ≤ overall then "high risk"
  else "very high risk"

/-- `weakest` in `buildExplanationSummary`: the first of the funding, team and technical
sub-scores equal to their minimum. -/
def weakestDomain (score : RiskScore) : String :=
  let m := min (min score.fundingRisk score.teamRisk) score.technicalRisk
  if m = score.fundingRisk then "funding momentum"
  else if m = score.teamRisk then "team quality"
  else "technical robustness"

/-- `buildExplanationSummary`. `toLowerCase` is `String.toLower`, which agrees with it on
the ASCII display names of `FACTOR_DEFINITIONS`. -/
def buildExplanationSummary (score : RiskScore) (risks strengths : List (RiskFactor α)) :
    String :=
  "This project is assessed as " ++ riskWord score.overall ++ " (score: " ++
    toString score.overall ++ "/100). " ++
  "The primary concern is " ++ ((risks.head?.map (·.displayName)).getD "unknown").toLower ++
    ", " ++
  "while " ++ ((strengths.head?.map (·.displayName)).getD "team quality").toLower ++
    " is the strongest signal. " ++
  "The weakest domain is " ++ weakestDomain score ++ ". " ++
  "Investors should weigh the identified risk factors carefully before committing capital."

/-- The risk category each level stands for, in the summary's words. -/
def RiskLevel.word : RiskLevel → String
  | .VERY_LOW => "very low risk"
  | .LOW => "low risk"
  | .MEDIUM => "moderate risk"
  | .HIGH => "high risk"
  | .VERY_HIGH => "very high risk"

/-- `riskWord` and `classifyRiskLevel` cut the overall score at the same thresholds. -/
theorem riskWord_eq_word (overall : ℤ) :
    riskWord overall = (classifyRiskLevel overall).word := by
  unfold riskWord classifyRiskLevel
  split_ifs <;> rfl

/-- The domain `weakestDomain` names has the lowest of the three sub-scores, ties going to
funding, then to team. -/
theorem weakestDomain_min (score : RiskScore) :
    (weakestDomain score = "funding momentum" ∧
        score.fundingRisk ≤ score.teamRisk ∧ score.fundingRisk ≤ score.technicalRisk) ∨
      (weakestDomain score = "team quality" ∧
        score.teamRisk < score.fundingRisk ∧ score.teamRisk ≤ score.technicalRisk) ∨
      (weakestDomain score = "technical robustness" ∧
        score.technicalRisk < score.fundingRisk ∧ score.technicalRisk < score.teamRisk) := by
  unfold weakestDomain
  dsimp only
  split_ifs with hf ht
  · exact .inl ⟨rfl, by omega, by omega⟩
  · exact .inr (.inl ⟨rfl, by omega, by omega⟩)
  · exact .inr (.inr ⟨rfl, by omega, by omega⟩)

variable [LinearOrderedField α] [FloorRing α]

/-- For every input, the summary `buildExplanationSummary` writes for the assessment names
the risk category of the assessment's `riskLevel` with its overall score, and, as the
weakest domain, the one whose sub-score is the lowest of funding, team and technical, a tie
going to funding, then to team. -/
theorem explanationSummary_agrees_with_assessment (M : JsMath α) (raw : ProjectRawData α) :
    let r := assessFromRawData M raw
    (∃ middle, buildExplanationSummary r.riskScore r.topRiskFactors r.topStrengths =
        "This project is assessed as " ++ r.riskLevel.word ++ " (score: " ++
          toString r.riskScore.overall ++ "/100). " ++ middle ++ "The weakest domain is " ++
          weakestDomain r.riskScore ++ ". " ++
          "Investors should weigh the identified risk factors carefully before committing " ++
          "capital.") ∧
      ((weakestDomain r.riskScore = "funding momentum" ∧
          r.riskScore.fundingRisk ≤ r.riskScore.teamRisk ∧
          r.riskScore.fundingRisk ≤ r.riskScore.technicalRisk) ∨
        (weakestDomain r.riskScore = "team quality" ∧
          r.riskScore.teamRisk < r.riskScore.fundingRisk ∧
          r.riskScore.teamRisk ≤ r.riskScore.technicalRisk) ∨
        (weakestDomain r.riskScore = "technical robustness" ∧
          r.riskScore.technicalRisk < r.riskScore.fundingRisk ∧
          r.riskScore.technicalRisk < r.riskScore.teamRisk)) := by
  intro r
  refine ⟨⟨"The primary concern is " ++
      ((r.topRiskFactors.head?.map (·.displayName)).getD "unknown").toLower ++ ", " ++
      "while " ++
      ((r.topStrengths.head?.map (·.displayName)).getD "team quality").toLower ++
      " is the strongest signal. ", ?_⟩, weakestDomain_min _⟩
  simp only [buildExplanationSummary, riskWord_eq_word, String.append_assoc]
  rfl

/-! ## Investor insights -/

/-- The `recommend` text of the entry of `FACTOR_DEFINITIONS` for `key` at value `v`: the
`recommendation` of the factor `computeExplainability` builds from that entry. A key with
no entry has no factor, and no text. -/
def recommendation (key : FeatureKey) (v : α) : String :=
  match key with
  | .fundingCompletionRate =>
    if v < 0.3 then "Funding traction is low — improve marketing or adjust the funding goal."
    else if v < 0.6 then
      "Moderate progress. Stronger community outreach may accelerate momentum."
    else "Strong funding progress. Maintain current momentum."
  | .earlyMomentum =>
    if v < 0.4 then
      "Weak early momentum — strategic partnerships and high-impact launch events may help."
    else "Momentum is adequate. Convert community interest into contributions."
  | .whaleConcentration =>
    if 0.3 < v then "High whale risk — consider setting max contribution caps to diversify."
    else "Concentration risk is acceptable."
  | .teamStrength =>
    if v < 0.5 then
      "Below-average team score — add experienced advisors or publicise credentials."
    else "Team appears solid. Highlight individual credentials to build investor confidence."
  | .prevSuccessBoost =>
    if v < 0.4 then "Limited prior history. A detailed execution roadmap can compensate."
    else "Good track record — strong positive signal for investors."
  | .contractSecurity =>
    if v < 0.5 then "Security is concerning — a third-party audit is strongly recommended."
    else if v < 0.75 then "Moderate security. Consider a reputable audit firm."
    else "Strong security posture."
  | .auditSafety =>
    if v < 0.35 then "Critical: unaudited contracts dramatically increase investor risk."
    else "Audit coverage adequate — ensure reports are publicly accessible."
  | .communityEngagement =>
    if v < 0.4 then "Low engagement — regular AMAs and Discord activity can help."
    else "Community engagement is healthy."
  | .sentimentNorm =>
    if v < 0.4 then "Negative sentiment detected — address community concerns transparently."
    else "Sentiment is positive. Sustain open communication channels."
  | .legalRisk =>
    if 0.5 < v then
      "Significant compliance gaps — engage legal counsel specialising in crypto regulation."
    else if 0.3 < v then "Moderate risk — review jurisdiction-specific requirements."
    else "Legal posture appears sound."
  | .liquidityRisk =>
    if 0.6 < v then
      "Low liquidity is a concern for secondary exits — consider liquidity mining."
    else "Liquidity appears adequate."
  | .projectQuality =>
    if v < 0.5 then "Weak fundamentals — improve whitepaper, roadmap, and partnerships."
    else "Strong project fundamentals."
  | _ => ""

/-- The seven warnings `buildInvestorInsights` may push, in its order: the text, when its
condition holds. -/
def investorWarnings (fv : FeatureVector α) (score : RiskScore) : List (Option String) :=
  [if score.fundingRisk < 50 then some
      "Funding velocity is below target — project may not reach its goal within the deadline."
    else none,
   if 0.35 < fv.whaleConcentration then some
      ("Whale risk: top contributor holds " ++ toString (jsRound (fv.whaleConcentration * 100)) ++
        "% of funds. Consider a max contribution cap.")
    else none,
   if fv.auditSafety < 0.35 then
      some "Smart contracts are unaudited — significant security risk for investors."
    else none,
   if fv.sentimentNorm < 0.45 then some
      "Community sentiment is trending negative. Monitor Discord and Twitter for grievances."
    else none,
   if 0.5 < fv.legalRisk then
      some "Elevated regulatory risk. Confirm the project has appropriate legal opinions."
    else none,
   if 0.7 < fv.teamStrength ∧ 0.65 < fv.projectQuality then some
      "Strong team and solid project fundamentals — a positive signal for long-term viability."
    else none,
   if 70 ≤ score.overall then some
      "Overall risk profile is favourable. This project meets baseline quality thresholds."
    else none]

/-- `buildInvestorInsights`: the warnings whose condition holds, then the recommendations of
the first two risks, cut to six. -/
def buildInvestorInsights (fv : FeatureVector α) (score : RiskScore)
    (risks : List (RiskFactor α)) : List String :=
  ((investorWarnings fv score).filterMap id ++
    (risks.take 2).map fun r => recommendation r.name r.currentValue).take 6

/-- A text pushed by a warning survives a cut to `n` when fewer than `n` warnings before it
pushed theirs. -/
theorem mem_take_filterMap_append :
    ∀ (ws : List (Option String)) (rest : List String) {n j : ℕ} {t : String},
      ws[j]? = some (some t) → (ws.take j).countP Option.isSome < n →
        t ∈ (ws.filterMap id ++ rest).take n
  | [], _, _, _, _, h, _ => by cases h
  | w :: ws, rest, n, 0, t, h, hn => by
    obtain rfl : w = some t := by simpa using h
    obtain ⟨n, rfl⟩ := Nat.exists_eq_add_of_lt hn
    simp
  | none :: ws, rest, n, j + 1, t, h, hn => by
    simpa using mem_take_filterMap_append ws rest (by simpa using h) (by simpa using hn)
  | some u :: ws, rest, n, j + 1, t, h, hn => by
    simp only [List.take_succ_cons, List.countP_cons, Option.isSome_some, if_true] at hn
    obtain ⟨n, rfl⟩ : ∃ m, n = m + 1 := ⟨n - 1, by omega⟩
    simpa using List.mem_cons_of_mem u
      (mem_take_filterMap_append ws rest (n := n) (by simpa using h) (by omega))

theorem length_investorWarnings (fv : FeatureVector α) (score : RiskScore) :
    (investorWarnings fv score).length = 7 := rfl

/-- The cap of six never drops a warning: each of the first six whose condition holds is
among the insights, and so is the seventh, the favourable verdict, unless all six before it
hold. The recommendations of the top risks only fill the room left. -/
theorem investorInsights_keep_warnings (fv : FeatureVector α) (score : RiskScore)
    (risks : List (RiskFactor α)) :
    (buildInvestorInsights fv score risks).length ≤ 6 ∧
      ∀ j t, (investorWarnings fv score)[j]? = some (some t) →
        (j < 6 ∨ ∃ i < j, (investorWarnings fv score)[i]? = some none) →
          t ∈ buildInvestorInsights fv score risks := by
  refine ⟨List.length_take_le _ _, fun j t h hj => mem_take_filterMap_append _ _ h ?_⟩
  rcases hj with hj | ⟨i, hij, hi⟩
  · exact (List.countP_le_length _).trans_lt ((List.length_take_le _ _).trans_lt hj)
  · have h7 := (List.getElem?_eq_some_iff.mp h).1
    rw [length_investorWarnings] at h7
    have hmem : none ∈ (investorWarnings fv score).take j :=
      List.getElem?_mem ((List.getElem?_take_of_lt hij).trans hi)
    have hlt : ((investorWarnings fv score).take j).countP Option.isSome <
        ((investorWarnings fv score).take j).length :=
      lt_of_le_of_ne (List.countP_le_length _) fun heq => by
        simpa using List.countP_eq_length.mp heq none hmem
    have := List.length_take_le j (investorWarnings fv score)
    omega

end NovaFund.Risk

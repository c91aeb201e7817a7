import NovaFund.Risk.Model

/-!
# Explainability

`computeExplainability` scores twelve factors by the absolute logistic weight of their
feature times the feature's distance from a baseline, and lists the five most negative
as risks and the five most positive as strengths (`risk-engine.ts`, "Explainability").
-/

namespace NovaFund.Risk

/-- `RiskFactor["category"]`. -/
inductive FactorCategory
  | FUNDING | TEAM | TECHNICAL | COMMUNITY | MARKET | LEGAL
  deriving DecidableEq, Repr

variable {α : Type} [LinearOrderedField α]

/-- `BASELINES`. -/
def BASELINES : FeatureVector α where
  fundingCompletionRate := 0.40
  fundingVelocityNorm := 0.35
  daysRemainingRatio := 0.50
  whaleConcentration := 0.25
  teamStrength := 0.50
  teamExperience := 0.40
  prevSuccessBoost := 0.40
  communityEngagement := 0.40
  sentimentNorm := 0.55
  githubActivity := 0.35
  socialReach := 0.35
  techRobustness := 0.45
  auditSafety := 0.30
  contractSecurity := 0.40
  projectQuality := 0.45
  roadmapScore := 0.50
  legalRisk := 0.30
  liquidityRisk := 0.50
  categoryRisk := 0.50
  earlyMomentum := 0.40
  whitepaperQuality := 0.45
  advisoryStrength := 0.40

/-- An entry of `FACTOR_DEFINITIONS`; its `describe` and `recommend` texts are not read by
any modelled function and are left out. -/
structure FactorDefinition (α : Type) where
  key : FeatureKey
  displayName : String
  category : FactorCategory
  benchmark : α

/-- `FACTOR_DEFINITIONS`. -/
def FACTOR_DEFINITIONS : List (FactorDefinition α) :=
  [⟨.fundingCompletionRate, "Funding Progress", .FUNDING, 0.80⟩,
   ⟨.earlyMomentum, "Early Momentum", .FUNDING, 0.70⟩,
   ⟨.whaleConcentration, "Whale Concentration Risk", .FUNDING, 0.15⟩,
   ⟨.teamStrength, "Team Quality", .TEAM, 0.75⟩,
   ⟨.prevSuccessBoost, "Founders\x27 Track Record", .TEAM, 0.65⟩,
   ⟨.contractSecurity, "Smart Contract Security", .TECHNICAL, 0.80⟩,
   ⟨.auditSafety, "Audit Status", .TECHNICAL, 0.75⟩,
   ⟨.communityEngagement, "Community Engagement", .COMMUNITY, 0.70⟩,
   ⟨.sentimentNorm, "Community Sentiment", .COMMUNITY, 0.65⟩,
   ⟨.legalRisk, "Legal & Compliance Risk", .LEGAL, 0.15⟩,
   ⟨.liquidityRisk, "Liquidity Risk", .MARKET, 0.30⟩,
   ⟨.projectQuality, "Project Fundamentals", .MARKET, 0.70⟩]

/-- `RiskFactor`, the fields the model computes. The contract documented on `impact` is
"negative = hurts, positive = helps". -/
structure RiskFactor (α : Type) where
  name : FeatureKey
  displayName : String
  category : FactorCategory
  impact : α
  currentValue : α
  benchmark : α

/-- The factor `computeExplainability` builds from one definition: its impact is the
absolute weight times the distance of the value from its baseline. -/
def FactorDefinition.toFactor (d : FactorDefinition α) (fv : FeatureVector α) : RiskFactor α :=
  let value := fv.get d.key
  let baselineVal := (BASELINES : FeatureVector α).get d.key
  let weight := |lrWeight (α := α) d.key|
  { name := d.key, displayName := d.displayName, category := d.category,
    impact := weight * (value - baselineVal), currentValue := value, benchmark := d.benchmark }

/-- The result of `computeExplainability`. -/
structure Explanation (α : Type) where
  risks : List (RiskFactor α)
  strengths : List (RiskFactor α)

/-- `computeExplainability`. `Array.prototype.sort` is stable, as `List.mergeSort` is, and
both order by the comparator's sign. -/
def computeExplainability (fv : FeatureVector α) : Explanation α :=
  let factors := FACTOR_DEFINITIONS.map (·.toFactor fv)
  { risks := ((factors.filter (fun f => f.impact < 0)).mergeSort
      (fun a b => a.impact ≤ b.impact)).take 5
    strengths := ((factors.filter (fun f => 0 < f.impact)).mergeSort
      (fun a b => b.impact ≤ a.impact)).take 5 }

/-- A listed risk comes from a factor definition and has negative impact. -/
theorem mem_risks {fv : FeatureVector α} {f : RiskFactor α}
    (h : f ∈ (computeExplainability fv).risks) :
    (∃ d ∈ (FACTOR_DEFINITIONS : List (FactorDefinition α)), d.toFactor fv = f) ∧
      f.impact < 0 := by
  have h' := List.mem_of_mem_take h
  simp only [List.mem_mergeSort, List.mem_filter, List.mem_map, decide_eq_true_eq] at h'
  exact h'

/-- A listed strength comes from a factor definition and has positive impact. -/
theorem mem_strengths {fv : FeatureVector α} {f : RiskFactor α}
    (h : f ∈ (computeExplainability fv).strengths) :
    (∃ d ∈ (FACTOR_DEFINITIONS : List (FactorDefinition α)), d.toFactor fv = f) ∧
      0 < f.impact := by
  have h' := List.mem_of_mem_take h
  simp only [List.mem_mergeSort, List.mem_filter, List.mem_map, decide_eq_true_eq] at h'
  exact h'

/-- Resetting a factor's feature to its baseline moves the logit by the factor's weight
times the distance the value lay from the baseline. -/
theorem logit_reset (fv : FeatureVector α) (k : FeatureKey) :
    logit (fv.set k ((BASELINES : FeatureVector α).get k)) - logit fv =
      lrWeight k * ((BASELINES : FeatureVector α).get k - fv.get k) := by
  rw [logit_set]
  ring

/-- What a listed risk means for the model: resetting it to its baseline raises the
logistic regression's probability exactly when its weight is positive. The listing uses
the absolute weight, so for the three negatively weighted features a "risk" is a value
better than the baseline. -/
theorem risk_hurts_iff (M : JsMath α) {fv : FeatureVector α} {f : RiskFactor α}
    (h : f ∈ (computeExplainability fv).risks) :
    runLogisticRegression M fv <
        runLogisticRegression M (fv.set f.name ((BASELINES : FeatureVector α).get f.name)) ↔
      0 < lrWeight (α := α) f.name := by
  obtain ⟨⟨d, -, rfl⟩, himpact⟩ := mem_risks h
  simp only [FactorDefinition.toFactor] at himpact ⊢
  have hbelow : 0 < (BASELINES : FeatureVector α).get d.key - fv.get d.key :=
    sub_pos.mpr (sub_neg.mp (neg_of_mul_neg_right himpact (abs_nonneg _)))
  rw [runLogisticRegression_lt_iff, ← sub_pos, logit_reset]
  exact mul_pos_iff_of_pos_right hbelow

/-- What a listed strength means for the model: resetting it to its baseline lowers the
logistic regression's probability exactly when its weight is positive. -/
theorem strength_helps_iff (M : JsMath α) {fv : FeatureVector α} {f : RiskFactor α}
    (h : f ∈ (computeExplainability fv).strengths) :
    runLogisticRegression M (fv.set f.name ((BASELINES : FeatureVector α).get f.name)) <
        runLogisticRegression M fv ↔
      0 < lrWeight (α := α) f.name := by
  obtain ⟨⟨d, -, rfl⟩, himpact⟩ := mem_strengths h
  simp only [FactorDefinition.toFactor] at himpact ⊢
  have habove : 0 < fv.get d.key - (BASELINES : FeatureVector α).get d.key :=
    pos_of_mul_pos_right himpact (abs_nonneg _)
  rw [runLogisticRegression_lt_iff, ← sub_pos, ← neg_sub, neg_pos, logit_reset,
    ← neg_sub (fv.get d.key), mul_neg, neg_lt_zero]
  exact mul_pos_iff_of_pos_right habove

theorem lrWeight_whaleConcentration : lrWeight (α := α) .whaleConcentration = -0.10 := rfl

/-- With every feature at its baseline except a whale concentration of zero, the whale
factor is listed as a risk, yet resetting it to its baseline lowers the logistic
regression's probability: the listed "risk" helps. -/
theorem explainability_lists_helpful_whale_risk (M : JsMath α) :
    let fv := (BASELINES : FeatureVector α).set .whaleConcentration 0
    ∃ f ∈ (computeExplainability fv).risks, f.name = .whaleConcentration ∧
      runLogisticRegression M (fv.set f.name ((BASELINES : FeatureVector α).get f.name)) <
        runLogisticRegression M fv := by
  intro fv
  have hwhale : (BASELINES : FeatureVector α).get .whaleConcentration = 0.25 := rfl
  have himpact : |lrWeight (α := α) .whaleConcentration| * (0 - 0.25) < 0 := by
    rw [lrWeight_whaleConcentration]
    norm_num
  -- every other factor sits at its baseline, so only the whale factor has an impact
  have hrisks : (computeExplainability fv).risks =
      [(⟨.whaleConcentration, "Whale Concentration Risk", .FUNDING, 0.15⟩ :
        FactorDefinition α).toFactor fv] := by
    simp only [computeExplainability, FACTOR_DEFINITIONS, List.map_cons, List.map_nil,
      FactorDefinition.toFactor, fv, ne_eq, reduceCtorEq, not_false_eq_true,
      FeatureVector.get_set_of_ne, FeatureVector.get_set_self, sub_self, mul_zero,
      lt_self_iff_false, decide_False, decide_True, List.filter_cons, List.filter_nil,
      hwhale, himpact, if_true, if_false, Bool.false_eq_true, List.mergeSort_singleton]
    rfl
  rw [hrisks]
  refine ⟨_, List.mem_singleton_self _, rfl, ?_⟩
  rw [runLogisticRegression_lt_iff, ← sub_neg, logit_reset]
  show lrWeight (α := α) .whaleConcentration * ((BASELINES : FeatureVector α).get
    .whaleConcentration - fv.get .whaleConcentration) < 0
  rw [FeatureVector.get_set_self, lrWeight_whaleConcentration, hwhale]
  norm_num

/-! ## The five most extreme factors of each sign

`filter`, a stable sort by a total preorder and `slice(0, k)` keep the first `k` of the
sorted matching elements: in order, as many as there are up to `k`, and none left out comes
before one kept. -/

section TopK

variable {β : Type} (p : β → Bool) (le : β → β → Bool) (L : List β) (k : ℕ)

theorem mem_take_mergeSort_filter {x : β} (hx : x ∈ ((L.filter p).mergeSort le).take k) :
    x ∈ L ∧ p x = true := by
  simpa using List.mem_of_mem_take hx

theorem length_take_mergeSort_filter :
    (((L.filter p).mergeSort le).take k).length = min k (L.countP p) := by
  rw [List.length_take, List.length_mergeSort, List.countP_eq_length_filter]

theorem nodup_map_take_mergeSort_filter {γ : Type} {g : β → γ} (h : (L.map g).Nodup) :
    ((((L.filter p).mergeSort le).take k).map g).Nodup :=
  List.Nodup.sublist ((List.take_sublist _ _).map g)
    (((List.mergeSort_perm _ le).map g).nodup_iff.mpr
      (List.Nodup.sublist ((List.filter_sublist L).map g) h))

theorem pairwise_take_mergeSort_filter (trans : ∀ a b c, le a b → le b c → le a c)
    (total : ∀ a b, le a b || le b a) :
    (((L.filter p).mergeSort le).take k).Pairwise (fun a b => le a b) :=
  (List.sorted_mergeSort trans total _).sublist (List.take_sublist _ _)

/-- An element the selection leaves out comes after every element it keeps. -/
theorem le_of_not_mem_take_mergeSort_filter (trans : ∀ a b c, le a b → le b c → le a c)
    (total : ∀ a b, le a b || le b a) {x : β} (hx : x ∈ L) (hp : p x = true)
    (hout : x ∉ ((L.filter p).mergeSort le).take k) :
    ∀ y ∈ ((L.filter p).mergeSort le).take k, le y x := by
  have hsorted := List.sorted_mergeSort trans total (L.filter p)
  have hmem : x ∈ (L.filter p).mergeSort le :=
    List.mem_mergeSort.mpr (List.mem_filter.mpr ⟨hx, hp⟩)
  rw [← List.take_append_drop k ((L.filter p).mergeSort le)] at hsorted hmem
  rcases List.mem_append.mp hmem with hin | hdrop
  · exact absurd hin hout
  · exact fun y hy => (List.pairwise_append.mp hsorted).2.2 y hy x hdrop

end TopK

/-- The twelve factors have twelve different names. -/
theorem factor_names_nodup (fv : FeatureVector α) :
    (((FACTOR_DEFINITIONS : List (FactorDefinition α)).map (·.toFactor fv)).map (·.name)).Nodup := by
  simp only [FACTOR_DEFINITIONS, List.map_cons, List.map_nil, FactorDefinition.toFactor]
  decide

/-- Ordering factors by impact, either way, is a total preorder. -/
theorem impact_le_total_preorder :
    (∀ a b c : RiskFactor α, decide (a.impact ≤ b.impact) → decide (b.impact ≤ c.impact) →
      decide (a.impact ≤ c.impact)) ∧
    ∀ a b : RiskFactor α, decide (a.impact ≤ b.impact) || decide (b.impact ≤ a.impact) := by
  refine ⟨fun a b c hab hbc => ?_, fun a b => ?_⟩
  · simp only [decide_eq_true_eq] at hab hbc ⊢
    exact hab.trans hbc
  · simpa only [Bool.or_eq_true, decide_eq_true_eq] using le_total a.impact b.impact

/-- For every feature vector: each list has at most five factors, no factor twice and none
in both; the risks have negative impact, in non-decreasing order, and the strengths positive
impact, in non-increasing order; and each list holds as many factors of its sign as there
are, up to five, with no factor of that sign left out more extreme than the last one
listed. -/
theorem computeExplainability_top_five (fv : FeatureVector α) :
    let factors := (FACTOR_DEFINITIONS : List (FactorDefinition α)).map (·.toFactor fv)
    let e := computeExplainability fv
    e.risks.length ≤ 5 ∧ e.strengths.length ≤ 5 ∧
      (e.risks.map (·.name)).Nodup ∧ (e.strengths.map (·.name)).Nodup ∧
      (e.risks.map (·.name)).Disjoint (e.strengths.map (·.name)) ∧
      (∀ f ∈ e.risks, f.impact < 0) ∧ e.risks.Pairwise (fun a b => a.impact ≤ b.impact) ∧
      (∀ f ∈ e.strengths, 0 < f.impact) ∧
      e.strengths.Pairwise (fun a b => b.impact ≤ a.impact) ∧
      e.risks.length = min 5 (factors.countP (·.impact < 0)) ∧
      (∀ f ∈ factors, f.impact < 0 → f.name ∉ e.risks.map (·.name) →
        ∀ l ∈ e.risks.getLast?, l.impact ≤ f.impact) ∧
      e.strengths.length = min 5 (factors.countP (0 < ·.impact)) ∧
      (∀ f ∈ factors, 0 < f.impact → f.name ∉ e.strengths.map (·.name) →
        ∀ l ∈ e.strengths.getLast?, f.impact ≤ l.impact) := by
  intro factors e
  obtain ⟨htrans, htotal⟩ := impact_le_total_preorder (α := α)
  -- the strengths' comparator is the same preorder, flipped
  have htrans' : ∀ a b c : RiskFactor α, decide (b.impact ≤ a.impact) →
      decide (c.impact ≤ b.impact) → decide (c.impact ≤ a.impact) :=
    fun a b c hab hbc => htrans c b a hbc hab
  have htotal' : ∀ a b : RiskFactor α,
      decide (b.impact ≤ a.impact) || decide (a.impact ≤ b.impact) := fun a b => htotal b a
  have hnames := factor_names_nodup fv
  have hrisks : e.risks = ((factors.filter fun f => f.impact < 0).mergeSort
      fun a b => a.impact ≤ b.impact).take 5 := rfl
  have hstrengths : e.strengths = ((factors.filter fun f => 0 < f.impact).mergeSort
      fun a b => b.impact ≤ a.impact).take 5 := rfl
  have hrisk : ∀ f ∈ e.risks, f ∈ factors ∧ f.impact < 0 := fun f hf =>
    (mem_take_mergeSort_filter _ _ _ _ (hrisks ▸ hf)).imp_right of_decide_eq_true
  have hstrength : ∀ f ∈ e.strengths, f ∈ factors ∧ 0 < f.impact := fun f hf =>
    (mem_take_mergeSort_filter _ _ _ _ (hstrengths ▸ hf)).imp_right of_decide_eq_true
  have hrlen := length_take_mergeSort_filter (fun f : RiskFactor α => f.impact < 0)
    (fun a b => a.impact ≤ b.impact) factors 5
  have hslen := length_take_mergeSort_filter (fun f : RiskFactor α => 0 < f.impact)
    (fun a b => b.impact ≤ a.impact) factors 5
  rw [← hrisks] at hrlen
  rw [← hstrengths] at hslen
  refine ⟨hrlen ▸ min_le_left _ _, hslen ▸ min_le_left _ _,
    hrisks ▸ nodup_map_take_mergeSort_filter _ _ _ _ hnames,
    hstrengths ▸ nodup_map_take_mergeSort_filter _ _ _ _ hnames, ?_,
    fun f hf => (hrisk f hf).2, ?_, fun f hf => (hstrength f hf).2, ?_, hrlen, ?_, hslen, ?_⟩
  · -- a name in both lists names one factor, of negative and of positive impact
    intro n hr hs
    obtain ⟨f, hf, rfl⟩ := List.mem_map.mp hr
    obtain ⟨g, hg, hfg⟩ := List.mem_map.mp hs
    obtain rfl := List.inj_on_of_nodup_map hnames (hstrength g hg).1 (hrisk f hf).1 hfg
    exact absurd (hrisk g hf).2 (not_lt.mpr (hstrength g hg).2.le)
  · exact hrisks ▸ (pairwise_take_mergeSort_filter _ _ _ _ htrans htotal).imp of_decide_eq_true
  · exact hstrengths ▸ (pairwise_take_mergeSort_filter _ _ _ _ htrans' htotal').imp
      of_decide_eq_true
  · intro f hf hneg hout l hl
    exact of_decide_eq_true (le_of_not_mem_take_mergeSort_filter _ _ _ _ htrans htotal hf
      (decide_eq_true hneg) (fun hin => hout (List.mem_map_of_mem _ (hrisks ▸ hin))) l
      (hrisks ▸ List.mem_of_getLast?_eq_some hl))
  · intro f hf hpos hout l hl
    exact of_decide_eq_true (le_of_not_mem_take_mergeSort_filter _ _ _ _ htrans' htotal' hf
      (decide_eq_true hpos) (fun hin => hout (List.mem_map_of_mem _ (hstrengths ▸ hin))) l
      (hstrengths ▸ List.mem_of_getLast?_eq_some hl))

end NovaFund.Risk

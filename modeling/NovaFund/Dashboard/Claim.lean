import Mathlib

/-!
# Claiming returns on the dashboard

`DashboardPage.handleClaim(investmentId, amount)` waits 1.5 s, then passes
`setPortfolioData` an updater that sets the investment's `claimableReturns` to 0, clears
its `canClaim` and lowers `totalClaimableReturns` by `amount` (`part_007`). The toast and
the notification it posts after that, and its `catch`, write no portfolio data. React
applies queued updaters in order, each to the state the previous one left, so an updater
acts at the moment its call resumes.

A call is passed the investment's `claimableReturns` when it starts, but its updater
subtracts that amount whatever the investment holds when the call resumes. Two claims of
one investment started within the same 1.5 s, while it still shows `canClaim`, both
subtract it, and the total no longer matches the investments. It never exceeds them, and
it matches them in every state when claims of one investment never overlap.
-/

namespace NovaFund.Dashboard

/-- An `Investment`, the fields `handleClaim` reads or writes. -/
structure Investment where
  id : String
  claimableReturns : ℤ
  canClaim : Bool
  deriving DecidableEq, Repr

/-- `PortfolioData`, the fields `handleClaim` reads or writes. -/
structure PortfolioData where
  totalClaimableReturns : ℤ
  investments : List Investment
  deriving DecidableEq, Repr

/-- `mockPortfolioData`, the portfolio the page starts with. -/
def mockPortfolioData : PortfolioData where
  totalClaimableReturns := 2800
  investments :=
    [⟨"1", 800, true⟩, ⟨"2", 400, true⟩, ⟨"3", 200, false⟩, ⟨"4", 1400, true⟩]

/-- What the updater of `handleClaim(investmentId, amount)` does to one investment. -/
def claimInvestment (investmentId : String) (inv : Investment) : Investment :=
  if inv.id = investmentId then { inv with claimableReturns := 0, canClaim := false } else inv

/-- The updater `handleClaim(investmentId, amount)` passes to `setPortfolioData`. -/
def claimUpdate (investmentId : String) (amount : ℤ) (prev : PortfolioData) :
    PortfolioData :=
  { prev with
    investments := prev.investments.map (claimInvestment investmentId)
    totalClaimableReturns := prev.totalClaimableReturns - amount }

/-- A `handleClaim` call waiting out its 1.5 s timer. -/
structure PendingClaim where
  investmentId : String
  amount : ℤ
  deriving DecidableEq, Repr

/-- The page's portfolio and the calls waiting for their timer, in the order they
started. Every call waits the same 1.5 s, so the timers fire in that order. -/
structure DashboardState where
  portfolioData : PortfolioData
  waiting : List PendingClaim
  deriving DecidableEq, Repr

/-- The page as it mounts. -/
def DashboardState.init : DashboardState := ⟨mockPortfolioData, []⟩

/-- What can happen next: the user claims the investment the table shows under an id, or
the oldest waiting call's timer fires. -/
inductive Event
  | claim (investmentId : String)
  | resume
  deriving DecidableEq, Repr

/-- `handleClaim(investmentId, amount)` up to its first await. -/
def handleClaim (s : DashboardState) (investmentId : String) (amount : ℤ) : DashboardState :=
  { s with waiting := s.waiting ++ [⟨investmentId, amount⟩] }

/-- The oldest waiting call resumes and its updater is applied. -/
def resumeClaim (s : DashboardState) : Option DashboardState :=
  match s.waiting with
  | [] => none
  | c :: rest => some ⟨claimUpdate c.investmentId c.amount s.portfolioData, rest⟩

/-- The investment the table shows under `investmentId`. -/
def PortfolioData.find (p : PortfolioData) (investmentId : String) : Option Investment :=
  p.investments.find? (·.id = investmentId)

/-- One step, `none` when the event is not enabled. A claim is for an investment the page
shows, with the `claimableReturns` it shows. -/
def step (s : DashboardState) : Event → Option DashboardState
  | .claim investmentId =>
    (s.portfolioData.find investmentId).map fun inv =>
      handleClaim s investmentId inv.claimableReturns
  | .resume => resumeClaim s

/-- Claims of one investment that never overlap: an investment is claimed only while no
call for it is waiting. -/
def stepSeq (s : DashboardState) : Event → Option DashboardState
  | .claim investmentId =>
    if s.waiting.any (·.investmentId = investmentId) then none else step s (.claim investmentId)
  | .resume => step s .resume

/-- Runs a sequence of events by `stepFn`, `none` if one of them is not enabled. -/
def run (stepFn : DashboardState → Event → Option DashboardState) (s : DashboardState) :
    List Event → Option DashboardState
  | [] => some s
  | e :: es => (stepFn s e).bind fun s' => run stepFn s' es

/-- The states steps by `stepFn` reach from the page as it mounts. -/
inductive Reachable (stepFn : DashboardState → Event → Option DashboardState) :
    DashboardState → Prop
  | init : Reachable stepFn DashboardState.init
  | next {s s' : DashboardState} (e : Event) : Reachable stepFn s → stepFn s e = some s' →
      Reachable stepFn s'

theorem Reachable.run {stepFn : DashboardState → Event → Option DashboardState}
    {s s' : DashboardState} (hs : Reachable stepFn s) :
    ∀ es : List Event, run stepFn s es = some s' → Reachable stepFn s'
  | [], h => Option.some.inj h ▸ hs
  | e :: es, h => by
    obtain ⟨s₁, h₁, h⟩ := Option.bind_eq_some.mp h
    exact (hs.next e h₁).run es h

theorem step_of_stepSeq {s s' : DashboardState} {e : Event} (h : stepSeq s e = some s') :
    step s e = some s' := by
  cases e with
  | claim investmentId =>
    simp only [stepSeq] at h
    split at h
    · exact absurd h (by simp)
    · exact h
  | resume => exact h

/-- Runs whose claims never overlap are runs of the page. -/
theorem Reachable.of_seq {s : DashboardState} (hs : Reachable stepSeq s) : Reachable step s := by
  induction hs with
  | init => exact .init
  | next e _ h ih => exact ih.next e (step_of_stepSeq h)

/-! ## What a claim takes from the investments -/

/-- `Σ claimableReturns` over some investments. -/
def claimableSum (investments : List Investment) : ℤ :=
  (investments.map (·.claimableReturns)).sum

/-- What the investments under `investmentId` hold. -/
def claimableOf (investments : List Investment) (investmentId : String) : ℤ :=
  claimableSum (investments.filter (·.id = investmentId))

@[simp] theorem claimableSum_cons (inv : Investment) (invs : List Investment) :
    claimableSum (inv :: invs) = inv.claimableReturns + claimableSum invs := by
  simp [claimableSum]

theorem claimableOf_cons (inv : Investment) (invs : List Investment) (investmentId : String) :
    claimableOf (inv :: invs) investmentId =
      (if inv.id = investmentId then inv.claimableReturns else 0) +
        claimableOf invs investmentId := by
  by_cases h : inv.id = investmentId <;> simp [claimableOf, List.filter_cons, h]

@[simp] theorem claimInvestment_id (investmentId : String) (inv : Investment) :
    (claimInvestment investmentId inv).id = inv.id := by
  unfold claimInvestment
  split <;> rfl

theorem map_id_claimInvestment (investmentId : String) (invs : List Investment) :
    (invs.map (claimInvestment investmentId)).map (·.id) = invs.map (·.id) := by
  simp [List.map_map, Function.comp_def]

/-- A claim takes from the total of the investments what the claimed ones held. -/
theorem claimableSum_map_claimInvestment (investmentId : String) :
    ∀ invs : List Investment, claimableSum (invs.map (claimInvestment investmentId)) =
      claimableSum invs - claimableOf invs investmentId
  | [] => rfl
  | inv :: invs => by
    have ih := claimableSum_map_claimInvestment investmentId invs
    by_cases h : inv.id = investmentId <;>
      simp only [List.map_cons, claimableSum_cons, claimableOf_cons, claimInvestment, h,
        if_true, if_false, ih] <;> omega

/-- After a claim the claimed investments hold nothing and the others what they held. -/
theorem claimableOf_map_claimInvestment (investmentId id : String) :
    ∀ invs : List Investment, claimableOf (invs.map (claimInvestment investmentId)) id =
      if id = investmentId then 0 else claimableOf invs id
  | [] => by simp [claimableOf, claimableSum]
  | inv :: invs => by
    have ih := claimableOf_map_claimInvestment investmentId id invs
    rw [List.map_cons, claimableOf_cons, claimableOf_cons, ih, claimInvestment_id]
    by_cases h : inv.id = investmentId <;> by_cases h' : inv.id = id <;>
      simp only [claimInvestment, h, h', if_true, if_false] <;> split <;> simp_all

theorem claimableOf_eq_zero {invs : List Investment} {id : String}
    (h : id ∉ invs.map (·.id)) : claimableOf invs id = 0 := by
  have : invs.filter (·.id = id) = [] :=
    List.filter_eq_nil_iff.mpr fun inv hinv hid =>
      h (List.mem_map.mpr ⟨inv, hinv, of_decide_eq_true hid⟩)
  simp [claimableOf, this, claimableSum]

/-- With distinct ids, what the investments under an id hold is what the one the table
shows holds. -/
theorem claimableOf_eq_of_find {id : String} {inv : Investment} :
    ∀ {invs : List Investment}, (invs.map (·.id)).Nodup →
      invs.find? (·.id = id) = some inv → claimableOf invs id = inv.claimableReturns
  | [], _, h => by simp at h
  | i :: invs, hnd, h => by
    rw [List.map_cons, List.nodup_cons] at hnd
    rw [claimableOf_cons]
    by_cases hi : i.id = id
    · simp only [List.find?_cons, hi, decide_True, Option.some.injEq] at h
      rw [if_pos hi, claimableOf_eq_zero (hi ▸ hnd.1), h, Int.add_zero]
    · simp only [List.find?_cons, hi, decide_False] at h
      rw [if_neg hi, claimableOf_eq_of_find hnd.2 h, Int.zero_add]

theorem claimableSum_nonneg :
    ∀ {invs : List Investment}, (∀ inv ∈ invs, 0 ≤ inv.claimableReturns) →
      0 ≤ claimableSum invs
  | [], _ => le_rfl
  | inv :: invs, h => by
    have hinv := h inv (List.mem_cons_self _ _)
    have hrest := claimableSum_nonneg fun i hi => h i (List.mem_cons_of_mem _ hi)
    rw [claimableSum_cons]
    omega

theorem claimableOf_nonneg {invs : List Investment}
    (h : ∀ inv ∈ invs, 0 ≤ inv.claimableReturns) (id : String) : 0 ≤ claimableOf invs id :=
  claimableSum_nonneg fun inv hinv => h inv (List.mem_of_mem_filter hinv)

/-! ## Every interleaving of claims -/

/-- What holds in every state of the page: ids stay distinct, no investment holds a
negative amount, the total is at most what the investments hold, and a waiting call's
amount is at least what its investment still holds. -/
structure ClaimsInv (s : DashboardState) : Prop where
  ids_nodup : (s.portfolioData.investments.map (·.id)).Nodup
  nonneg : ∀ inv ∈ s.portfolioData.investments, 0 ≤ inv.claimableReturns
  total_le : s.portfolioData.totalClaimableReturns ≤ claimableSum s.portfolioData.investments
  waiting_le : ∀ c ∈ s.waiting,
    claimableOf s.portfolioData.investments c.investmentId ≤ c.amount

section Claims

variable {s s' : DashboardState}

theorem ClaimsInv.init : ClaimsInv DashboardState.init where
  ids_nodup := by decide
  nonneg := by decide
  total_le := by decide
  waiting_le := fun _ h => absurd h (List.not_mem_nil _)

/-- A claim's step: it starts a call with what the investment holds. -/
theorem step_claim_eq {investmentId : String} (h : step s (.claim investmentId) = some s') :
    ∃ inv, s.portfolioData.find investmentId = some inv ∧
      s' = handleClaim s investmentId inv.claimableReturns := by
  simp only [step, Option.map_eq_some'] at h
  obtain ⟨inv, hinv, rfl⟩ := h
  exact ⟨inv, hinv, rfl⟩

/-- A resume's step: the oldest call's updater is applied. -/
theorem step_resume_eq (h : step s .resume = some s') :
    ∃ c rest, s.waiting = c :: rest ∧
      s' = ⟨claimUpdate c.investmentId c.amount s.portfolioData, rest⟩ := by
  simp only [step, resumeClaim] at h
  split at h
  · exact absurd h (by simp)
  · exact ⟨_, _, by assumption, (Option.some.inj h).symm⟩

theorem ClaimsInv.claim (hs : ClaimsInv s) {investmentId : String} {inv : Investment}
    (hinv : s.portfolioData.find investmentId = some inv) :
    ClaimsInv (handleClaim s investmentId inv.claimableReturns) := by
  refine ⟨hs.ids_nodup, hs.nonneg, hs.total_le, fun c hc => ?_⟩
  rcases List.mem_append.mp hc with hc | hc
  · exact hs.waiting_le c hc
  · rw [List.mem_singleton.mp hc]
    exact (claimableOf_eq_of_find hs.ids_nodup hinv).le

theorem ClaimsInv.resume (hs : ClaimsInv s) {c : PendingClaim} {rest : List PendingClaim}
    (hw : s.waiting = c :: rest) :
    ClaimsInv ⟨claimUpdate c.investmentId c.amount s.portfolioData, rest⟩ := by
  have hc := hs.waiting_le c (hw ▸ List.mem_cons_self _ _)
  refine ⟨?_, fun inv hinv => ?_, ?_, fun c' hc' => ?_⟩
  · simpa only [claimUpdate, map_id_claimInvestment] using hs.ids_nodup
  · obtain ⟨i, hi, rfl⟩ := List.mem_map.mp hinv
    unfold claimInvestment
    split
    · exact le_rfl
    · exact hs.nonneg i hi
  · simp only [claimUpdate, claimableSum_map_claimInvestment]
    have := hs.total_le
    omega
  · have hc'le := hs.waiting_le c' (hw ▸ List.mem_cons_of_mem _ hc')
    simp only [claimUpdate, claimableOf_map_claimInvestment]
    split
    · exact (claimableOf_nonneg hs.nonneg _).trans hc'le
    · exact hc'le

theorem ClaimsInv.step (hs : ClaimsInv s) {e : Event} (h : step s e = some s') :
    ClaimsInv s' := by
  cases e with
  | claim investmentId =>
    obtain ⟨inv, hinv, rfl⟩ := step_claim_eq h
    exact hs.claim hinv
  | resume =>
    obtain ⟨c, rest, hw, rfl⟩ := step_resume_eq h
    exact hs.resume hw

theorem Reachable.claimsInv (hs : Reachable step s) : ClaimsInv s := by
  induction hs with
  | init => exact ClaimsInv.init
  | next e _ h ih => exact ih.step h

/-- In every interleaving of claims, each passed what its investment held when it
started, the total the page shows is at most what its investments hold: a claim made
twice lowers the total twice, so the page can only under-report. -/
theorem claimable_total_never_exceeds_investments (hs : Reachable step s) :
    s.portfolioData.totalClaimableReturns ≤ claimableSum s.portfolioData.investments :=
  hs.claimsInv.total_le

end Claims

/-- Investment "1" claimed twice, the second time while the first call waits: the
portfolio is still `mockPortfolioData`, where it shows 800 claimable and `canClaim`. -/
def doubleClaimTrace : List Event := [.claim "1", .claim "1", .resume, .resume]

/-- The state `doubleClaimTrace` reaches. -/
def doubleClaimState : DashboardState :=
  (run step DashboardState.init doubleClaimTrace).getD DashboardState.init

theorem doubleClaimState_reachable : Reachable step doubleClaimState :=
  (Reachable.init : Reachable step _).run doubleClaimTrace rfl

/-- Both calls of `doubleClaimTrace` subtract 800: the total shows 1200 while the
investments hold 2000. -/
theorem double_claim_breaks_total :
    ¬ ∀ s, Reachable step s →
      s.portfolioData.totalClaimableReturns = claimableSum s.portfolioData.investments := by
  intro h
  have hdouble := h doubleClaimState doubleClaimState_reachable
  have htotal : doubleClaimState.portfolioData.totalClaimableReturns = 1200 := rfl
  have hsum : claimableSum doubleClaimState.portfolioData.investments = 2000 := rfl
  rw [htotal, hsum] at hdouble
  exact absurd hdouble (by decide)

theorem claimable_total_never_exceeds_investments_double :
    doubleClaimState.portfolioData.totalClaimableReturns ≤
      claimableSum doubleClaimState.portfolioData.investments :=
  claimable_total_never_exceeds_investments doubleClaimState_reachable

/-! ## Claims of one investment that never overlap -/

/-- What holds while claims of one investment never overlap: besides `ClaimsInv`, the
total matches the investments, each waiting call's amount is what its investment still
holds, and no two waiting calls are for one investment. -/
structure SeqClaimsInv (s : DashboardState) extends ClaimsInv s : Prop where
  total_eq : s.portfolioData.totalClaimableReturns = claimableSum s.portfolioData.investments
  waiting_eq : ∀ c ∈ s.waiting,
    claimableOf s.portfolioData.investments c.investmentId = c.amount
  waiting_nodup : (s.waiting.map (·.investmentId)).Nodup

section Sequential

variable {s s' : DashboardState}

theorem SeqClaimsInv.init : SeqClaimsInv DashboardState.init where
  toClaimsInv := ClaimsInv.init
  total_eq := rfl
  waiting_eq := fun _ h => absurd h (List.not_mem_nil _)
  waiting_nodup := List.nodup_nil

theorem SeqClaimsInv.claim (hs : SeqClaimsInv s) {investmentId : String} {inv : Investment}
    (hinv : s.portfolioData.find investmentId = some inv)
    (hidle : s.waiting.any (·.investmentId = investmentId) = false) :
    SeqClaimsInv (handleClaim s investmentId inv.claimableReturns) := by
  refine ⟨hs.toClaimsInv.claim hinv, hs.total_eq, fun c hc => ?_, ?_⟩
  · rcases List.mem_append.mp hc with hc | hc
    · exact hs.waiting_eq c hc
    · rw [List.mem_singleton.mp hc]
      exact claimableOf_eq_of_find hs.ids_nodup hinv
  · rw [handleClaim, List.map_append, List.nodup_append]
    refine ⟨hs.waiting_nodup, List.nodup_singleton _, fun x hx hx' => ?_⟩
    obtain ⟨c, hc, rfl⟩ := List.mem_map.mp hx
    rw [List.map_singleton, List.mem_singleton] at hx'
    exact List.any_eq_false.mp hidle c hc (decide_eq_true hx')

theorem SeqClaimsInv.resume (hs : SeqClaimsInv s) {c : PendingClaim}
    {rest : List PendingClaim} (hw : s.waiting = c :: rest) :
    SeqClaimsInv ⟨claimUpdate c.investmentId c.amount s.portfolioData, rest⟩ := by
  have hc := hs.waiting_eq c (hw ▸ List.mem_cons_self _ _)
  have hnd := hs.waiting_nodup
  rw [hw, List.map_cons, List.nodup_cons] at hnd
  refine ⟨hs.toClaimsInv.resume hw, ?_, fun c' hc' => ?_, hnd.2⟩
  · simp only [claimUpdate, claimableSum_map_claimInvestment, hs.total_eq, hc]
  · have hne : c'.investmentId ≠ c.investmentId := fun h =>
      hnd.1 (h ▸ List.mem_map_of_mem _ hc')
    simp only [claimUpdate, claimableOf_map_claimInvestment, if_neg hne]
    exact hs.waiting_eq c' (hw ▸ List.mem_cons_of_mem _ hc')

theorem SeqClaimsInv.step (hs : SeqClaimsInv s) {e : Event} (h : stepSeq s e = some s') :
    SeqClaimsInv s' := by
  cases e with
  | claim investmentId =>
    simp only [stepSeq] at h
    split at h
    · exact absurd h (by simp)
    · rename_i hidle
      obtain ⟨inv, hinv, rfl⟩ := step_claim_eq h
      exact hs.claim hinv (by simpa using hidle)
  | resume =>
    obtain ⟨c, rest, hw, rfl⟩ := step_resume_eq h
    exact hs.resume hw

theorem Reachable.seqClaimsInv (hs : Reachable stepSeq s) : SeqClaimsInv s := by
  induction hs with
  | init => exact SeqClaimsInv.init
  | next e _ h ih => exact ih.step h

/-- When claims of one investment never overlap, the total the page shows matches what
its investments hold in every state, in every interleaving of claims of different
investments. -/
theorem nonoverlapping_claims_keep_total (hs : Reachable stepSeq s) :
    s.portfolioData.totalClaimableReturns = claimableSum s.portfolioData.investments :=
  hs.seqClaimsInv.total_eq

/-- Investment "1" claimed, then claimed again once the first call is over, with a claim
of investment "4" still waiting. -/
def claimAgainTrace : List Event := [.claim "1", .resume, .claim "1", .resume, .claim "4"]

theorem nonoverlapping_claims_keep_total_again :
    ∃ s, Reachable stepSeq s ∧ s.portfolioData.totalClaimableReturns = 2000 ∧
      s.portfolioData.totalClaimableReturns = claimableSum s.portfolioData.investments :=
  ⟨_, (Reachable.init : Reachable stepSeq _).run claimAgainTrace rfl, rfl,
    nonoverlapping_claims_keep_total
      ((Reachable.init : Reachable stepSeq _).run claimAgainTrace rfl)⟩

end Sequential

end NovaFund.Dashboard

import NovaFund.Pipeline.Fetch

/-!
# The retry loop's bound

`fetchWithCache` runs its loop `for (let attempt = 0; attempt < 3; attempt++)`: a failed
attempt sleeps `500 * 2 ^ attempt` ms, a successful one writes the cache and returns, and
the loop throws once the third attempt has failed. Counted over the events of a run, each
activation therefore sees at most three of its fetcher invocations settle, at most one of
them succeed, and it throws only after exactly three failures, in every interleaving with
other calls, `invalidateCache` and the clock. So `fetchProjectData` returns `null` only
when one of its two records failed three times.

The counts are read off the activation itself: `Lookup.Counted` says how many failures and
successes its attempt counter and phase account for, and `RetryInv` ties these to the
events of the run so far.
-/

namespace NovaFund.Pipeline

variable {C D : Type}

/-- The event is the failure of the fetcher invocation that activation `side` of call `k`
awaits. -/
def Event.isReject (k : ℕ) (side : Side) : Event C D → Bool
  | .reject k' side' => decide (k' = k ∧ side' = side)
  | _ => false

/-- The event is the success of the fetcher invocation that activation `side` of call `k`
awaits. -/
def Event.isResolve (k : ℕ) (side : Side) : Event C D → Bool
  | .resolve k' side' _ => decide (k' = k ∧ side' = side)
  | _ => false

/-- An activation that has seen `rej` of its fetcher invocations fail and `res` succeed:
the attempt counter stays below 3, each attempt before the current one failed, the
current one failed too once the activation sleeps or has thrown, and only a returned
activation has a success, at most one. -/
def Lookup.Counted (l : Lookup C D) (rej res : ℕ) : Prop :=
  l.attempt < 3 ∧
    match l.phase with
    | .awaiting _ => rej = l.attempt ∧ res = 0
    | .sleeping _ => rej = l.attempt + 1 ∧ res = 0
    | .returned _ _ => rej = l.attempt ∧ res ≤ 1
    | .threw => rej = 3 ∧ res = 0

theorem Lookup.Counted.bound {l : Lookup C D} {rej res : ℕ} (h : l.Counted rej res) :
    rej + res ≤ 3 ∧ res ≤ 1 := by
  obtain ⟨hlt, h⟩ := h
  split at h <;> omega

theorem Lookup.Counted.threw {l : Lookup C D} {rej res : ℕ} (h : l.Counted rej res)
    (hthrew : l.phase = .threw) : rej = 3 := by
  obtain ⟨-, h⟩ := h
  rw [hthrew] at h
  exact h.1

section Transitions

variable {l : Lookup C D} {rej res : ℕ}

/-- The awaited fetcher invocation returned: the activation returns. -/
theorem Lookup.Counted.resolve (h : l.Counted rej res) {t0 : ℕ} (hp : l.phase = .awaiting t0)
    (d : D) (r : FetchResult C D) :
    ({ l with phase := .returned d r } : Lookup C D).Counted rej (res + 1) := by
  obtain ⟨hlt, h⟩ := h
  rw [hp] at h
  exact ⟨hlt, h.1, by omega⟩

/-- The awaited fetcher invocation failed: the activation sleeps. -/
theorem Lookup.Counted.reject (h : l.Counted rej res) {t0 : ℕ} (hp : l.phase = .awaiting t0)
    (wakeAt : ℕ) : ({ l with phase := .sleeping wakeAt } : Lookup C D).Counted (rej + 1) res := by
  obtain ⟨hlt, h⟩ := h
  rw [hp] at h
  exact ⟨hlt, congrArg (· + 1) h.1, h.2⟩

/-- The back-off ran out: the next attempt begins, or after the third the loop throws. -/
theorem Lookup.Counted.wake (h : l.Counted rej res) {wakeAt : ℕ}
    (hp : l.phase = .sleeping wakeAt) (t : ℕ) :
    (if l.attempt + 1 < 3 then
        ({ l with attempt := l.attempt + 1, phase := .awaiting t } : Lookup C D)
      else { l with phase := .threw }).Counted rej res := by
  obtain ⟨hlt, h⟩ := h
  rw [hp] at h
  split
  · exact ⟨‹_›, h⟩
  · exact ⟨hlt, by omega, h.2⟩

end Transitions

/-- A fresh activation, served from the cache or awaiting its first attempt, has seen no
fetcher invocation settle. -/
theorem startLookup_counted (s : State C D) (key : String) (target : Target C) :
    (startLookup s key target).Counted 0 0 := by
  have hphase : (startLookup s key target).phase = .awaiting s.tick ∨
      ∃ d r, (startLookup s key target).phase = .returned d r := by
    unfold startLookup
    split
    · split
      · exact .inr ⟨_, _, rfl⟩
      · exact .inl rfl
    · exact .inl rfl
  refine ⟨show 0 < 3 by decide, ?_⟩
  rcases hphase with h | ⟨d, r, h⟩ <;> rw [h]
  · exact ⟨rfl, rfl⟩
  · exact ⟨rfl, zero_le_one⟩

/-- After the events `hist`, no fetcher invocation of a call not yet begun has settled,
and every activation accounts for the settled invocations of its fetcher. -/
structure RetryInv (hist : List (Event C D)) (calls : List (Call C D)) : Prop where
  fresh : ∀ k side, calls.length ≤ k →
    hist.countP (Event.isReject k side) = 0 ∧ hist.countP (Event.isResolve k side) = 0
  counted : ∀ k (call : Call C D) side, calls[k]? = some call →
    (call.lookup side).Counted (hist.countP (Event.isReject k side))
      (hist.countP (Event.isResolve k side))

theorem RetryInv.init {now : ℕ} : RetryInv [] (State.init now : State C D).calls :=
  ⟨fun _ _ _ => ⟨rfl, rfl⟩, fun _ _ _ h => by simp [State.init] at h⟩

section Preservation

variable {hist : List (Event C D)} {calls : List (Call C D)}

theorem countP_concat_of_true {f : Event C D → Bool} {e : Event C D} (h : f e = true) :
    (hist ++ [e]).countP f = hist.countP f + 1 := by
  simp [h]

theorem countP_concat_of_false {f : Event C D → Bool} {e : Event C D} (h : f e = false) :
    (hist ++ [e]).countP f = hist.countP f := by
  simp [h]

/-- The event settles no fetcher invocation. -/
def Event.Silent (e : Event C D) : Prop :=
  ∀ k side, e.isReject k side = false ∧ e.isResolve k side = false

theorem RetryInv.silent (hs : RetryInv hist calls) {e : Event C D} (he : e.Silent) :
    RetryInv (hist ++ [e]) calls where
  fresh k side hk := by
    rw [countP_concat_of_false (he k side).1, countP_concat_of_false (he k side).2]
    exact hs.fresh k side hk
  counted k call side hk := by
    rw [countP_concat_of_false (he k side).1, countP_concat_of_false (he k side).2]
    exact hs.counted k call side hk

/-- A call begins: both of its activations are fresh. -/
theorem RetryInv.push (hs : RetryInv hist calls) {e : Event C D} (he : e.Silent)
    {c : Call C D} (hc : ∀ side, (c.lookup side).Counted 0 0) :
    RetryInv (hist ++ [e]) (calls ++ [c]) := by
  have hs' := hs.silent he
  refine ⟨fun k side hk => hs'.fresh k side (by simp at hk; omega), fun k call side hk => ?_⟩
  rcases lt_or_ge k calls.length with hlt | hge
  · rw [List.getElem?_append_left hlt] at hk
    exact hs'.counted k call side hk
  · have hk' : k ≤ calls.length ∧ c = call := by
      simpa [List.getElem?_append_right hge, List.getElem?_cons, Nat.sub_eq_zero_iff_le]
        using hk
    obtain ⟨rfl, rfl⟩ : k = calls.length ∧ c = call := ⟨le_antisymm hk'.1 hge, hk'.2⟩
    rw [(hs'.fresh _ side le_rfl).1, (hs'.fresh _ side le_rfl).2]
    exact hc side

/-- An event that settles nothing outside activation `side` of call `k`, which it
replaces by an activation that accounts for the new counts. -/
theorem RetryInv.set (hs : RetryInv hist calls) {k : ℕ} {call : Call C D} {side : Side}
    (hk : calls[k]? = some call) {e : Event C D}
    (he : ∀ k' side', (k' = k → side' ≠ side) →
      e.isReject k' side' = false ∧ e.isResolve k' side' = false)
    {l : Lookup C D} (hl : l.Counted ((hist ++ [e]).countP (Event.isReject k side))
      ((hist ++ [e]).countP (Event.isResolve k side))) :
    RetryInv (hist ++ [e]) (calls.set k (call.setLookup side l)) := by
  have hlt : k < calls.length := (List.getElem?_eq_some_iff.mp hk).1
  have same : ∀ k' side', (k' = k → side' ≠ side) →
      (hist ++ [e]).countP (Event.isReject k' side') = hist.countP (Event.isReject k' side') ∧
      (hist ++ [e]).countP (Event.isResolve k' side') = hist.countP (Event.isResolve k' side') :=
    fun k' side' hne =>
      ⟨countP_concat_of_false (he k' side' hne).1, countP_concat_of_false (he k' side' hne).2⟩
  refine ⟨fun k' side' hk' => ?_, fun k' call' side' hk' => ?_⟩
  · rw [List.length_set] at hk'
    rw [(same k' side' (by omega)).1, (same k' side' (by omega)).2]
    exact hs.fresh k' side' hk'
  · rw [List.getElem?_set] at hk'
    by_cases hkk : k = k'
    · subst hkk
      obtain rfl : call.setLookup side l = call' := by simpa [hlt] using hk'
      by_cases hside : side' = side
      · subst hside
        simpa using hl
      · rw [Call.lookup_setLookup_of_ne _ _ hside, (same k side' fun _ => hside).1,
          (same k side' fun _ => hside).2]
        exact hs.counted k call side' hk
    · rw [if_neg hkk] at hk'
      have hne : k' = k → side' ≠ side := fun h => absurd h.symm hkk
      rw [(same k' side' hne).1, (same k' side' hne).2]
      exact hs.counted k' call' side' hk'

/-- Every step keeps the counts: a fetch begins fresh activations, a settlement or a
timer changes only the activation it is for. -/
theorem RetryInv.step {F : ChainIdFormat C} {s s' : State C D} {e : Event C D}
    (hs : RetryInv hist s.calls) (h : step F s e = some s') : RetryInv (hist ++ [e]) s'.calls := by
  cases e with
  | fetch p c =>
    cases Option.some.inj h
    refine hs.push (fun _ _ => ?_) fun side => ?_
    · exact ⟨rfl, rfl⟩
    · cases side <;> exact startLookup_counted _ _ _
  | invalidate q =>
    cases Option.some.inj h
    exact hs.silent (e := .invalidate q) fun _ _ => ⟨rfl, rfl⟩
  | advance ms =>
    cases Option.some.inj h
    exact hs.silent (e := .advance ms) fun _ _ => ⟨rfl, rfl⟩
  | resolve k side d =>
    obtain ⟨call, t0, hk, hp, rfl⟩ := step_resolve_eq h
    refine hs.set hk (e := .resolve k side d) (fun k' side' hne => ⟨rfl, ?_⟩) ?_
    · exact decide_eq_false fun ⟨h1, h2⟩ => hne h1.symm h2.symm
    rw [countP_concat_of_false rfl, countP_concat_of_true (decide_eq_true ⟨rfl, rfl⟩)]
    exact (hs.counted k call side hk).resolve hp _ _
  | reject k side =>
    obtain ⟨call, t0, hk, hp, rfl⟩ := step_reject_eq h
    refine hs.set hk (e := .reject k side) (fun k' side' hne => ⟨?_, rfl⟩) ?_
    · exact decide_eq_false fun ⟨h1, h2⟩ => hne h1.symm h2.symm
    rw [countP_concat_of_true (decide_eq_true ⟨rfl, rfl⟩), countP_concat_of_false rfl]
    exact (hs.counted k call side hk).reject hp _
  | wake k side =>
    obtain ⟨call, w, hk, hp, rfl⟩ := step_wake_eq h
    refine hs.set hk (e := .wake k side) (fun _ _ _ => ⟨rfl, rfl⟩) ?_
    rw [countP_concat_of_false rfl, countP_concat_of_false rfl]
    exact (hs.counted k call side hk).wake hp _

theorem RetryInv.run {F : ChainIdFormat C} :
    ∀ {hist : List (Event C D)} {s s' : State C D} (es : List (Event C D)),
      RetryInv hist s.calls → run F s es = some s' → RetryInv (hist ++ es) s'.calls
  | _, _, _, [], hs, h => by
    cases Option.some.inj h
    simpa using hs
  | _, _, _, e :: es, hs, h => by
    obtain ⟨s₁, h₁, h⟩ := Option.bind_eq_some.mp h
    simpa using RetryInv.run es (hs.step h₁) h

end Preservation

/-! ## The bound -/

/-- A call whose result is `null` has an activation that threw. -/
theorem Call.threw_of_result_eq_none {call : Call C D} (h : call.result = some none) :
    ∃ side, (call.lookup side).phase = .threw := by
  unfold Call.result at h
  split at h <;> first | exact ⟨.onChain, ‹_›⟩ | exact ⟨.offChain, ‹_›⟩ | cases h

/-- In every run of the pipeline from a freshly loaded module, whatever the interleaving
of calls, invalidations, fetcher results, back-off timers and the clock, each of the two
`fetchWithCache` activations of call `k` sees at most three of its fetcher invocations
settle, at most one of them succeed; and when the call returns `null`, one of its
activations threw after exactly three of its fetcher invocations had failed. -/
theorem fetch_retries_at_most_three_times {F : ChainIdFormat C} {now : ℕ}
    {es : List (Event C D)} {s : State C D} (h : run F (State.init now) es = some s) (k : ℕ) :
    (∀ side, es.countP (Event.isReject k side) + es.countP (Event.isResolve k side) ≤ 3 ∧
        es.countP (Event.isResolve k side) ≤ 1) ∧
      ∀ call, s.calls[k]? = some call → call.result = some none →
        ∃ side, (call.lookup side).phase = .threw ∧ es.countP (Event.isReject k side) = 3 := by
  have hs : RetryInv es s.calls := by simpa using RetryInv.run es RetryInv.init h
  refine ⟨fun side => ?_, fun call hk hnull => ?_⟩
  · cases hk : s.calls[k]? with
    | none =>
      obtain ⟨h1, h2⟩ := hs.fresh k side (List.getElem?_eq_none_iff.mp hk)
      omega
    | some call => exact (hs.counted k call side hk).bound
  · obtain ⟨side, hthrew⟩ := Call.threw_of_result_eq_none hnull
    exact ⟨side, hthrew, (hs.counted k call side hk).threw hthrew⟩

/-- An outage of the on-chain API: the first call's on-chain fetcher fails three times,
with the back-offs of 500, 1000 and 2000 ms between, while its off-chain fetcher returns. -/
def outageTrace : List (Event ℕ ℕ) :=
  [.fetch "solar-grid" 1, .reject 0 .onChain, .advance 500, .wake 0 .onChain,
   .reject 0 .onChain, .advance 1000, .wake 0 .onChain, .reject 0 .onChain, .advance 2000,
   .wake 0 .onChain, .resolve 0 .offChain 8]

/-- The state `outageTrace` reaches. -/
def outageState : State ℕ ℕ :=
  (run decimalChainIds (State.init 0) outageTrace).getD (State.init 0)

/-- In `outageTrace` the call returns `null`: its on-chain activation threw after its
fetcher failed three times. -/
theorem fetch_retries_at_most_three_times_outage :
    ∃ call, outageState.calls[0]? = some call ∧ call.result = some none ∧
      ∃ side, (call.lookup side).phase = .threw ∧
        outageTrace.countP (Event.isReject 0 side) = 3 := by
  have hrun : run decimalChainIds (State.init 0) outageTrace = some outageState := rfl
  have hc : outageState.calls[0]? = some _ := rfl
  exact ⟨_, hc, rfl, (fetch_retries_at_most_three_times hrun 0).2 _ hc rfl⟩

end NovaFund.Pipeline

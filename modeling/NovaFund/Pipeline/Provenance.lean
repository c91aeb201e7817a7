import NovaFund.Pipeline.Fetch

/-!
# Where cached data comes from

An invariant of every reachable state of the pipeline (`Inv`): every cache entry, and every
value an activation returned, is data that the fetcher its key belongs to returned, and it
was returned after every earlier `invalidateCache` of that key (for an activation: every
one made before its call began).

So no call returns data fetched for another project or chain, and a call begun after
`invalidateCache(p)` returns data that arrived after it. That data need not have been
requested after it: a fetcher invocation in flight during the invalidation writes its
result into the cache when it returns, and a later call reads it.
-/

namespace NovaFund.Pipeline

variable {C D : Type} {F : ChainIdFormat C}

/-- A cache entry under `key` holds data that its key's fetcher returned, after every
invalidation covering the key. -/
structure EntryOk (F : ChainIdFormat C) (s : State C D) (k : String) (e : Entry C D) :
    Prop where
  key : e.src.target.key F = k
  fetched : e.src ∈ s.fetched
  data : e.src.data = e.data
  fresh : ∀ q t, (q, t) ∈ s.invalidations → Covers q k → t < e.src.completedAt

/-- An activation of `call` runs its side's fetcher under that fetcher's key; if it
returned, its data came from that fetcher after every invalidation covering the key that
was made before the call began. -/
structure LookupOk (F : ChainIdFormat C) (s : State C D) (call : Call C D) (side : Side) :
    Prop where
  target : (call.lookup side).target = call.target side
  key : (call.lookup side).key = (call.target side).key F
  returned : ∀ d r, (call.lookup side).phase = .returned d r →
    r ∈ s.fetched ∧ r.target = call.target side ∧ r.data = d ∧
      ∀ q t, (q, t) ∈ s.invalidations → Covers q ((call.target side).key F) →
        t < call.startedAt → t < r.completedAt

/-- The invariant of the pipeline. -/
structure Inv (F : ChainIdFormat C) (s : State C D) : Prop where
  invalidation_lt : ∀ q t, (q, t) ∈ s.invalidations → t < s.tick
  call_lt : ∀ call ∈ s.calls, call.startedAt < s.tick
  entry : ∀ k e, (k, e) ∈ s.cache → EntryOk F s k e
  lookup : ∀ call ∈ s.calls, ∀ side, LookupOk F s call side

@[simp] theorem Call.target_projectId (call : Call C D) (side : Side) :
    (call.target side).projectId = call.projectId := by
  cases side <;> rfl

section Preservation

variable {s : State C D} {k : ℕ} {call : Call C D} {side : Side}

theorem EntryOk.mono {s' : State C D} {key : String} {e : Entry C D} (h : EntryOk F s key e)
    (hf : s.fetched ⊆ s'.fetched) (hi : s'.invalidations = s.invalidations) :
    EntryOk F s' key e :=
  ⟨h.key, hf h.fetched, h.data, hi ▸ h.fresh⟩

theorem LookupOk.mono {s' : State C D} (h : LookupOk F s call side)
    (hf : s.fetched ⊆ s'.fetched) (hi : s'.invalidations = s.invalidations) :
    LookupOk F s' call side := by
  refine ⟨h.target, h.key, fun d r hr => ?_⟩
  obtain ⟨hmem, htarget, hdata, hfresh⟩ := h.returned d r hr
  exact ⟨hf hmem, htarget, hdata, hi ▸ hfresh⟩

theorem Inv.init (now : ℕ) : Inv F (State.init now : State C D) :=
  ⟨by simp [State.init], by simp [State.init], by simp [State.init], by simp [State.init]⟩

/-- The synchronous start of an activation: a cache hit returns an entry of its own key,
which by injectivity of the keys its own fetcher produced. -/
theorem Inv.startLookup (hs : Inv F s) (target : Target C) (side : Side) (call : Call C D)
    (htarget : call.target side = target)
    (hl : call.lookup side = startLookup s (target.key F) target) :
    LookupOk F s call side := by
  subst htarget
  refine ⟨by rw [hl]; rfl, by rw [hl]; rfl, fun d r hr => ?_⟩
  rw [hl] at hr
  simp only [NovaFund.Pipeline.startLookup] at hr
  split at hr
  · case h_1 hit hget =>
    split at hr
    · obtain ⟨rfl, rfl⟩ := Phase.returned.inj hr
      have he := hs.entry _ _ (mem_of_cacheGet hget)
      exact ⟨he.fetched, Target.key_injective F he.key, he.data,
        fun q t hq hc _ => he.fresh q t hq hc⟩
    · cases hr
  · cases hr

theorem Inv.fetch (hs : Inv F s) (p : String) (c : C) : Inv F (fetchStep F s p c) where
  invalidation_lt q t h := Nat.lt_succ_of_lt (hs.invalidation_lt q t h)
  call_lt call h := by
    rcases List.mem_append.mp h with h | h
    · exact Nat.lt_succ_of_lt (hs.call_lt call h)
    · rw [List.mem_singleton.mp h]
      exact Nat.lt_succ_self _
  entry k e h := (hs.entry k e h).mono (List.Subset.refl _) rfl
  lookup call h side := by
    refine LookupOk.mono (s := s) ?_ (List.Subset.refl _) rfl
    rcases List.mem_append.mp h with h | h
    · exact hs.lookup call h side
    · rw [List.mem_singleton.mp h]
      cases side
      · refine hs.startLookup (.onChain p c) .onChain _ ?_ ?_ <;> rfl
      · refine hs.startLookup (.offChain p) .offChain _ ?_ ?_ <;> rfl

theorem Inv.invalidate (hs : Inv F s) (q : String) : Inv F (invalidateStep s q) where
  invalidation_lt q' t h := by
    rcases List.mem_append.mp h with h | h
    · exact Nat.lt_succ_of_lt (hs.invalidation_lt q' t h)
    · rw [(Prod.mk.inj (List.mem_singleton.mp h)).2]
      exact Nat.lt_succ_self _
  call_lt call h := Nat.lt_succ_of_lt (hs.call_lt call h)
  entry k e h := by
    obtain ⟨h, hnc⟩ := mem_invalidateCache_iff_not_covers.mp h
    have he := hs.entry k e h
    refine ⟨he.key, he.fetched, he.data, fun q' t hq hc => ?_⟩
    rcases List.mem_append.mp hq with hq | hq
    · exact he.fresh q' t hq hc
    · obtain ⟨rfl, rfl⟩ := Prod.mk.inj (List.mem_singleton.mp hq)
      exact absurd hc hnc
  lookup call h side := by
    have hl := hs.lookup call h side
    refine ⟨hl.target, hl.key, fun d r hr => ?_⟩
    obtain ⟨hmem, htarget, hdata, hfresh⟩ := hl.returned d r hr
    refine ⟨hmem, htarget, hdata, fun q' t hq hc hlt => ?_⟩
    rcases List.mem_append.mp hq with hq | hq
    · exact hfresh q' t hq hc hlt
    · obtain ⟨rfl, rfl⟩ := Prod.mk.inj (List.mem_singleton.mp hq)
      exact absurd (hs.call_lt call h) (Nat.lt_asymm hlt)

/-- A call whose activation on `side` is replaced by one with the same fetcher and key. -/
theorem LookupOk.setLookup (hs : Inv F s) (hk : s.calls[k]? = some call) (s' : State C D)
    (l : Lookup C D) (hf : s.fetched ⊆ s'.fetched) (hi : s'.invalidations = s.invalidations)
    (ht : l.target = (call.lookup side).target) (hkey : l.key = (call.lookup side).key)
    (hl : ∀ d r, l.phase = .returned d r → LookupOk F s' (call.setLookup side l) side)
    (side' : Side) : LookupOk F s' (call.setLookup side l) side' := by
  have hc := hs.lookup call (List.getElem?_mem hk)
  by_cases hside : side' = side
  · subst hside
    have hc := hc side'
    refine ⟨?_, ?_, fun d r hr => ?_⟩
    · rw [Call.lookup_setLookup_self, ht, hc.target, Call.target_setLookup]
    · rw [Call.lookup_setLookup_self, hkey, hc.key, Call.target_setLookup]
    · rw [Call.lookup_setLookup_self] at hr
      exact (hl d r hr).returned d r (by rw [Call.lookup_setLookup_self, hr])
  · have hc := (hc side').mono hf hi
    refine ⟨?_, ?_, fun d r hr => ?_⟩
    · rw [Call.lookup_setLookup_of_ne _ _ hside, hc.target, Call.target_setLookup]
    · rw [Call.lookup_setLookup_of_ne _ _ hside, hc.key, Call.target_setLookup]
    · rw [Call.lookup_setLookup_of_ne _ _ hside] at hr
      simpa using hc.returned d r hr

/-- The activation replaced by `setLookup` keeps its fetcher and key and has not
returned. -/
theorem Inv.setLookup (hs : Inv F s) (hk : s.calls[k]? = some call) (l : Lookup C D)
    (ht : l.target = (call.lookup side).target) (hkey : l.key = (call.lookup side).key)
    (hl : ∀ d r, l.phase ≠ .returned d r) : Inv F (s.setLookup k call side l) where
  invalidation_lt q t h := Nat.lt_succ_of_lt (hs.invalidation_lt q t h)
  call_lt call' h := by
    rcases List.mem_or_eq_of_mem_set h with h | rfl
    · exact Nat.lt_succ_of_lt (hs.call_lt call' h)
    · simpa using Nat.lt_succ_of_lt (hs.call_lt call (List.getElem?_mem hk))
  entry k e h := (hs.entry k e h).mono (List.Subset.refl _) rfl
  lookup call' h side' := by
    rcases List.mem_or_eq_of_mem_set h with h | rfl
    · exact (hs.lookup call' h side').mono (List.Subset.refl _) rfl
    · exact LookupOk.setLookup hs hk (s.setLookup k call side l) l (List.Subset.refl _) rfl ht hkey
        (fun d r hr => absurd hr (hl d r)) side'

theorem Inv.reject (hs : Inv F s) (hk : s.calls[k]? = some call) :
    Inv F (rejectStep s k call side) :=
  hs.setLookup hk _ rfl rfl (fun _ _ h => by cases h)

theorem Inv.wake (hs : Inv F s) (hk : s.calls[k]? = some call) :
    Inv F (wakeStep s k call side) := by
  refine hs.setLookup hk _ ?_ ?_ ?_ <;> split <;> first | rfl | exact fun _ _ h => by cases h

/-- A returning fetcher invocation writes its data under its activation's key; both the new
entry and the activation's result are newer than every invalidation so far. -/
theorem Inv.resolve (hs : Inv F s) (hk : s.calls[k]? = some call) (t0 : ℕ) (d : D) :
    Inv F (resolveStep s k call side t0 d) := by
  have hc := hs.lookup call (List.getElem?_mem hk) side
  have hf : s.fetched ⊆ (resolveStep s k call side t0 d).fetched :=
    List.subset_append_left _ _
  have hnew : ∀ q t, (q, t) ∈ s.invalidations → t < s.tick := hs.invalidation_lt
  refine ⟨fun q t h => Nat.lt_succ_of_lt (hs.invalidation_lt q t h), fun call' h => ?_,
    fun k' e h => ?_, fun call' h side' => ?_⟩
  · rcases List.mem_or_eq_of_mem_set h with h | rfl
    · exact Nat.lt_succ_of_lt (hs.call_lt call' h)
    · simpa using Nat.lt_succ_of_lt (hs.call_lt call (List.getElem?_mem hk))
  · rcases mem_cacheSet h with h | h
    · exact (hs.entry k' e h).mono hf rfl
    · obtain ⟨rfl, rfl⟩ := Prod.mk.inj h
      refine ⟨?_, List.mem_append_right _ (List.mem_singleton_self _), rfl,
        fun q t hq _ => hnew q t hq⟩
      show (call.lookup side).target.key F = (call.lookup side).key
      rw [hc.target, hc.key]
  · rcases List.mem_or_eq_of_mem_set h with h | rfl
    · exact (hs.lookup call' h side').mono hf rfl
    · refine LookupOk.setLookup hs hk (resolveStep s k call side t0 d) _ hf rfl ?_ ?_
        (fun d' r hr => ?_) side'
      · rfl
      · rfl
      obtain ⟨rfl, rfl⟩ := Phase.returned.inj hr
      refine ⟨by simp [hc.target], by simp [hc.key], fun d' r' hr' => ?_⟩
      simp only [Call.lookup_setLookup_self, Phase.returned.injEq] at hr'
      obtain ⟨rfl, rfl⟩ := hr'
      exact ⟨List.mem_append_right _ (List.mem_singleton_self _), by simp [hc.target], rfl,
        fun q t hq _ _ => hnew q t hq⟩

theorem Inv.step (hs : Inv F s) {e : Event C D} {s' : State C D} (h : step F s e = some s') :
    Inv F s' := by
  rcases step_cases h with ⟨p, c, rfl⟩ | ⟨q, rfl⟩ | ⟨k, call, side, t0, d, hk, -, rfl⟩ |
    ⟨k, call, side, -, hk, -, rfl⟩ | ⟨k, call, side, -, hk, -, -, rfl⟩ | ⟨ms, rfl⟩
  · exact hs.fetch p c
  · exact hs.invalidate q
  · exact hs.resolve hk t0 d
  · exact hs.reject hk
  · exact hs.wake hk
  · exact ⟨hs.invalidation_lt, hs.call_lt,
      fun k e h => (hs.entry k e h).mono (List.Subset.refl _) rfl,
      fun call h side => (hs.lookup call h side).mono (List.Subset.refl _) rfl⟩

theorem Reachable.inv {s : State C D} (hs : Reachable F s) : Inv F s := by
  induction hs with
  | init now => exact Inv.init now
  | next e _ h ih => exact ih.step h

end Preservation

/-! ## No data crosses projects or chains -/

/-- Cache entries and returned values never cross projects or chains. An entry under the
on-chain key of a project and chain holds data that the on-chain fetcher of that project
and chain returned; an entry under the off-chain key of a project holds data that its
off-chain fetcher returned; every activation of a call that returned, returned data from
the call's own fetcher; and once `invalidateCache(p)` returns, no key built for `p` is
left, for any chain. -/
theorem cache_keeps_projects_and_chains_apart {s : State C D} (hs : Reachable F s) :
    (∀ p c e, (onChainKey F p c, e) ∈ s.cache →
      ∃ r ∈ s.fetched, r.target = .onChain p c ∧ r.data = e.data) ∧
    (∀ p e, (offChainKey p, e) ∈ s.cache →
      ∃ r ∈ s.fetched, r.target = .offChain p ∧ r.data = e.data) ∧
    (∀ call ∈ s.calls, ∀ side d r, (call.lookup side).phase = .returned d r →
      r ∈ s.fetched ∧ r.target = call.target side ∧ r.data = d) ∧
    (∀ p s', step F s (.invalidate p) = some s' →
      ∀ e, (offChainKey p, e) ∉ s'.cache ∧ ∀ c, (onChainKey F p c, e) ∉ s'.cache) := by
  have hi := hs.inv
  refine ⟨fun p c e h => ?_, fun p e h => ?_, fun call hc side d r hr => ?_,
    fun p s' h e => ?_⟩
  · have he := hi.entry _ e h
    exact ⟨e.src, he.fetched, Target.key_injective F he.key, he.data⟩
  · have he := hi.entry _ e h
    exact ⟨e.src, he.fetched, Target.key_injective F he.key, he.data⟩
  · obtain ⟨hm, ht, hd, -⟩ := (hi.lookup call hc side).returned d r hr
    exact ⟨hm, ht, hd⟩
  · cases Option.some.inj h
    exact ⟨fun hm => (mem_invalidateCache_iff_not_covers.mp hm).2
        (Target.covers_key F (.offChain p)),
      fun c hm => (mem_invalidateCache_iff_not_covers.mp hm).2
        (Target.covers_key F (.onChain p c))⟩

/-! ## Invalidation -/

/-- A call begun after `invalidateCache(p)` only returns data that arrived after that
invalidation: each of its activations that returned, returned the data its own fetcher
returned after the invalidation. The fetcher may have been called before it. -/
theorem fetch_after_invalidation_returns_data_completed_after_it {s : State C D}
    (hs : Reachable F s) :
    ∀ call ∈ s.calls, ∀ t, (call.projectId, t) ∈ s.invalidations → t < call.startedAt →
      ∀ side d r, (call.lookup side).phase = .returned d r →
        r ∈ s.fetched ∧ r.target = call.target side ∧ r.data = d ∧ t < r.completedAt := by
  intro call hc t ht hlt side d r hr
  obtain ⟨hm, htarget, hdata, hfresh⟩ := (hs.inv.lookup call hc side).returned d r hr
  have hcov := Target.covers_key F (call.target side)
  rw [Call.target_projectId] at hcov
  exact ⟨hm, htarget, hdata, hfresh _ t ht hcov hlt⟩

/-- Two polls of one project: the first call's fetchers are in flight when the next poll
invalidates the project; they return, writing the cache, and the next poll's call reads
what they wrote. -/
def staleTrace : List (Event ℕ ℕ) :=
  [.fetch "solar-grid" 1, .invalidate "solar-grid", .resolve 0 .onChain 7,
   .resolve 0 .offChain 8, .fetch "solar-grid" 1]

/-- The state `staleTrace` reaches. -/
def staleState : State ℕ ℕ :=
  (run decimalChainIds (State.init 0) staleTrace).getD (State.init 0)

theorem staleState_reachable : Reachable decimalChainIds staleState :=
  (Reachable.init 0).run staleTrace rfl

/-- The second call of `staleTrace` begins after the invalidation and returns data from
fetcher invocations called before it. -/
theorem fetch_after_invalidation_returns_stale_data :
    ¬ ∀ s : State ℕ ℕ, Reachable decimalChainIds s →
      ∀ call ∈ s.calls, ∀ t, (call.projectId, t) ∈ s.invalidations →
        t < call.startedAt → ∀ a ra b rb, call.onChain.phase = .returned a ra →
          call.offChain.phase = .returned b rb → t < ra.startedAt ∧ t < rb.startedAt := by
  intro h
  have hfresh := h staleState staleState_reachable _ (List.getElem?_mem (n := 1) rfl) 1
    (by decide) (by decide) 7 _ 8 _ rfl rfl
  exact absurd hfresh.1 (by decide)

/-- In `staleTrace`, the second call's on-chain data, 7, was produced by an invocation
called before the invalidation, at tick 0, that returned after it, at tick 2. -/
theorem fetch_after_invalidation_returns_data_completed_after_it_stale :
    ∃ call ∈ staleState.calls, ∃ r, call.startedAt = 4 ∧
      call.onChain.phase = .returned 7 r ∧ r.startedAt = 0 ∧ r.data = 7 ∧
        1 < r.completedAt := by
  have hc : staleState.calls[1]? = some _ := rfl
  obtain ⟨-, -, hd, hlt⟩ := fetch_after_invalidation_returns_data_completed_after_it
    staleState_reachable _ (List.getElem?_mem hc) 1 (by decide) (by decide) .onChain 7 _ rfl
  exact ⟨_, List.getElem?_mem hc, _, rfl, rfl, rfl, hd, hlt⟩

/-- In `staleTrace`, the entry under `on:solar-grid:1` holds what the on-chain fetcher of
that project and chain returned. -/
theorem cache_keeps_projects_and_chains_apart_stale :
    ∃ e, (onChainKey decimalChainIds "solar-grid" 1, e) ∈ staleState.cache ∧
      ∃ r ∈ staleState.fetched, r.target = .onChain "solar-grid" 1 ∧ r.data = e.data := by
  have hm : (onChainKey decimalChainIds "solar-grid" 1, _) ∈ staleState.cache :=
    List.mem_cons_self _ _
  exact ⟨_, hm, (cache_keeps_projects_and_chains_apart staleState_reachable).1 _ _ _ hm⟩

end NovaFund.Pipeline

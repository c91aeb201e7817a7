import NovaFund.Pipeline.Cache

/-!
# Concurrent `fetchProjectData` calls

`fetchProjectData(projectId, chainId)` starts two `fetchWithCache` activations, one per
record, and awaits both with `Promise.allSettled`. Each activation runs synchronously up to
its first `await`: it reads `_cache`, returns a live entry at once, and otherwise calls its
fetcher. The rest happens in later turns of the event loop, in any interleaving with other
calls and with `invalidateCache`: a fetcher invocation returns and the activation writes
the cache and returns, or it fails and the activation sleeps `500 * 2 ^ attempt` ms before
its next attempt, throwing after the third (`risk-engine.ts`, "Data Pipeline").

The state is the cache, the clock `Date.now()` and the calls begun so far. Ghost state
records what the environment did: a logical clock `tick` counting the program's steps,
the results fetcher invocations returned, and the `invalidateCache` calls made. The
environment chooses the interleaving, so `step` is partial: an event a call is not waiting
for is not enabled.
-/

namespace NovaFund.Pipeline

variable {C D : Type}

/-- `5 * 60_000`, the time to live of both kinds of cache entry, in milliseconds. -/
def CACHE_TTL : ℕ := 5 * 60000

/-- Where one `fetchWithCache` activation stands. -/
inductive Phase (C D : Type)
  /-- awaiting the fetcher invocation of the current attempt, called at tick `startedAt` -/
  | awaiting (startedAt : ℕ)
  /-- awaiting the back-off `setTimeout` of a failed attempt, due at time `wakeAt` -/
  | sleeping (wakeAt : ℕ)
  /-- returned `data`, which the fetcher invocation `src` produced -/
  | returned (data : D) (src : FetchResult C D)
  /-- threw the last attempt's error -/
  | threw

/-- One `fetchWithCache(key, ttlMs, fetcher)` activation. `target` names the fetcher
closure, which captures the project and chain ids. -/
structure Lookup (C D : Type) where
  key : String
  target : Target C
  attempt : ℕ
  phase : Phase C D

/-- The two activations of a call, in the order of `Promise.allSettled`'s array. -/
inductive Side
  | onChain | offChain
  deriving DecidableEq

/-- One `fetchProjectData(projectId, chainId)` call, begun at tick `startedAt`. -/
structure Call (C D : Type) where
  projectId : String
  chainId : C
  startedAt : ℕ
  onChain : Lookup C D
  offChain : Lookup C D

/-- The activation of a call on one side. -/
def Call.lookup (call : Call C D) : Side → Lookup C D
  | .onChain => call.onChain
  | .offChain => call.offChain

/-- A call with the activation on one side replaced. -/
def Call.setLookup (call : Call C D) : Side → Lookup C D → Call C D
  | .onChain, l => { call with onChain := l }
  | .offChain, l => { call with offChain := l }

/-- The fetcher a call's activation on one side runs. -/
def Call.target (call : Call C D) : Side → Target C
  | .onChain => .onChain call.projectId call.chainId
  | .offChain => .offChain call.projectId

/-- What a call returns once both activations have settled: `{ onChain, offChain }` when
both returned, `null` when either threw; `none` while one is pending. -/
def Call.result (call : Call C D) : Option (Option (D × D)) :=
  match call.onChain.phase, call.offChain.phase with
  | .returned a _, .returned b _ => some (some (a, b))
  | .returned _ _, .threw | .threw, .returned _ _ | .threw, .threw => some none
  | _, _ => none

/-- The pipeline's state. `tick`, `fetched` and `invalidations` are ghost state. -/
structure State (C D : Type) where
  /-- `Date.now()`. -/
  now : ℕ
  cache : Cache C D
  /-- The `fetchProjectData` calls begun so far, by the order they began in. -/
  calls : List (Call C D)
  /-- Counts the program's steps. -/
  tick : ℕ
  /-- Every result a fetcher invocation returned. -/
  fetched : List (FetchResult C D)
  /-- Every `invalidateCache(projectId)` call, with its tick. -/
  invalidations : List (String × ℕ)

/-- The module as loaded at time `now`: `_cache` is empty. -/
def State.init (now : ℕ) : State C D := ⟨now, [], [], 0, [], []⟩

/-- What can happen next: a call begins, `invalidateCache` runs, the fetcher invocation an
activation awaits returns data or fails, a back-off timer fires, or time passes. -/
inductive Event (C D : Type)
  | fetch (projectId : String) (chainId : C)
  | invalidate (projectId : String)
  | resolve (call : ℕ) (side : Side) (data : D)
  | reject (call : ℕ) (side : Side)
  | wake (call : ℕ) (side : Side)
  | advance (ms : ℕ)

/-- The synchronous start of `fetchWithCache(key, ttlMs, fetcher)`: a live entry is
returned at once; otherwise attempt 0 calls the fetcher. -/
def startLookup (s : State C D) (key : String) (target : Target C) : Lookup C D where
  key := key
  target := target
  attempt := 0
  phase :=
    match cacheGet key s.cache with
    | some hit => if s.now < hit.expiresAt then .returned hit.data hit.src else .awaiting s.tick
    | none => .awaiting s.tick

/-- The synchronous part of `fetchProjectData(projectId, chainId)`: both activations start,
the on-chain one first. Neither writes the cache before its first `await`. -/
def fetchStep (F : ChainIdFormat C) (s : State C D) (p : String) (c : C) : State C D :=
  { s with
    calls := s.calls ++ [⟨p, c, s.tick, startLookup s (onChainKey F p c) (.onChain p c),
      startLookup s (offChainKey p) (.offChain p)⟩]
    tick := s.tick + 1 }

/-- `invalidateCache(projectId)`, which runs to completion in one step. -/
def invalidateStep (s : State C D) (q : String) : State C D :=
  { s with
    cache := invalidateCache q s.cache
    tick := s.tick + 1
    invalidations := s.invalidations ++ [(q, s.tick)] }

/-- Replace one activation of call `k`, advancing the tick. -/
def State.setLookup (s : State C D) (k : ℕ) (call : Call C D) (side : Side)
    (l : Lookup C D) : State C D :=
  { s with calls := s.calls.set k (call.setLookup side l), tick := s.tick + 1 }

/-- The continuation of `await fetcher()` when the invocation called at tick `t0` returned
`data`: `_cache.set(key, { data, expiresAt: Date.now() + ttlMs })`, then `return data`. -/
def resolveStep (s : State C D) (k : ℕ) (call : Call C D) (side : Side) (t0 : ℕ) (d : D) :
    State C D :=
  let l := call.lookup side
  let r : FetchResult C D := ⟨l.target, t0, s.tick, d⟩
  { s.setLookup k call side { l with phase := .returned d r } with
    cache := cacheSet l.key ⟨d, s.now + CACHE_TTL, r⟩ s.cache
    fetched := s.fetched ++ [r] }

/-- The `catch` of a failed attempt: wait `500 * Math.pow(2, attempt)` ms. -/
def rejectStep (s : State C D) (k : ℕ) (call : Call C D) (side : Side) : State C D :=
  let l := call.lookup side
  s.setLookup k call side { l with phase := .sleeping (s.now + 500 * 2 ^ l.attempt) }

/-- The back-off timer fired: the next attempt calls the fetcher again, or, after the
third attempt, the loop ends and the activation throws. -/
def wakeStep (s : State C D) (k : ℕ) (call : Call C D) (side : Side) : State C D :=
  let l := call.lookup side
  s.setLookup k call side
    (if l.attempt + 1 < 3 then { l with attempt := l.attempt + 1, phase := .awaiting s.tick }
     else { l with phase := .threw })

/-- One step of the pipeline, `none` when the event is not enabled. -/
def step (F : ChainIdFormat C) (s : State C D) : Event C D → Option (State C D)
  | .fetch p c => some (fetchStep F s p c)
  | .invalidate q => some (invalidateStep s q)
  | .resolve k side d =>
    match s.calls[k]? with
    | some call =>
      match (call.lookup side).phase with
      | .awaiting t0 => some (resolveStep s k call side t0 d)
      | _ => none
    | none => none
  | .reject k side =>
    match s.calls[k]? with
    | some call =>
      match (call.lookup side).phase with
      | .awaiting _ => some (rejectStep s k call side)
      | _ => none
    | none => none
  | .wake k side =>
    match s.calls[k]? with
    | some call =>
      match (call.lookup side).phase with
      | .sleeping wakeAt => if wakeAt ≤ s.now then some (wakeStep s k call side) else none
      | _ => none
    | none => none
  | .advance ms => some { s with now := s.now + ms }

/-- Runs a sequence of events, `none` if one of them is not enabled. -/
def run (F : ChainIdFormat C) (s : State C D) : List (Event C D) → Option (State C D)
  | [] => some s
  | e :: es => (step F s e).bind (fun s' => run F s' es)

/-- The states some interleaving reaches from a freshly loaded module. -/
inductive Reachable (F : ChainIdFormat C) : State C D → Prop
  | init (now : ℕ) : Reachable F (State.init now)
  | next {s s' : State C D} (e : Event C D) : Reachable F s → step F s e = some s' →
      Reachable F s'

theorem Reachable.run {F : ChainIdFormat C} {s s' : State C D} (hs : Reachable F s) :
    ∀ es : List (Event C D), run F s es = some s' → Reachable F s'
  | [], h => Option.some.inj h ▸ hs
  | e :: es, h => by
    obtain ⟨s₁, h₁, h⟩ := Option.bind_eq_some.mp h
    exact (hs.next e h₁).run es h

/-! ## What one step can do -/

section Steps

variable {F : ChainIdFormat C} {s s' : State C D}

@[simp] theorem Call.lookup_setLookup_self (call : Call C D) (side : Side) (l : Lookup C D) :
    (call.setLookup side l).lookup side = l := by
  cases side <;> rfl

theorem Call.lookup_setLookup_of_ne (call : Call C D) {side side' : Side} (l : Lookup C D)
    (h : side' ≠ side) : (call.setLookup side l).lookup side' = call.lookup side' := by
  cases side <;> cases side' <;> first | rfl | exact absurd rfl h

@[simp] theorem Call.setLookup_projectId (call : Call C D) (side : Side) (l : Lookup C D) :
    (call.setLookup side l).projectId = call.projectId := by
  cases side <;> rfl

@[simp] theorem Call.setLookup_chainId (call : Call C D) (side : Side) (l : Lookup C D) :
    (call.setLookup side l).chainId = call.chainId := by
  cases side <;> rfl

@[simp] theorem Call.setLookup_startedAt (call : Call C D) (side : Side) (l : Lookup C D) :
    (call.setLookup side l).startedAt = call.startedAt := by
  cases side <;> rfl

@[simp] theorem Call.target_setLookup (call : Call C D) (side side' : Side) (l : Lookup C D) :
    (call.setLookup side l).target side' = call.target side' := by
  cases side <;> rfl

@[simp] theorem State.setLookup_cache (k : ℕ) (call : Call C D) (side : Side)
    (l : Lookup C D) : (s.setLookup k call side l).cache = s.cache := rfl

@[simp] theorem State.setLookup_tick (k : ℕ) (call : Call C D) (side : Side)
    (l : Lookup C D) : (s.setLookup k call side l).tick = s.tick + 1 := rfl

@[simp] theorem State.setLookup_now (k : ℕ) (call : Call C D) (side : Side)
    (l : Lookup C D) : (s.setLookup k call side l).now = s.now := rfl

@[simp] theorem State.setLookup_fetched (k : ℕ) (call : Call C D) (side : Side)
    (l : Lookup C D) : (s.setLookup k call side l).fetched = s.fetched := rfl

@[simp] theorem State.setLookup_invalidations (k : ℕ) (call : Call C D) (side : Side)
    (l : Lookup C D) : (s.setLookup k call side l).invalidations = s.invalidations := rfl

@[simp] theorem State.setLookup_calls (k : ℕ) (call : Call C D) (side : Side)
    (l : Lookup C D) :
    (s.setLookup k call side l).calls = s.calls.set k (call.setLookup side l) := rfl

/-- Everything a step can do, one disjunct per event. -/
theorem step_cases (h : step F s e = some s') :
    (∃ p c, s' = fetchStep F s p c) ∨
    (∃ q, s' = invalidateStep s q) ∨
    (∃ k call side t0 d, s.calls[k]? = some call ∧ (call.lookup side).phase = .awaiting t0 ∧
      s' = resolveStep s k call side t0 d) ∨
    (∃ k call side t0, s.calls[k]? = some call ∧ (call.lookup side).phase = .awaiting t0 ∧
      s' = rejectStep s k call side) ∨
    (∃ k call side wakeAt, s.calls[k]? = some call ∧
      (call.lookup side).phase = .sleeping wakeAt ∧ wakeAt ≤ s.now ∧
      s' = wakeStep s k call side) ∨
    (∃ ms, s' = { s with now := s.now + ms }) := by
  cases e with
  | fetch p c => exact .inl ⟨p, c, (Option.some.inj h).symm⟩
  | invalidate q => exact .inr (.inl ⟨q, (Option.some.inj h).symm⟩)
  | resolve k side d =>
    simp only [step] at h
    split at h
    · case h_1 call hk =>
      split at h
      · case h_1 t0 ht0 =>
        exact .inr (.inr (.inl ⟨k, call, side, t0, d, hk, ht0, (Option.some.inj h).symm⟩))
      · cases h
    · cases h
  | reject k side =>
    simp only [step] at h
    split at h
    · case h_1 call hk =>
      split at h
      · case h_1 t0 ht0 =>
        exact .inr (.inr (.inr (.inl ⟨k, call, side, t0, hk, ht0, (Option.some.inj h).symm⟩)))
      · cases h
    · cases h
  | wake k side =>
    simp only [step] at h
    split at h
    · case h_1 call hk =>
      split at h
      · case h_1 w hw =>
        split at h
        · exact .inr (.inr (.inr (.inr
            (.inl ⟨k, call, side, w, hk, hw, ‹_›, (Option.some.inj h).symm⟩))))
        · cases h
      · cases h
    · cases h
  | advance ms => exact .inr (.inr (.inr (.inr (.inr ⟨ms, (Option.some.inj h).symm⟩))))

variable {k : ℕ} {side : Side}

/-- The events a call's activation waits for, one inversion lemma each. -/
theorem step_resolve_eq {d : D} (h : step F s (.resolve k side d) = some s') :
    ∃ call t0, s.calls[k]? = some call ∧ (call.lookup side).phase = .awaiting t0 ∧
      s' = resolveStep s k call side t0 d := by
  simp only [step] at h
  split at h
  · split at h
    · exact ⟨_, _, ‹_›, ‹_›, (Option.some.inj h).symm⟩
    · cases h
  · cases h

theorem step_reject_eq (h : step F s (.reject k side) = some s') :
    ∃ call t0, s.calls[k]? = some call ∧ (call.lookup side).phase = .awaiting t0 ∧
      s' = rejectStep s k call side := by
  simp only [step] at h
  split at h
  · split at h
    · exact ⟨_, _, ‹_›, ‹_›, (Option.some.inj h).symm⟩
    · cases h
  · cases h

theorem step_wake_eq (h : step F s (.wake k side) = some s') :
    ∃ call wakeAt, s.calls[k]? = some call ∧ (call.lookup side).phase = .sleeping wakeAt ∧
      s' = wakeStep s k call side := by
  simp only [step] at h
  split at h
  · split at h
    · split at h
      · exact ⟨_, _, ‹_›, ‹_›, (Option.some.inj h).symm⟩
      · cases h
    · cases h
  · cases h

end Steps

end NovaFund.Pipeline

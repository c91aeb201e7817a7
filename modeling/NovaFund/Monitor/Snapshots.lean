import NovaFund.Monitor.Session

/-!
# Snapshot buffers, trends and stopped monitors

Polls of one session may overlap, but each continuation runs to its end in one turn of the
event loop, so pushes onto a session happen one after another. Every session's buffer
holds the last 100 snapshots pushed onto it, in order, and each snapshot's delta is taken
from the one pushed just before it (`Reachable.bufferOk`); a handler that throws changes
nothing here, as the snapshot is pushed before any handler is called. `getRecentSnapshots`
returns the last `limit` of the snapshots ever pushed onto the session for every positive
`limit`, but `slice(-0)` is `slice(0)`, so a limit of 0 returns them all. The buffer's bound never changes a trend: `detectTrend` looks back
five snapshots at most, so each snapshot's trend is that of every snapshot pushed onto the
session before it.

A poll's continuation uses the session object it read before its `await`, so a poll in
flight when `stopMonitoring` runs still pushes a snapshot onto the stopped session and
calls its handlers.
-/

namespace NovaFund.Monitor

open NovaFund.Risk (RiskLevel)

/-! ## Buffers -/

/-- Each snapshot's delta is its score minus the score of the one pushed just before it,
and the first one's is 0. -/
def DeltasChain (xs : List MonitoringSnapshot) : Prop :=
  (∀ x ∈ xs.head?, x.deltaFromPrevious = 0) ∧
    xs.Chain' (fun a b => b.deltaFromPrevious = b.riskScore - a.riskScore)

/-- A session's buffer holds the last 100 snapshots pushed onto it, whose deltas chain. -/
structure MonitorSession.BufferOk (ss : MonitorSession) : Prop where
  snapshots_eq : ss.snapshots = ss.pushed.drop (ss.pushed.length - 100)
  deltas : DeltasChain ss.pushed

theorem MonitorSession.BufferOk.congr {x y : MonitorSession} (h : y.BufferOk)
    (hs : x.snapshots = y.snapshots) (hp : x.pushed = y.pushed) : x.BufferOk := by
  exact ⟨by rw [hs, hp]; exact h.1, hp ▸ h.2⟩

/-- `push` followed by `shift` beyond `n` elements keeps the last `n` elements pushed. -/
theorem push_shift_drop {α : Type} (n : ℕ) (P : List α) (x : α) :
    (if n < (P.drop (P.length - n) ++ [x]).length then (P.drop (P.length - n) ++ [x]).tail
      else P.drop (P.length - n) ++ [x]) = (P ++ [x]).drop ((P ++ [x]).length - n) := by
  simp only [List.length_append, List.length_drop, List.length_singleton]
  split
  · case isTrue hn =>
    rw [← List.drop_one, ← List.drop_append_of_le_length (Nat.sub_le _ _), List.drop_drop]
    congr 1
    omega
  · case isFalse hn =>
    rw [show P.length - n = 0 by omega, show P.length + 1 - n = 0 by omega]
    rfl

theorem DeltasChain.push {P : List MonitoringSnapshot} (h : DeltasChain P)
    (x : MonitoringSnapshot)
    (hx : x.deltaFromPrevious = x.riskScore - (P.getLast?.map (·.riskScore)).getD x.riskScore) :
    DeltasChain (P ++ [x]) := by
  refine ⟨fun a ha => ?_, List.chain'_append.mpr ⟨h.2, List.chain'_singleton x, ?_⟩⟩
  · cases P with
    | nil =>
      obtain rfl : a = x := by simpa using ha.symm
      simpa using hx
    | cons b P => exact h.1 a (by simpa using ha)
  · intro a ha b hb
    obtain rfl : b = x := by simpa using hb.symm
    simpa [Option.mem_def.mp ha] using hx

/-- A recorded assessment keeps a session's buffer in order. -/
theorem MonitorSession.BufferOk.record {ss : MonitorSession} (h : ss.BufferOk) (p : String)
    (now : ℕ) (overall : ℤ) (level : RiskLevel) :
    (recordAssessment ss p now overall level).1.BufferOk := by
  obtain ⟨hS, hD⟩ := h
  have hlast : ss.snapshots.getLast? = ss.pushed.getLast? := by
    rw [hS, List.getLast?_drop]
    split
    · rw [List.eq_nil_of_length_eq_zero (by omega : ss.pushed.length = 0)]
      rfl
    · rfl
  refine ⟨?_, hD.push _ ?_⟩
  · simp only [recordAssessment]
    rw [hS]
    exact push_shift_drop 100 ss.pushed _
  · show overall - _ = overall - _
    rw [hlast]

/-! ## What a step does to the sessions -/

/-- A member of `l.modify f n` is a member of `l`, or `f` of the element at `n`. -/
theorem mem_modify_at {α : Type} {f : α → α} {n : ℕ} {l : List α} {x : α}
    (h : x ∈ l.modify f n) : x ∈ l ∨ ∃ y, l[n]? = some y ∧ x = f y := by
  obtain ⟨m, hm⟩ := List.mem_iff_getElem?.mp h
  rw [List.getElem?_modify] at hm
  obtain ⟨y, hy, hxy⟩ : ∃ y, l[m]? = some y ∧ (if n = m then f y else y) = x := by
    simpa using hm
  split_ifs at hxy with hnm
  · exact .inr ⟨y, hnm ▸ hy, hxy.symm⟩
  · exact .inl (hxy ▸ List.getElem?_mem hy)

theorem mem_modify {α : Type} {f : α → α} {n : ℕ} {l : List α} {x : α}
    (h : x ∈ l.modify f n) : x ∈ l ∨ ∃ y ∈ l, x = f y :=
  (mem_modify_at h).imp_right fun ⟨y, hy, hx⟩ => ⟨y, List.getElem?_mem hy, hx⟩

@[simp] theorem pollStart_heap (s : MonitorState) (p : String) :
    (pollStart s p).heap = s.heap := by
  unfold pollStart
  split <;> rfl

/-- Changing a session without touching its buffer. -/
theorem mem_updateCurrent_heap {s : MonitorState} {p : String}
    {f : MonitorSession → MonitorSession} {x : MonitorSession}
    (h : x ∈ (s.updateCurrent p f).heap) : x ∈ s.heap ∨ ∃ y ∈ s.heap, x = f y := by
  unfold MonitorState.updateCurrent at h
  split at h
  · exact mem_modify h
  · exact .inl h

/-- A session after a step: one from before with the same buffer, a new empty one, or one
from before that recorded an assessment. -/
def HeapSucc (heap : List MonitorSession) (x : MonitorSession) : Prop :=
  (∃ y ∈ heap, x.snapshots = y.snapshots ∧ x.pushed = y.pushed) ∨
    (x.snapshots = [] ∧ x.pushed = []) ∨
    ∃ y ∈ heap, ∃ p now overall level, x = (recordAssessment y p now overall level).1

/-- A resumed poll either records the assessment on the session it read or changes no
session. -/
theorem finishPoll_heapSucc {s : MonitorState} {k : ℕ} {poll : Poll}
    {r : Option (ℤ × RiskLevel)} {x : MonitorSession} (hx : x ∈ (finishPoll s k poll r).heap) :
    HeapSucc s.heap x := by
  unfold finishPoll at hx
  split at hx
  · exact .inl ⟨x, hx, rfl, rfl⟩
  · split at hx
    · case h_1 ss hss =>
      rcases List.mem_or_eq_of_mem_set hx with hx | rfl
      · exact .inl ⟨x, hx, rfl, rfl⟩
      · exact .inr (.inr ⟨ss, List.getElem?_mem hss, _, _, _, _, rfl⟩)
    · exact .inl ⟨x, hx, rfl, rfl⟩

/-- What a step can do to the sessions. -/
theorem step_heap {s s' : MonitorState} {e : Event} (h : step s e = some s')
    {x : MonitorSession} (hx : x ∈ s'.heap) : HeapSucc s.heap x := by
  have same : x ∈ s.heap → HeapSucc s.heap x := fun hx => Or.inl ⟨x, hx, rfl, rfl⟩
  have touched : ∀ f : MonitorSession → MonitorSession,
      x ∈ s.heap ∨ (∃ y ∈ s.heap, x = f y) →
      (∀ y, (f y).snapshots = y.snapshots ∧ (f y).pushed = y.pushed) → HeapSucc s.heap x := by
    rintro f (hx | ⟨y, hy, rfl⟩) hf
    · exact same hx
    · exact Or.inl ⟨y, hy, hf y⟩
  cases e with
  | start p ι =>
    cases Option.some.inj h
    unfold startMonitoring at hx
    split at hx
    · exact same hx
    · rw [pollStart_heap] at hx
      rcases List.mem_append.mp hx with hx | hx
      · exact same hx
      · exact Or.inr (Or.inl (by rw [List.mem_singleton.mp hx]; exact ⟨rfl, rfl⟩))
  | stop p =>
    cases Option.some.inj h
    unfold stopMonitoring at hx
    split at hx
    · exact touched _ (mem_modify hx) (fun _ => ⟨rfl, rfl⟩)
    · exact same hx
  | onAlert p h' | onSnapshot p h' | offAlert p h' | offSnapshot p h' =>
    cases Option.some.inj h
    exact touched _ (mem_updateCurrent_heap hx) (fun _ => ⟨rfl, rfl⟩)
  | fire i =>
    obtain ⟨ss, -, -, rfl⟩ := step_fire h
    exact same (by simpa using hx)
  | finish k r =>
    obtain ⟨poll, -, -, rfl⟩ := step_finish h
    exact finishPoll_heapSucc hx
  | finishThrowing k r n =>
    obtain ⟨poll, -, -, rfl⟩ := step_finishThrowing h
    obtain ⟨_, -, hthrow⟩ := throwPoll_eq s k poll r n
    rw [hthrow] at hx
    exact finishPoll_heapSucc hx
  | advance ms =>
    cases Option.some.inj h
    exact same hx

/-- Every session's buffer holds the last 100 snapshots pushed onto it, in the order they
were pushed, and each snapshot's delta is its score minus the score of the one pushed just
before it, or 0 for the first, in every interleaving of polls. -/
theorem Reachable.bufferOk {s : MonitorState} (hs : Reachable s) :
    ∀ ss ∈ s.heap, ss.BufferOk := by
  induction hs with
  | init now => exact fun _ h => absurd h (List.not_mem_nil _)
  | next e _ h ih =>
    intro x hx
    rcases step_heap h hx with ⟨y, hy, hs, hp⟩ | ⟨hs, hp⟩ | ⟨y, hy, p, now, overall, level, rfl⟩
    · exact (ih y hy).congr hs hp
    · exact ⟨by simp [hs, hp], by simp [hp, DeltasChain]⟩
    · exact (ih y hy).record p now overall level

/-- The buffer of every session, in every interleaving of polls, holds the last 100 of the
snapshots pushed onto it (all of them while there are fewer), in the order they were
pushed; each snapshot's delta is its score minus the score of the snapshot pushed just
before it, and the first snapshot's delta is 0. -/
theorem session_buffer_holds_last_hundred_pushed {s : MonitorState} (hs : Reachable s) :
    ∀ ss ∈ s.heap, ss.snapshots = ss.pushed.drop (ss.pushed.length - 100) ∧
      DeltasChain ss.pushed :=
  fun ss h => ⟨(hs.bufferOk ss h).snapshots_eq, (hs.bufferOk ss h).deltas⟩

/-- A monitor started at time 0 whose first poll scores 70. -/
def pollTrace : List Event := [.start "solar-grid" 60000, .finish 0 (some (70, .LOW))]

/-- The state `pollTrace` reaches. -/
def polledState : MonitorState :=
  (run (MonitorState.init 0) pollTrace).getD (MonitorState.init 0)

theorem polledState_reachable : Reachable polledState :=
  (Reachable.init 0).run pollTrace rfl

theorem session_buffer_holds_last_hundred_pushed_polled :
    ∃ ss ∈ polledState.heap, ss.pushed.length = 1 ∧
      ss.snapshots = ss.pushed.drop (ss.pushed.length - 100) ∧ DeltasChain ss.pushed := by
  have hm : _ ∈ polledState.heap := List.mem_singleton_self _
  exact ⟨_, hm, rfl, session_buffer_holds_last_hundred_pushed polledState_reachable _ hm⟩

/-! ## Recent snapshots -/

theorem sliceFrom_neg {α : Type} (xs : List α) {n : ℕ} (h : 0 < n) :
    sliceFrom xs (-(n : ℤ)) = xs.drop (xs.length - n) := by
  simp [sliceFrom, h]

theorem sliceFrom_zero {α : Type} (xs : List α) : sliceFrom xs 0 = xs := by
  simp [sliceFrom]

/-- For every positive `limit`, `getRecentSnapshots(p, limit)` is the last `limit`
snapshots of `p`'s current session, all of them when there are fewer, in order. -/
theorem getRecentSnapshots_of_pos (s : MonitorState) (p : String) {limit : ℕ}
    (h : 0 < limit) : getRecentSnapshots s p limit =
      (currentSnapshots s p).drop ((currentSnapshots s p).length - limit) :=
  sliceFrom_neg _ h

/-- In every interleaving of polls, for every positive `limit`, `getRecentSnapshots(p,
limit)` returns the last `limit` snapshots pushed onto `p`'s current session, all of them
while there are fewer, but never more than the last 100; without a session, none. -/
theorem getRecentSnapshots_returns_last_pushed {s : MonitorState} (hs : Reachable s)
    (p : String) {limit : ℕ} (hlimit : 0 < limit) :
    (∀ i ss, s.sessions.lookup p = some i → s.heap[i]? = some ss →
      getRecentSnapshots s p limit = ss.pushed.drop (ss.pushed.length - min limit 100)) ∧
    (s.sessions.lookup p = none → getRecentSnapshots s p limit = []) := by
  refine ⟨fun i ss hi hss => ?_, fun hi => ?_⟩
  · have hbuf := (hs.bufferOk ss (List.getElem?_mem hss)).snapshots_eq
    rw [getRecentSnapshots_of_pos s p hlimit, currentSnapshots, hi, Option.some_bind, hss,
      Option.map_some', Option.getD_some, hbuf, List.drop_drop, List.length_drop]
    congr 1
    omega
  · simp [getRecentSnapshots_of_pos s p hlimit, currentSnapshots, hi]

theorem getRecentSnapshots_returns_last_pushed_polled :
    ∃ ss, polledState.heap[0]? = some ss ∧ ss.pushed.length = 1 ∧
      getRecentSnapshots polledState "solar-grid" 20 =
        ss.pushed.drop (ss.pushed.length - min 20 100) :=
  ⟨_, rfl, rfl, (getRecentSnapshots_returns_last_pushed polledState_reachable "solar-grid"
    (by decide : 0 < 20)).1 0 _ rfl rfl⟩

/-- `slice(-0)` is `slice(0)`: a limit of 0 returns every snapshot. -/
theorem getRecentSnapshots_zero (s : MonitorState) (p : String) :
    getRecentSnapshots s p 0 = currentSnapshots s p :=
  sliceFrom_zero _

/-- After one poll, `getRecentSnapshots(p, 0)` returns the snapshot, not the last 0. -/
theorem getRecentSnapshots_zero_returns_snapshot :
    Reachable polledState ∧ (currentSnapshots polledState "solar-grid").length = 1 ∧
      getRecentSnapshots polledState "solar-grid" 0 = currentSnapshots polledState "solar-grid" :=
  ⟨polledState_reachable, rfl, getRecentSnapshots_zero _ _⟩

/-! ## Trends -/

/-- `detectTrend` reads the number of snapshots only up to three and the scores of only the
last five, so every suffix of at least five of them gives the trend of them all. -/
theorem detectTrend_drop (P : List MonitoringSnapshot) {n : ℕ} (hn : 5 ≤ n) :
    detectTrend (P.drop (P.length - n)) = detectTrend P := by
  rcases le_or_lt P.length n with hle | hlt
  · rw [Nat.sub_eq_zero_of_le hle, List.drop_zero]
  · have hfive : ∀ xs : List MonitoringSnapshot, sliceFrom xs (-5) = xs.drop (xs.length - 5) :=
      fun xs => sliceFrom_neg xs (n := 5) (by decide)
    have hrecent : sliceFrom (P.drop (P.length - n)) (-5) = sliceFrom P (-5) := by
      rw [hfive, hfive, List.drop_drop, List.length_drop]
      congr 1
      omega
    have hlen : ¬ (P.drop (P.length - n)).length < 3 := by
      rw [List.length_drop]
      omega
    unfold detectTrend
    rw [if_neg hlen, if_neg (show ¬ P.length < 3 by omega), hrecent]

/-- Each snapshot's trend is `detectTrend` of all the snapshots pushed before it. -/
def TrendsFollowHistory (xs : List MonitoringSnapshot) : Prop :=
  ∀ P x, P ++ [x] <+: xs → x.trendDirection = detectTrend P

theorem TrendsFollowHistory.push {P : List MonitoringSnapshot} (h : TrendsFollowHistory P)
    {x : MonitoringSnapshot} (hx : x.trendDirection = detectTrend P) :
    TrendsFollowHistory (P ++ [x]) := by
  intro A y hA
  rcases List.prefix_concat_iff.mp hA with heq | hA
  · obtain ⟨rfl, hy⟩ := List.append_inj' heq rfl
    cases hy
    exact hx
  · exact h A y hA

/-- In every interleaving of polls, each snapshot's trend is `detectTrend` of every
snapshot pushed onto its session before it. `runPoll` reads only the buffer, which keeps
the last 100, but `detectTrend` never looks further back than five. -/
theorem trend_reads_whole_history {s : MonitorState} (hs : Reachable s) :
    ∀ ss ∈ s.heap, ∀ P x, P ++ [x] <+: ss.pushed → x.trendDirection = detectTrend P := by
  induction hs with
  | init now => exact fun _ h => absurd h (List.not_mem_nil _)
  | next e hprev h ih =>
    intro y hy
    rcases step_heap h hy with
      ⟨z, hz, -, hp⟩ | ⟨-, hp⟩ | ⟨z, hz, p, now, overall, level, rfl⟩
    · exact hp ▸ ih z hz
    · intro P x hx
      rw [hp, List.prefix_nil] at hx
      simp at hx
    · refine TrendsFollowHistory.push (ih z hz) ?_
      show detectTrend z.snapshots = detectTrend z.pushed
      rw [(hprev.bufferOk z hz).snapshots_eq, detectTrend_drop _ (by norm_num)]

/-- A monitor whose first four polls score 60, 62, 65 and 70. -/
def risingTrace : List Event :=
  [.start "solar-grid" 60000, .finish 0 (some (60, .MEDIUM)), .fire 0,
   .finish 1 (some (62, .MEDIUM)), .fire 0, .finish 2 (some (65, .LOW)), .fire 0,
   .finish 3 (some (70, .LOW))]

/-- The state `risingTrace` reaches. -/
def risingState : MonitorState :=
  (run (MonitorState.init 0) risingTrace).getD (MonitorState.init 0)

theorem risingState_reachable : Reachable risingState :=
  (Reachable.init 0).run risingTrace rfl

/-- In `risingTrace` the first three snapshots are stable and the fourth improving: the
trend of the three before it, which rose five points. -/
theorem trend_reads_whole_history_rising :
    ∃ ss ∈ risingState.heap,
      ss.pushed.map (·.trendDirection) = [.STABLE, .STABLE, .STABLE, .IMPROVING] ∧
        ∀ P x, P ++ [x] <+: ss.pushed → x.trendDirection = detectTrend P := by
  have hm : _ ∈ risingState.heap := List.mem_singleton_self _
  exact ⟨_, hm, rfl, trend_reads_whole_history risingState_reachable _ hm⟩

/-! ## Stopping -/

/-- A monitor with a snapshot handler, stopped while its first poll is in flight. -/
def stopTrace : List Event :=
  [.start "solar-grid" 60000, .onSnapshot "solar-grid" 0, .stop "solar-grid"]

/-- The state `stopTrace` reaches. -/
def stoppedState : MonitorState :=
  (run (MonitorState.init 0) stopTrace).getD (MonitorState.init 0)

/-- After `stopMonitoring(p)`, the poll in flight resumes: it calls the snapshot handler
registered for `p` and pushes a snapshot onto the stopped session. -/
theorem stopped_monitor_notifies_in_flight_poll :
    Reachable stoppedState ∧ stoppedState.sessions.lookup "solar-grid" = none ∧
      stoppedState.calls = [] ∧
      ∃ s', step stoppedState (.finish 0 (some (70, .LOW))) = some s' ∧
        s'.calls.map (fun c => (c.handler, c.projectId)) = [(0, "solar-grid")] ∧
        s'.heap.map (fun ss => (ss.projectId, ss.pushed.length)) = [("solar-grid", 1)] :=
  ⟨(Reachable.init 0).run stopTrace rfl, rfl, rfl, _, rfl, rfl, rfl⟩

end NovaFund.Monitor

import NovaFund.Monitor.Alerts

/-!
# Interval timers

`startMonitoring(p)` returns at once when `_sessions` has `p`; otherwise it registers a new
session and sets its interval timer. `stopMonitoring(p)` clears the timer of the session
`_sessions` maps `p` to and deletes the entry. The invariant `TimerInv` says that
`_sessions` has one entry per project, pointing at a session of that project, and that a
session's timer is set exactly while `_sessions` points at it. So no interleaving of
starts, stops, handler changes and polls leaves two timers polling one project, or a timer
running for a project after `stopMonitoring`.
-/

namespace NovaFund.Monitor

open NovaFund.Risk (RiskLevel)

/-- The timers' invariant: one `_sessions` entry per project, each pointing at a session of
its project, and a session's timer set exactly while an entry points at it. -/
structure TimerInv (s : MonitorState) : Prop where
  keys_nodup : (s.sessions.map Prod.fst).Nodup
  addressed : ∀ e ∈ s.sessions, Addressed s.heap e.1 e.2
  armed_iff : ∀ i ss, s.heap[i]? = some ss →
    (ss.armed = true ↔ (ss.projectId, i) ∈ s.sessions)

theorem TimerInv.init (now : ℕ) : TimerInv (MonitorState.init now) :=
  ⟨List.nodup_nil, nofun, fun _ _ h => by simp [MonitorState.init] at h⟩

/-- With one entry per project, an entry is what `lookup` finds. -/
theorem lookup_eq_some_of_mem {l : List (String × ℕ)} (hl : (l.map Prod.fst).Nodup)
    {p : String} {i : ℕ} (h : (p, i) ∈ l) : l.lookup p = some i := by
  obtain ⟨j, hj⟩ := Option.isSome_iff_exists.mp
    (List.lookup_isSome_iff.mpr ⟨_, h, beq_self_eq_true p⟩)
  rw [hj, (Prod.mk.inj (List.inj_on_of_nodup_map hl (mem_of_lookup hj) h rfl)).2]

/-! ## Heaps with the same timers -/

/-- Each address holds a session of the same project, with its timer alike, in both heaps. -/
def SameTimers (heap heap' : List MonitorSession) : Prop :=
  ∀ i : ℕ, heap'[i]?.map (fun ss : MonitorSession => (ss.projectId, ss.armed)) =
    heap[i]?.map (fun ss : MonitorSession => (ss.projectId, ss.armed))

theorem SameTimers.getElem?_right {heap heap' : List MonitorSession}
    (hsame : SameTimers heap heap') {i : ℕ} {ss : MonitorSession} (hi : heap'[i]? = some ss) :
    ∃ ss₀, heap[i]? = some ss₀ ∧ ss₀.projectId = ss.projectId ∧
      ss₀.armed = ss.armed := by
  have h := hsame i
  rw [hi, Option.map_some', eq_comm, Option.map_eq_some'] at h
  obtain ⟨ss₀, h₀, heq⟩ := h
  exact ⟨ss₀, h₀, (Prod.mk.inj heq).1, (Prod.mk.inj heq).2⟩

theorem SameTimers.getElem?_left {heap heap' : List MonitorSession}
    (hsame : SameTimers heap heap') {i : ℕ} {ss : MonitorSession} (hi : heap[i]? = some ss) :
    ∃ ss', heap'[i]? = some ss' ∧ ss'.projectId = ss.projectId ∧ ss'.armed = ss.armed := by
  have h := hsame i
  rw [hi, Option.map_some', Option.map_eq_some'] at h
  obtain ⟨ss', h', heq⟩ := h
  exact ⟨ss', h', (Prod.mk.inj heq).1, (Prod.mk.inj heq).2⟩

theorem sameTimers_modify {f : MonitorSession → MonitorSession}
    (hf : ∀ ss, (f ss).projectId = ss.projectId ∧ (f ss).armed = ss.armed) (n : ℕ)
    (heap : List MonitorSession) : SameTimers heap (heap.modify f n) := by
  intro i
  rw [List.getElem?_modify]
  cases heap[i]? with
  | none => rfl
  | some ss => by_cases hn : n = i <;> simp [hn, hf]

theorem sameTimers_set {heap : List MonitorSession} {k : ℕ} {x y : MonitorSession}
    (hy : heap[k]? = some y) (hx : x.projectId = y.projectId ∧ x.armed = y.armed) :
    SameTimers heap (heap.set k x) := by
  intro i
  rw [List.getElem?_set]
  split_ifs with hki hlt
  · subst hki
    rw [hy]
    simp [hx]
  · exact absurd (List.getElem?_eq_some_iff.mp hy).1 (hki ▸ hlt)
  · rfl

/-! ## What each operation does to the timers -/

section Steps

variable {s : MonitorState}

/-- A change of the heap that keeps every address's project and timer. -/
theorem TimerInv.reheap (h : TimerInv s) {heap : List MonitorSession}
    (hsame : SameTimers s.heap heap) : TimerInv { s with heap := heap } where
  keys_nodup := h.keys_nodup
  addressed e he := by
    obtain ⟨ss, hss, hp⟩ := h.addressed e he
    obtain ⟨ss', hss', hp', -⟩ := hsame.getElem?_left hss
    exact ⟨ss', hss', hp'.trans hp⟩
  armed_iff i ss hi := by
    obtain ⟨ss₀, h₀, hp, ha⟩ := hsame.getElem?_right hi
    rw [← hp, ← ha]
    exact h.armed_iff i ss₀ h₀

theorem TimerInv.pollStart (h : TimerInv s) (p : String) : TimerInv (pollStart s p) := by
  unfold NovaFund.Monitor.pollStart
  split
  · exact ⟨h.keys_nodup, h.addressed, h.armed_iff⟩
  · exact h

theorem TimerInv.startMonitoring (h : TimerInv s) (p : String) (intervalMs : ℕ) :
    TimerInv (startMonitoring s p intervalMs) := by
  unfold NovaFund.Monitor.startMonitoring
  split
  · exact h
  · rename_i hnone
    have hp : p ∉ s.sessions.map Prod.fst := fun hp => by
      obtain ⟨e, he, rfl⟩ := List.mem_map.mp hp
      exact hnone (List.lookup_isSome_iff.mpr ⟨e, he, beq_self_eq_true _⟩)
    have hold : ∀ {i ss}, s.heap[i]? = some ss →
        (s.heap ++ [⟨p, intervalMs, [], true, [], [], []⟩])[i]? = some ss :=
      fun hi => by rw [List.getElem?_append_left (List.getElem?_eq_some_iff.mp hi).1, hi]
    apply TimerInv.pollStart
    refine ⟨?_, fun e he => ?_, fun i ss hi => ?_⟩
    · rw [List.map_append, List.map_singleton]
      exact List.nodup_append.mpr ⟨h.keys_nodup, List.nodup_singleton p,
        fun x hx hy => hp (by rw [List.mem_singleton.mp hy] at hx; exact hx)⟩
    · rcases List.mem_append.mp he with he | he
      · obtain ⟨ss, hss, hq⟩ := h.addressed e he
        exact ⟨ss, hold hss, hq⟩
      · obtain rfl := List.mem_singleton.mp he
        exact ⟨_, List.getElem?_concat_length _ _, rfl⟩
    · show ss.armed = true ↔ (ss.projectId, i) ∈ s.sessions ++ [(p, s.heap.length)]
      rcases lt_or_ge i s.heap.length with hlt | hge
      · rw [List.getElem?_append_left hlt] at hi
        rw [List.mem_append, List.mem_singleton, h.armed_iff i ss hi, Prod.mk.injEq]
        exact ⟨Or.inl, fun h' => h'.resolve_right fun ⟨_, hi'⟩ => by omega⟩
      · obtain ⟨rfl, rfl⟩ :
            i = s.heap.length ∧ ⟨p, intervalMs, [], true, [], [], []⟩ = ss := by
          have := (List.getElem?_eq_some_iff.mp hi).1
          simp only [List.length_append, List.length_singleton] at this
          obtain rfl : i = s.heap.length := by omega
          exact ⟨rfl, by simpa using hi⟩
        simp

theorem TimerInv.stopMonitoring (h : TimerInv s) (p : String) :
    TimerInv (stopMonitoring s p) := by
  unfold NovaFund.Monitor.stopMonitoring
  split
  · rename_i i hi
    have hmem := mem_of_lookup hi
    obtain ⟨ss₀, hss₀, hp₀⟩ := h.addressed _ hmem
    have hother : ∀ {j}, (p, j) ∈ s.sessions → j = i := fun hj =>
      congrArg Prod.snd (List.inj_on_of_nodup_map h.keys_nodup hj hmem rfl)
    refine ⟨(List.filter_sublist _).map Prod.fst |>.nodup h.keys_nodup, fun e he =>
      addressed_modify (f := fun ss => { ss with armed := false }) (fun _ => rfl) i
        (h.addressed e (List.mem_of_mem_filter he)),
      fun j ss hj => ?_⟩
    simp only [List.mem_filter, decide_eq_true_eq]
    rw [List.getElem?_modify] at hj
    by_cases hij : i = j
    · subst hij
      rw [hss₀] at hj
      obtain rfl := Option.some.inj (by simpa using hj)
      simp [hp₀]
    · obtain ⟨ss', hss', rfl⟩ : ∃ ss', s.heap[j]? = some ss' ∧ ss' = ss := by
        simpa [hij] using hj
      rw [h.armed_iff j ss' hss']
      refine ⟨fun hm => ⟨hm, fun hpj => hij (hother (hpj ▸ hm)).symm⟩, And.left⟩
  · exact h

/-- A handler change keeps every session's project and timer. -/
theorem TimerInv.updateCurrent (h : TimerInv s) {p : String}
    {f : MonitorSession → MonitorSession}
    (hf : ∀ ss, (f ss).projectId = ss.projectId ∧ (f ss).armed = ss.armed) :
    TimerInv (s.updateCurrent p f) := by
  unfold MonitorState.updateCurrent
  split
  · exact h.reheap (sameTimers_modify hf _ _)
  · exact h

theorem TimerInv.finishPoll (h : TimerInv s) (k : ℕ) (poll : Poll)
    (r : Option (ℤ × RiskLevel)) : TimerInv (finishPoll s k poll r) := by
  unfold NovaFund.Monitor.finishPoll
  split
  · exact ⟨h.keys_nodup, h.addressed, h.armed_iff⟩
  · split
    · rename_i overall level _ ss hss
      have h' := h.reheap
        (sameTimers_set (x := (recordAssessment ss poll.projectId s.now overall level).1) hss
          ⟨rfl, rfl⟩)
      exact ⟨h'.keys_nodup, h'.addressed, h'.armed_iff⟩
    · exact ⟨h.keys_nodup, h.addressed, h.armed_iff⟩

end Steps

theorem TimerInv.step {s s' : MonitorState} {e : Event} (h : TimerInv s)
    (hstep : step s e = some s') : TimerInv s' := by
  cases e with
  | start p ι =>
    cases Option.some.inj hstep
    exact h.startMonitoring p ι
  | stop p =>
    cases Option.some.inj hstep
    exact h.stopMonitoring p
  | onAlert p x | onSnapshot p x | offAlert p x | offSnapshot p x =>
    cases Option.some.inj hstep
    exact h.updateCurrent fun _ => ⟨rfl, rfl⟩
  | fire i =>
    obtain ⟨ss, -, -, rfl⟩ := step_fire hstep
    exact h.pollStart _
  | finish k r =>
    obtain ⟨poll, -, -, rfl⟩ := step_finish hstep
    exact h.finishPoll k poll r
  | finishThrowing k r n =>
    obtain ⟨poll, -, -, rfl⟩ := step_finishThrowing hstep
    obtain ⟨_, -, hthrow⟩ := throwPoll_eq s k poll r n
    have h' := h.finishPoll k poll (some r)
    rw [hthrow]
    exact ⟨h'.keys_nodup, h'.addressed, h'.armed_iff⟩
  | advance ms =>
    cases Option.some.inj hstep
    exact ⟨h.keys_nodup, h.addressed, h.armed_iff⟩

theorem Reachable.timerInv {s : MonitorState} (hs : Reachable s) : TimerInv s := by
  induction hs with
  | init now => exact TimerInv.init now
  | next e _ h ih => exact ih.step h

/-- In every reachable state, whatever the order of `startMonitoring`, `stopMonitoring`,
handler changes, timer ticks and polls, a session's interval timer is set exactly when
`_sessions.get` of its project is that session, so no two sessions of one project have
their timers set. Calling `startMonitoring(p)` again never starts a second timer for `p`,
and after `stopMonitoring(p)` no timer polls `p`. -/
theorem one_timer_per_project {s : MonitorState} (hs : Reachable s) :
    (∀ (i : ℕ) (ss : MonitorSession), s.heap[i]? = some ss →
        (ss.armed = true ↔ s.sessions.lookup ss.projectId = some i)) ∧
      ∀ (i j : ℕ) (ss ss' : MonitorSession), s.heap[i]? = some ss → s.heap[j]? = some ss' →
        ss.armed = true → ss'.armed = true → ss.projectId = ss'.projectId → i = j := by
  have h := hs.timerInv
  have hlookup : ∀ (i : ℕ) (ss : MonitorSession), s.heap[i]? = some ss →
      (ss.armed = true ↔ s.sessions.lookup ss.projectId = some i) := fun i ss hi =>
    (h.armed_iff i ss hi).trans ⟨lookup_eq_some_of_mem h.keys_nodup, mem_of_lookup⟩
  refine ⟨hlookup, fun i j ss ss' hi hj ha ha' hp => ?_⟩
  have hi' := (hlookup i ss hi).mp ha
  rw [hp, (hlookup j ss' hj).mp ha'] at hi'
  exact (Option.some.inj hi').symm

/-- A monitor started, stopped, then started twice more. -/
def restartTrace : List Event :=
  [.start "solar-grid" 60000, .stop "solar-grid", .start "solar-grid" 60000,
   .start "solar-grid" 30000]

/-- The state `restartTrace` reaches. -/
def restartState : MonitorState :=
  (run (MonitorState.init 0) restartTrace).getD (MonitorState.init 0)

theorem restartState_reachable : Reachable restartState :=
  (Reachable.init 0).run restartTrace rfl

/-- In `restartTrace` the stopped session's timer is cleared, the second session's is set,
and the last `startMonitoring` created no third session. -/
theorem one_timer_per_project_restart :
    restartState.heap.map (·.armed) = [false, true] ∧
      (∀ (i : ℕ) (ss : MonitorSession), restartState.heap[i]? = some ss →
        (ss.armed = true ↔ restartState.sessions.lookup ss.projectId = some i)) ∧
      ∀ (i j : ℕ) (ss ss' : MonitorSession), restartState.heap[i]? = some ss →
        restartState.heap[j]? = some ss' →
        ss.armed = true → ss'.armed = true → ss.projectId = ss'.projectId → i = j :=
  ⟨rfl, one_timer_per_project restartState_reachable⟩

end NovaFund.Monitor

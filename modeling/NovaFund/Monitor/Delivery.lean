import NovaFund.Monitor.Timers

/-!
# Every subscribed handler gets every push

`runPoll` calls each alert handler of the session it read with each alert of the snapshot
it pushes onto that session, then each snapshot handler with the snapshot. A handler leaves
a session's set only when the function that `onRiskAlert(p, h)` or `onRiskSnapshot(p, h)`
returned is called for the session's own project `p`: `_sessions` maps a project only to a
session of that project, `stopMonitoring` leaves the sets alone, and a poll in flight pushes
onto the session it read. A handler that throws ends its `runPoll`, and the calls after it
in that poll are skipped. So along any run from a reachable state in which no poll of the
session has a handler throw, a handler in the session's set that is never unsubscribed from
the session's project is called with everything pushed onto that session during the run,
whatever other sessions, handlers, restarts and polls interleave with it.
-/

namespace NovaFund.Monitor

open NovaFund.Risk (RiskLevel)

/-- A session's two handler sets. -/
inductive Channel
  | alerts | snapshots

/-- The handlers of `ss` on channel `c`. -/
def MonitorSession.subscribers (ss : MonitorSession) : Channel → List ℕ
  | .alerts => ss.alertHandlers
  | .snapshots => ss.snapshotHandlers

/-- The calls `runPoll` makes to handler `h` on channel `c` for the snapshot `x` it pushes. -/
def Channel.owed (h : ℕ) (x : MonitoringSnapshot) : Channel → List HandlerCall
  | .alerts => x.alerts.map (.alert h)
  | .snapshots => [.snapshot h x]

/-- Calling the function `onRiskAlert(p, h)` or `onRiskSnapshot(p, h)` returned. -/
def Channel.off (p : String) (h : ℕ) : Channel → Event
  | .alerts => .offAlert p h
  | .snapshots => .offSnapshot p h

/-- `ss'` is `ss` with the same project, and every handler of `ss` is still a handler of
`ss'`, unless event `e` unsubscribes it from the session's project. -/
def MonitorSession.Keeps (e : Event) (ss ss' : MonitorSession) : Prop :=
  ss'.projectId = ss.projectId ∧
    ∀ c, ∀ h ∈ ss.subscribers c, e ≠ c.off ss.projectId h → h ∈ ss'.subscribers c

theorem MonitorSession.Keeps.refl (e : Event) (ss : MonitorSession) : ss.Keeps e ss :=
  ⟨rfl, fun _ _ hh _ => hh⟩

theorem mem_setAdd_of_mem {xs : List ℕ} {x y : ℕ} (h : y ∈ xs) : y ∈ setAdd xs x := by
  unfold setAdd
  split
  · exact h
  · exact List.mem_append_left _ h

@[simp] theorem pollStart_calls (s : MonitorState) (p : String) :
    (pollStart s p).calls = s.calls := by
  unfold pollStart
  split <;> rfl

/-- A resumed poll leaves every other address as it was. -/
theorem finishPoll_getElem?_of_ne {s : MonitorState} {k : ℕ} {poll : Poll}
    (r : Option (ℤ × RiskLevel)) {i : ℕ} (h : poll.session ≠ i) :
    (finishPoll s k poll r).heap[i]? = s.heap[i]? := by
  unfold finishPoll
  split
  · rfl
  · split
    · exact List.getElem?_set_ne h
    · rfl

theorem finishPoll_calls_extend (s : MonitorState) (k : ℕ) (poll : Poll)
    (r : Option (ℤ × RiskLevel)) : s.calls <+: (finishPoll s k poll r).calls := by
  unfold finishPoll
  split
  · exact List.prefix_refl _
  · split
    · exact List.prefix_append _ _
    · exact List.prefix_refl _

/-! ## Polls keep their session -/

/-- Every poll of `ps` is still at its index in `ps'`, with the same session. -/
def PollsKept (ps ps' : List Poll) : Prop :=
  ∀ (k : ℕ) (poll : Poll), ps[k]? = some poll →
    ∃ poll' : Poll, ps'[k]? = some poll' ∧ poll'.session = poll.session

theorem PollsKept.trans {ps ps' ps'' : List Poll} (h : PollsKept ps ps')
    (h' : PollsKept ps' ps'') : PollsKept ps ps'' := by
  intro k poll hk
  obtain ⟨poll', hk', hs'⟩ := h k poll hk
  obtain ⟨poll'', hk'', hs''⟩ := h' k poll' hk'
  exact ⟨poll'', hk'', hs''.trans hs'⟩

theorem PollsKept.extend {ps ps' : List Poll} (h : ps <+: ps') : PollsKept ps ps' := by
  intro k poll hk
  obtain ⟨t, rfl⟩ := h
  exact ⟨poll, by rw [List.getElem?_append_left (List.getElem?_eq_some_iff.mp hk).1, hk], rfl⟩

/-- Resuming poll `k` only clears its `pending` flag. -/
theorem PollsKept.set {ps : List Poll} {k : ℕ} {poll : Poll} (hk : ps[k]? = some poll) :
    PollsKept ps (ps.set k { poll with pending := false }) := by
  intro j q hj
  by_cases hkj : k = j
  · subst hkj
    rw [hk] at hj
    cases hj
    exact ⟨_, List.getElem?_set_self (List.getElem?_eq_some_iff.mp hk).1, rfl⟩
  · exact ⟨q, by rw [List.getElem?_set_ne hkj, hj], rfl⟩

theorem pollStart_pollsKept (s : MonitorState) (p : String) :
    PollsKept s.polls (pollStart s p).polls := by
  unfold pollStart
  split
  · exact .extend (List.prefix_append _ _)
  · exact .extend (List.prefix_refl _)

theorem finishPoll_pollsKept {s : MonitorState} {k : ℕ} {poll : Poll}
    (hk : s.polls[k]? = some poll) (r : Option (ℤ × RiskLevel)) :
    PollsKept s.polls (finishPoll s k poll r).polls := by
  unfold finishPoll
  split
  · exact .set hk
  · split <;> exact .set hk

/-- No step removes a poll or changes the session it read. -/
theorem step_pollsKept {s s' : MonitorState} {e : Event} (hstep : step s e = some s') :
    PollsKept s.polls s'.polls := by
  cases e with
  | start p ι =>
    cases Option.some.inj hstep
    unfold startMonitoring
    split
    · exact .extend (List.prefix_refl _)
    · exact pollStart_pollsKept
        { s with heap := s.heap ++ [⟨p, ι, [], true, [], [], []⟩],
                 sessions := s.sessions ++ [(p, s.heap.length)] } p
  | stop p =>
    cases Option.some.inj hstep
    unfold stopMonitoring
    split <;> exact .extend (List.prefix_refl _)
  | onAlert p h | onSnapshot p h | offAlert p h | offSnapshot p h =>
    cases Option.some.inj hstep
    unfold MonitorState.updateCurrent
    split <;> exact .extend (List.prefix_refl _)
  | fire i =>
    obtain ⟨-, -, -, rfl⟩ := step_fire hstep
    exact pollStart_pollsKept _ _
  | finish k r =>
    obtain ⟨poll, hk, -, rfl⟩ := step_finish hstep
    exact finishPoll_pollsKept hk r
  | finishThrowing k r n =>
    obtain ⟨poll, hk, -, rfl⟩ := step_finishThrowing hstep
    obtain ⟨_, -, hthrow⟩ := throwPoll_eq s k poll r n
    rw [hthrow]
    exact finishPoll_pollsKept hk (some r)
  | advance ms =>
    cases Option.some.inj hstep
    exact .extend (List.prefix_refl _)

theorem run_pollsKept {s s' : MonitorState} :
    ∀ {es : List Event}, run s es = some s' → PollsKept s.polls s'.polls
  | [], hrun => by
    cases Option.some.inj hrun
    exact .extend (List.prefix_refl _)
  | _ :: _, hrun => by
    obtain ⟨s₁, hstep, hrun⟩ := Option.bind_eq_some.mp hrun
    exact (step_pollsKept hstep).trans (run_pollsKept hrun)

/-! ## One step -/

/-- What a step leaves of the session at an address: the session is still there, with its
project and its handlers kept, and it either has the same pushed snapshots or one more, for
which every handler it had has been called. The handler calls made so far are kept too. -/
def StepKeeps (e : Event) (s s' : MonitorState) (i : ℕ) (ss : MonitorSession) : Prop :=
  s.calls <+: s'.calls ∧ ∃ ss', s'.heap[i]? = some ss' ∧ ss.Keeps e ss' ∧
    (ss'.pushed = ss.pushed ∨ ∃ x, ss'.pushed = ss.pushed ++ [x] ∧
      ∀ c, ∀ h ∈ ss.subscribers c, ∀ call ∈ c.owed h x, call ∈ s'.calls)

section Steps

variable {e : Event} {s : MonitorState} {i : ℕ} {ss : MonitorSession}

theorem StepKeeps.of_heap (hi : s.heap[i]? = some ss) {s' : MonitorState}
    (hheap : s'.heap = s.heap) (hcalls : s'.calls = s.calls) : StepKeeps e s s' i ss :=
  ⟨hcalls ▸ List.prefix_refl _, ss, hheap ▸ hi, .refl e ss, .inl rfl⟩

/-- Changing the session at address `j` by an `f` that keeps the pushed snapshots and the
handlers of the session at `i`, should `j` be `i`. -/
theorem StepKeeps.modify (hi : s.heap[i]? = some ss) {f : MonitorSession → MonitorSession}
    {j : ℕ} (hf : j = i → (f ss).pushed = ss.pushed ∧ ss.Keeps e (f ss)) {s' : MonitorState}
    (hheap : s'.heap = s.heap.modify f j) (hcalls : s'.calls = s.calls) :
    StepKeeps e s s' i ss := by
  refine ⟨hcalls ▸ List.prefix_refl _, ?_⟩
  rw [hheap, List.getElem?_modify, hi]
  by_cases hj : j = i
  · exact ⟨f ss, by simp [hj], (hf hj).2, .inl (hf hj).1⟩
  · exact ⟨ss, by simp [hj], .refl e ss, .inl rfl⟩

/-- A handler change of the session registered for `p` changes the session at `i` only if
`p` is its project, as `_sessions` maps a project to a session of its own. -/
theorem StepKeeps.updateCurrent (hinv : TimerInv s) (hi : s.heap[i]? = some ss) (p : String)
    {f : MonitorSession → MonitorSession}
    (hf : ss.projectId = p → (f ss).pushed = ss.pushed ∧ ss.Keeps e (f ss)) :
    StepKeeps e s (s.updateCurrent p f) i ss := by
  unfold MonitorState.updateCurrent
  split
  · case h_1 j hj =>
    refine .modify hi (fun hji => hf ?_) rfl rfl
    obtain ⟨ss', hss', hp⟩ := hinv.addressed _ (mem_of_lookup hj)
    rw [hji, hi] at hss'
    exact Option.some.inj hss' ▸ hp
  · exact .of_heap hi rfl rfl

theorem StepKeeps.startMonitoring (hi : s.heap[i]? = some ss) (p : String) (intervalMs : ℕ) :
    StepKeeps e s (startMonitoring s p intervalMs) i ss := by
  unfold NovaFund.Monitor.startMonitoring
  split
  · exact .of_heap hi rfl rfl
  · refine ⟨by rw [pollStart_calls], ss, ?_, .refl e ss, .inl rfl⟩
    rw [pollStart_heap, List.getElem?_append_left (List.getElem?_eq_some_iff.mp hi).1, hi]

/-- The snapshot `recordAssessment` pushes, and the calls it makes to the session's
handlers. -/
theorem recordAssessment_owed (ss : MonitorSession) (p : String) (now : ℕ) (overall : ℤ)
    (level : RiskLevel) :
    let r := recordAssessment ss p now overall level
    r.1.subscribers = ss.subscribers ∧ ∃ x, r.1.pushed = ss.pushed ++ [x] ∧
      ∀ c, ∀ h ∈ ss.subscribers c, ∀ call ∈ c.owed h x, call ∈ r.2 := by
  refine ⟨rfl, _, rfl, fun c h hh call hcall => ?_⟩
  cases c with
  | alerts =>
    obtain ⟨a, ha, rfl⟩ := List.mem_map.mp hcall
    exact List.mem_append_left _ (List.mem_flatMap.mpr ⟨a, ha, List.mem_map_of_mem _ hh⟩)
  | snapshots =>
    obtain rfl := List.mem_singleton.mp hcall
    exact List.mem_append_right _ (List.mem_map_of_mem _ hh)

theorem StepKeeps.finishPoll (hi : s.heap[i]? = some ss) (k : ℕ) (poll : Poll)
    (r : Option (ℤ × RiskLevel)) : StepKeeps e s (finishPoll s k poll r) i ss := by
  by_cases hj : poll.session = i
  · unfold NovaFund.Monitor.finishPoll
    split
    · exact .of_heap hi rfl rfl
    · rename_i overall level
      subst hj
      rw [hi]
      obtain ⟨hsub, x, hx, howed⟩ := recordAssessment_owed ss poll.projectId s.now overall level
      exact ⟨List.prefix_append _ _, (recordAssessment ss poll.projectId s.now overall level).1,
        by simp [(List.getElem?_eq_some_iff.mp hi).1],
        ⟨rfl, fun c h hh _ => hsub ▸ hh⟩, .inr ⟨x, hx, fun c h hh call hcall =>
          List.mem_append_right _ (howed c h hh call hcall)⟩⟩
  · exact ⟨finishPoll_calls_extend s k poll r, ss, by rw [finishPoll_getElem?_of_ne r hj, hi],
      .refl e ss, .inl rfl⟩

/-- A continuation of a poll of another session whose handler throws. -/
theorem StepKeeps.throwPoll (hi : s.heap[i]? = some ss) (k : ℕ) (poll : Poll)
    (r : ℤ × RiskLevel) (n : ℕ) (hj : poll.session ≠ i) :
    StepKeeps e s (throwPoll s k poll r n) i ss := by
  obtain ⟨_, -, hthrow⟩ := throwPoll_eq s k poll r n
  rw [hthrow]
  exact ⟨List.prefix_append _ _, ss, by rw [finishPoll_getElem?_of_ne _ hj, hi], .refl e ss,
    .inl rfl⟩

end Steps

/-- Every step keeps the session at an address as `StepKeeps` says, unless it is a poll of
that session whose handler throws. -/
theorem step_keeps {s s' : MonitorState} {e : Event} (hinv : TimerInv s)
    (hstep : step s e = some s') {i : ℕ}
    (hthrow : ∀ k r n, e = .finishThrowing k r n → ∀ poll, s.polls[k]? = some poll →
      poll.session ≠ i)
    {ss : MonitorSession} (hi : s.heap[i]? = some ss) : StepKeeps e s s' i ss := by
  cases e with
  | start p ι =>
    cases Option.some.inj hstep
    exact .startMonitoring hi p ι
  | stop p =>
    cases Option.some.inj hstep
    unfold stopMonitoring
    split
    · exact .modify (f := fun ss => { ss with armed := false }) hi
        (fun _ => ⟨rfl, .refl _ _⟩) rfl rfl
    · exact .of_heap hi rfl rfl
  | onAlert p h' | onSnapshot p h' =>
    cases Option.some.inj hstep
    exact .updateCurrent hinv hi p fun _ => ⟨rfl, rfl, fun c h hh _ => by
      cases c <;> first | exact hh | exact mem_setAdd_of_mem hh⟩
  | offAlert p h' | offSnapshot p h' =>
    cases Option.some.inj hstep
    exact .updateCurrent hinv hi p fun hp => ⟨rfl, rfl, fun c h hh hoff => by
      cases c <;> first
        | exact hh
        | exact (List.mem_erase_of_ne fun hh' => hoff (by rw [hh', hp]; rfl)).mpr hh⟩
  | fire j =>
    obtain ⟨-, -, -, rfl⟩ := step_fire hstep
    exact .of_heap hi (pollStart_heap _ _) (pollStart_calls _ _)
  | finish k r =>
    obtain ⟨poll, -, -, rfl⟩ := step_finish hstep
    exact .finishPoll hi k poll r
  | finishThrowing k r n =>
    obtain ⟨poll, hk, -, rfl⟩ := step_finishThrowing hstep
    exact .throwPoll hi k poll r n (hthrow k r n rfl poll hk)
  | advance ms =>
    cases Option.some.inj hstep
    exact .of_heap hi rfl rfl

/-! ## A run -/

/-- Along a run from a reachable state in which no poll of the session at `i` has a handler
throw, the session stays there with its project, its pushed snapshots only grow, and each
handler it had that the run never unsubscribes from its project is still subscribed and has
been called for everything pushed onto it during the run. -/
theorem run_keeps {s s' : MonitorState} (hs : Reachable s) {es : List Event}
    (hrun : run s es = some s') {i : ℕ}
    (hthrow : ∀ k r n, Event.finishThrowing k r n ∈ es →
      ∃ poll, s'.polls[k]? = some poll ∧ poll.session ≠ i)
    {ss : MonitorSession} (hi : s.heap[i]? = some ss) :
    s.calls <+: s'.calls ∧ ∃ ss', s'.heap[i]? = some ss' ∧ ss'.projectId = ss.projectId ∧
      ss.pushed <+: ss'.pushed ∧
      ∀ c, ∀ h ∈ ss.subscribers c, c.off ss.projectId h ∉ es → h ∈ ss'.subscribers c ∧
        ∀ x ∈ ss'.pushed.drop ss.pushed.length, ∀ call ∈ c.owed h x, call ∈ s'.calls := by
  induction es generalizing s ss with
  | nil =>
    cases Option.some.inj hrun
    exact ⟨List.prefix_refl _, ss, hi, rfl, List.prefix_refl _, fun c h hh _ =>
      ⟨hh, fun x hx => by simp at hx⟩⟩
  | cons e es ih =>
    have hkept := run_pollsKept hrun
    obtain ⟨s₁, hstep, hrun⟩ := Option.bind_eq_some.mp hrun
    have hthrow₁ : ∀ k r n, e = .finishThrowing k r n → ∀ poll, s.polls[k]? = some poll →
        poll.session ≠ i := by
      rintro k r n rfl poll hk
      obtain ⟨poll', hk', hne⟩ := hthrow k r n (List.mem_cons_self _ _)
      obtain ⟨poll'', hk'', hsame⟩ := hkept k poll hk
      rw [hk'] at hk''
      cases hk''
      exact hsame ▸ hne
    obtain ⟨hcalls₁, ss₁, hi₁, ⟨hproj₁, hkeep⟩, hpush⟩ := step_keeps hs.timerInv hstep hthrow₁ hi
    obtain ⟨hcalls, ss', hi', hproj, ⟨P, hP⟩, hdel⟩ := ih (hs.next e hstep) hrun
      (fun k r n hm => hthrow k r n (List.mem_cons_of_mem _ hm)) hi₁
    have hlater : ∀ c, ∀ h ∈ ss.subscribers c, c.off ss.projectId h ∉ e :: es →
        h ∈ ss'.subscribers c ∧ ∀ x ∈ ss'.pushed.drop ss₁.pushed.length,
          ∀ call ∈ c.owed h x, call ∈ s'.calls :=
      fun c h hh hoff => hdel c h
        (hkeep c h hh fun he => hoff (by rw [← he]; exact List.mem_cons_self _ _))
        (by rw [hproj₁]; exact fun hm => hoff (List.mem_cons_of_mem _ hm))
    refine ⟨hcalls₁.trans hcalls, ss', hi', hproj.trans hproj₁, ?_⟩
    rcases hpush with hp | ⟨x, hx, howed⟩
    · rw [hp] at hP hlater
      exact ⟨⟨P, hP⟩, hlater⟩
    · rw [hx] at hP hlater
      refine ⟨⟨x :: P, by rw [← hP, List.append_assoc]; rfl⟩,
        fun c h hh hoff => ⟨(hlater c h hh hoff).1, fun y hy call hcall => ?_⟩⟩
      rw [← hP, List.append_assoc, List.drop_left, List.singleton_append] at hy
      rcases List.mem_cons.mp hy with rfl | hy
      · exact hcalls.subset (howed c h hh call hcall)
      · exact (hlater c h hh hoff).2 y (by rw [← hP, List.drop_left]; exact hy) call hcall

/-- Along every run from a reachable state, a handler in the alert or the snapshot set of a
session is called with every alert, or every snapshot, pushed onto that session during the
run, unless the run calls the function that `onRiskAlert` or `onRiskSnapshot` returned for
it on the session's project, or a handler throws in a poll of that session. Pushes only
extend the session's history, and neither `stopMonitoring`, a restart of the project,
handlers coming and going on other projects, nor other sessions' polls, throwing or not,
make a subscribed handler miss one. -/
theorem subscribed_handlers_get_every_push {s s' : MonitorState} (hs : Reachable s)
    {es : List Event} (hrun : run s es = some s') {i : ℕ} {ss : MonitorSession}
    (hi : s.heap[i]? = some ss)
    (hthrow : ∀ k r n, Event.finishThrowing k r n ∈ es →
      ∃ poll, s'.polls[k]? = some poll ∧ poll.session ≠ i) :
    ∃ ss', s'.heap[i]? = some ss' ∧ ss.pushed <+: ss'.pushed ∧
      (∀ h ∈ ss.alertHandlers, Event.offAlert ss.projectId h ∉ es →
        ∀ x ∈ ss'.pushed.drop ss.pushed.length, ∀ a ∈ x.alerts,
          HandlerCall.alert h a ∈ s'.calls) ∧
      ∀ h ∈ ss.snapshotHandlers, Event.offSnapshot ss.projectId h ∉ es →
        ∀ x ∈ ss'.pushed.drop ss.pushed.length, HandlerCall.snapshot h x ∈ s'.calls := by
  obtain ⟨-, ss', hi', -, hpre, hdel⟩ := run_keeps hs hrun hthrow hi
  exact ⟨ss', hi', hpre,
    fun h hh hoff x hx a ha => (hdel .alerts h hh hoff).2 x hx _ (List.mem_map_of_mem _ ha),
    fun h hh hoff x hx => (hdel .snapshots h hh hoff).2 x hx _ (List.mem_singleton_self _)⟩

/-- A monitor with alert handler 7 and snapshot handler 8. -/
def subscribeTrace : List Event :=
  [.start "solar-grid" 60000, .onAlert "solar-grid" 7, .onSnapshot "solar-grid" 8]

/-- The state `subscribeTrace` reaches. -/
def subscribedState : MonitorState :=
  (run (MonitorState.init 0) subscribeTrace).getD (MonitorState.init 0)

/-- Three polls finish, with scores 70, 55 and 40; the last was in flight when the monitor
was stopped. -/
def deliveryTrace : List Event :=
  [.finish 0 (some (70, .LOW)), .fire 0, .finish 1 (some (55, .MEDIUM)), .fire 0,
   .stop "solar-grid", .finish 2 (some (40, .HIGH))]

/-- The state `deliveryTrace` reaches from `subscribedState`. -/
def deliveredState : MonitorState :=
  (run subscribedState deliveryTrace).getD subscribedState

/-- The session `subscribeTrace` creates. -/
def subscribedSession : MonitorSession := ⟨"solar-grid", 60000, [], true, [7], [8], []⟩

/-- The snapshot handler is called for the three snapshots and the alert handler for the two
drops, the second after `stopMonitoring`. -/
theorem subscribed_handlers_get_every_push_stopped :
    Reachable subscribedState ∧ subscribedState.heap[0]? = some subscribedSession ∧
      deliveredState.calls.map HandlerCall.handler = [8, 7, 8, 7, 8] ∧
      ∃ ss', deliveredState.heap[0]? = some ss' ∧ subscribedSession.pushed <+: ss'.pushed ∧
        (∀ h ∈ subscribedSession.alertHandlers,
          Event.offAlert subscribedSession.projectId h ∉ deliveryTrace →
          ∀ x ∈ ss'.pushed.drop subscribedSession.pushed.length, ∀ a ∈ x.alerts,
            HandlerCall.alert h a ∈ deliveredState.calls) ∧
        ∀ h ∈ subscribedSession.snapshotHandlers,
          Event.offSnapshot subscribedSession.projectId h ∉ deliveryTrace →
          ∀ x ∈ ss'.pushed.drop subscribedSession.pushed.length,
            HandlerCall.snapshot h x ∈ deliveredState.calls :=
  have hs : Reachable subscribedState := (Reachable.init 0).run subscribeTrace rfl
  have hrun : run subscribedState deliveryTrace = some deliveredState := rfl
  have hi : subscribedState.heap[0]? = some subscribedSession := rfl
  ⟨hs, hi, rfl, subscribed_handlers_get_every_push hs hrun hi
    fun k r n h => by simp [deliveryTrace] at h⟩

end NovaFund.Monitor

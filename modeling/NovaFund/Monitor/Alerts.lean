import NovaFund.Monitor.Snapshots
import NovaFund.Pipeline.Cache

/-!
# Alerts, their ids, and handler routing

`runPoll` compares each assessment with the last snapshot of the session it read and
raises at most one alert. Since a session's buffer always ends with the snapshot pushed
last (`Reachable.bufferOk`), every snapshot's alerts are those of the move from the
snapshot pushed just before it onto the same session, whatever the interleaving of polls
and however many snapshots the buffer has dropped. An alert's id,
`${projectId}-${kind}-${now}`, can be read back: it names the alert's project, severity and
millisecond, and nothing else, so two polls finishing in one millisecond can raise alerts
with one id.

Handlers are only ever called for the project they were registered on: a session is
created for one project and keeps it, `onRiskAlert(p, h)` adds `h` to the session `_sessions`
maps `p` to, and a poll's continuation calls the handlers of the session it read with
alerts and a snapshot of that session's project. The invariant is stated over the events
of a run, so the result is that every handler invocation answers an earlier registration
of that handler for that project, even when the session has been stopped since.
-/

namespace NovaFund.Monitor

open NovaFund.Risk (RiskLevel)

/-! ## Alerts -/

/-- The severity of the alert `runPoll` raises when the score moves by `delta`: critical for
a drop of ten points or more, a warning for a drop of five, information for a rise of ten,
and no alert otherwise. -/
def alertSeverity (delta : ℤ) : Option Severity :=
  if delta ≤ -10 then some .CRITICAL
  else if delta ≤ -5 then some .WARNING
  else if 10 ≤ delta then some .INFO
  else none

/-- `runPoll` raises at most one alert, of the severity the score change calls for, naming
the project and both scores. -/
theorem pollAlerts_spec (p : String) (now : ℕ) (prev cur : ℤ) :
    (pollAlerts p now prev cur).map (·.severity) = (alertSeverity (cur - prev)).toList ∧
      ∀ a ∈ pollAlerts p now prev cur,
        a.projectId = p ∧ a.previousScore = prev ∧ a.currentScore = cur := by
  unfold pollAlerts alertSeverity
  dsimp only
  split_ifs <;> simp

@[simp] theorem pollAlerts_self (p : String) (now : ℕ) (score : ℤ) :
    pollAlerts p now score score = [] := by
  simp [pollAlerts]

/-- A snapshot's alerts are the ones `runPoll` raises for the move to its score from the
score its delta was taken from. -/
def MonitoringSnapshot.AlertsOk (x : MonitoringSnapshot) : Prop :=
  x.alerts = pollAlerts x.projectId x.timestamp (x.riskScore - x.deltaFromPrevious) x.riskScore

theorem recordAssessment_pushed (ss : MonitorSession) (p : String) (now : ℕ) (overall : ℤ)
    (level : RiskLevel) :
    ∃ x : MonitoringSnapshot, (recordAssessment ss p now overall level).1.pushed =
      ss.pushed ++ [x] ∧ x.AlertsOk :=
  ⟨_, rfl, by simp only [MonitoringSnapshot.AlertsOk, sub_sub_cancel]⟩

/-- Every snapshot pushed onto a session carries the alerts of its own score change. -/
theorem Reachable.alertsOk {s : MonitorState} (hs : Reachable s) :
    ∀ ss ∈ s.heap, ∀ x ∈ ss.pushed, x.AlertsOk := by
  induction hs with
  | init now => exact fun _ h => absurd h (List.not_mem_nil _)
  | next e _ h ih =>
    intro y hy
    rcases step_heap h hy with ⟨z, hz, -, hp⟩ | ⟨-, hp⟩ | ⟨z, hz, p, now, overall, level, rfl⟩
    · exact hp ▸ ih z hz
    · simp [hp]
    · obtain ⟨x, hx, hok⟩ := recordAssessment_pushed z p now overall level
      intro w hw
      rcases List.mem_append.mp (hx ▸ hw) with hw | hw
      · exact ih z hz w hw
      · exact List.mem_singleton.mp hw ▸ hok

/-- In every interleaving of polls, each snapshot pushed onto a session after the first
raises the alerts of the move from the snapshot pushed just before it: at most one,
critical exactly for a drop of ten points or more, a warning for a drop of five to nine,
information for a rise of ten or more, and carrying both scores. The first snapshot raises
none. -/
theorem alerts_follow_score_change {s : MonitorState} (hs : Reachable s) :
    ∀ ss ∈ s.heap, (∀ x ∈ ss.pushed.head?, x.alerts = []) ∧
      ss.pushed.Chain' (fun a b =>
        b.alerts.map (·.severity) = (alertSeverity (b.riskScore - a.riskScore)).toList ∧
          ∀ al ∈ b.alerts, al.previousScore = a.riskScore ∧ al.currentScore = b.riskScore) := by
  intro ss hss
  have hok := hs.alertsOk ss hss
  obtain ⟨hhead, hchain⟩ := (hs.bufferOk ss hss).deltas
  refine ⟨fun x hx => ?_, (List.Chain'.iff_mem.mp hchain).imp fun a b ⟨_, hb, hd⟩ => ?_⟩
  · rw [hok x (List.mem_of_mem_head? hx), hhead x hx, sub_zero, pollAlerts_self]
  · rw [hok b hb, hd, sub_sub_cancel]
    obtain ⟨hsev, hscores⟩ := pollAlerts_spec b.projectId b.timestamp a.riskScore b.riskScore
    exact ⟨hsev, fun al hal => (hscores al hal).2⟩

/-! ## Alert ids -/

open NovaFund.Pipeline (append_cons_inj_of_not_mem not_mem_repr decimalChainIds)

/-- The kind an alert's id names, by its severity: `drop`, `warn` or `improve`. -/
def Severity.idKind : Severity → String
  | .CRITICAL => "drop"
  | .WARNING => "warn"
  | .INFO => "improve"

theorem Severity.idKind_injective : Function.Injective Severity.idKind := by
  intro a b h
  cases a <;> cases b <;> first | rfl | exact absurd h (by decide)

theorem hyphen_not_mem_idKind (sev : Severity) : '-' ∉ sev.idKind.data := by
  cases sev <;> decide

/-- `runPoll` names an alert `${projectId}-${kind}-${now}`, and the alert carries that
project and time. -/
theorem pollAlerts_id (p : String) (now : ℕ) (prev cur : ℤ) :
    ∀ a ∈ pollAlerts p now prev cur, a.projectId = p ∧ a.timestamp = now ∧
      a.id.data = (p.data ++ '-' :: a.severity.idKind.data) ++ '-' :: (toString now).data := by
  unfold pollAlerts
  dsimp only
  split_ifs <;> intro a ha <;> simp only [List.mem_singleton, List.not_mem_nil] at ha <;>
    subst ha <;> refine ⟨rfl, rfl, ?_⟩ <;> simp only [String.data_append, List.append_assoc] <;>
    rfl

/-- An alert id splits at its last hyphen, since the time is written in decimal digits, and
then at the hyphen before the kind, since no kind has one. -/
theorem alertId_data_inj {p p' : String} {sev sev' : Severity} {n n' : ℕ}
    (h : (p.data ++ '-' :: sev.idKind.data) ++ '-' :: (toString n).data =
      (p'.data ++ '-' :: sev'.idKind.data) ++ '-' :: (toString n').data) :
    p = p' ∧ sev = sev' ∧ n = n' := by
  have hdigit : ∀ k < 10, Nat.digitChar k ≠ '-' := by decide
  obtain ⟨h₁, h₂⟩ := append_cons_inj_of_not_mem (not_mem_repr hdigit n) (not_mem_repr hdigit n') h
  obtain ⟨h₃, h₄⟩ := append_cons_inj_of_not_mem (hyphen_not_mem_idKind sev)
    (hyphen_not_mem_idKind sev') h₁
  exact ⟨String.ext h₃, Severity.idKind_injective (String.ext h₄),
    decimalChainIds.render_injective (String.ext h₂)⟩

/-- In every interleaving of polls, an alert's id gives back its project, its severity and
the millisecond it was raised in: two alerts of snapshots pushed onto any sessions that
share an id were raised for the same project, with the same severity, at the same time.
Nothing else is in the id, so polls of one project that finish in the same millisecond
can raise different alerts with one id. -/
theorem alert_id_identifies_project_severity_time {s : MonitorState} (hs : Reachable s) :
    ∀ ss ∈ s.heap, ∀ x ∈ ss.pushed, ∀ a ∈ x.alerts, ∀ ss' ∈ s.heap, ∀ y ∈ ss'.pushed,
      ∀ b ∈ y.alerts, a.id = b.id →
        a.projectId = b.projectId ∧ a.severity = b.severity ∧ a.timestamp = b.timestamp := by
  intro ss hss x hx a ha ss' hss' y hy b hb hid
  rw [hs.alertsOk ss hss x hx] at ha
  rw [hs.alertsOk ss' hss' y hy] at hb
  obtain ⟨hpa, hta, hda⟩ := pollAlerts_id _ _ _ _ a ha
  obtain ⟨hpb, htb, hdb⟩ := pollAlerts_id _ _ _ _ b hb
  have h := congrArg String.data hid
  rw [hda, hdb] at h
  obtain ⟨hp, hsev, ht⟩ := alertId_data_inj h
  exact ⟨hpa.trans (hp.trans hpb.symm), hsev, hta.trans (ht.trans htb.symm)⟩

/-- A monitor whose timer fires twice before the first of the two polls returns: both
polls finish in the same millisecond, each with a drop of 15 points. -/
def burstTrace : List Event :=
  [.start "solar-grid" 60000, .finish 0 (some (70, .LOW)), .fire 0, .fire 0,
   .finish 1 (some (55, .MEDIUM)), .finish 2 (some (40, .HIGH))]

/-- The state `burstTrace` reaches. -/
def burstState : MonitorState :=
  (run (MonitorState.init 0) burstTrace).getD (MonitorState.init 0)

theorem burstState_reachable : Reachable burstState :=
  (Reachable.init 0).run burstTrace rfl

/-- In `burstTrace` the two critical alerts, one for the move to 55 and one for the move
to 40, share the id `solar-grid-drop-0`. -/
theorem alert_id_identifies_project_severity_time_burst :
    ((burstState.heap.flatMap (·.pushed)).flatMap (·.alerts)).map
        (fun a => (a.id, a.currentScore)) =
      [("solar-grid-drop-0", 55), ("solar-grid-drop-0", 40)] ∧
      ∀ ss ∈ burstState.heap, ∀ x ∈ ss.pushed, ∀ a ∈ x.alerts, ∀ ss' ∈ burstState.heap,
        ∀ y ∈ ss'.pushed, ∀ b ∈ y.alerts, a.id = b.id →
          a.projectId = b.projectId ∧ a.severity = b.severity ∧ a.timestamp = b.timestamp :=
  ⟨rfl, alert_id_identifies_project_severity_time burstState_reachable⟩

/-! ## Handler routing -/

/-- The registration a handler call answers: `onRiskAlert` or `onRiskSnapshot` of the
handler, for the project of the alert or snapshot it passed. -/
def HandlerCall.subscription : HandlerCall → Event
  | .alert h a => .onAlert a.projectId h
  | .snapshot h snap => .onSnapshot snap.projectId h

/-- A session of project `p` lives at address `i`. -/
def Addressed (heap : List MonitorSession) (p : String) (i : ℕ) : Prop :=
  ∃ ss, heap[i]? = some ss ∧ ss.projectId = p

/-- Every handler of a session was registered, in `hist`, for the session's project. -/
def Subscribed (hist : List Event) (ss : MonitorSession) : Prop :=
  (∀ h ∈ ss.alertHandlers, .onAlert ss.projectId h ∈ hist) ∧
    ∀ h ∈ ss.snapshotHandlers, .onSnapshot ss.projectId h ∈ hist

/-- The routing invariant after the events `hist`: `_sessions` and the polls in flight
address sessions of their own project, every handler was registered for its session's
project, and every handler call answers a registration. -/
structure RoutingInv (hist : List Event) (s : MonitorState) : Prop where
  sessions : ∀ e ∈ s.sessions, Addressed s.heap e.1 e.2
  polls : ∀ poll ∈ s.polls, Addressed s.heap poll.projectId poll.session
  heap : ∀ ss ∈ s.heap, Subscribed hist ss
  calls : ∀ c ∈ s.calls, c.subscription ∈ hist

theorem mem_of_lookup {l : List (String × ℕ)} {p : String} {i : ℕ} (h : l.lookup p = some i) :
    (p, i) ∈ l := by
  obtain ⟨l₁, l₂, rfl, -⟩ := List.lookup_eq_some_iff.mp h
  simp

theorem mem_setAdd {xs : List ℕ} {x y : ℕ} (h : y ∈ setAdd xs x) : y ∈ xs ∨ y = x := by
  unfold setAdd at h
  split at h
  · exact .inl h
  · simpa using h

theorem Subscribed.mono {hist hist' : List Event} (hh : hist ⊆ hist') {ss : MonitorSession}
    (h : Subscribed hist ss) : Subscribed hist' ss :=
  ⟨fun x hx => hh (h.1 x hx), fun x hx => hh (h.2 x hx)⟩

theorem RoutingInv.mono {hist hist' : List Event} (hh : hist ⊆ hist') {s : MonitorState}
    (h : RoutingInv hist s) : RoutingInv hist' s :=
  ⟨h.sessions, h.polls, fun ss hss => (h.heap ss hss).mono hh, fun c hc => hh (h.calls c hc)⟩

theorem RoutingInv.init (now : ℕ) : RoutingInv [] (MonitorState.init now) :=
  ⟨nofun, nofun, nofun, nofun⟩

section Steps

variable {hist : List Event} {s : MonitorState}

/-- Changing the heap so that every old address keeps a session of the same project. -/
theorem RoutingInv.reheap (h : RoutingInv hist s) {heap : List MonitorSession}
    (hkeep : ∀ i p, Addressed s.heap p i → Addressed heap p i)
    (hsub : ∀ ss ∈ heap, Subscribed hist ss) : RoutingInv hist { s with heap := heap } :=
  ⟨fun e he => hkeep _ _ (h.sessions e he), fun poll hp => hkeep _ _ (h.polls poll hp),
    hsub, h.calls⟩

theorem addressed_modify {f : MonitorSession → MonitorSession}
    (hf : ∀ ss, (f ss).projectId = ss.projectId) (n : ℕ) {heap : List MonitorSession}
    {p : String} {i : ℕ} (h : Addressed heap p i) : Addressed (heap.modify f n) p i := by
  obtain ⟨ss, hss, rfl⟩ := h
  rw [Addressed, List.getElem?_modify, hss]
  split_ifs
  · exact ⟨f ss, rfl, hf ss⟩
  · exact ⟨ss, rfl, rfl⟩

/-- Modifying the session registered for a project, keeping its project and giving it
only handlers registered for it. -/
theorem RoutingInv.modify (h : RoutingInv hist s) {i : ℕ} {p : String}
    (hi : Addressed s.heap p i) {f : MonitorSession → MonitorSession}
    (hf : ∀ ss, (f ss).projectId = ss.projectId)
    (hsub : ∀ ss, ss.projectId = p → Subscribed hist ss → Subscribed hist (f ss)) :
    RoutingInv hist { s with heap := s.heap.modify f i } := by
  refine h.reheap (fun _ _ => addressed_modify hf i) fun x hx => ?_
  rcases mem_modify_at hx with hx | ⟨y, hy, rfl⟩
  · exact h.heap x hx
  · obtain ⟨ss, hss, hp⟩ := hi
    obtain rfl : y = ss := Option.some.inj (hy.symm.trans hss)
    exact hsub y hp (h.heap y (List.getElem?_mem hy))

theorem RoutingInv.pollStart (h : RoutingInv hist s) (p : String) :
    RoutingInv hist (pollStart s p) := by
  unfold NovaFund.Monitor.pollStart
  split
  · case h_1 i hi =>
    refine ⟨h.sessions, fun poll hp => ?_, h.heap, h.calls⟩
    rcases List.mem_append.mp hp with hp | hp
    · exact h.polls poll hp
    · obtain rfl := List.mem_singleton.mp hp
      exact h.sessions _ (mem_of_lookup hi)
  · exact h

theorem RoutingInv.startMonitoring (h : RoutingInv hist s) (p : String) (intervalMs : ℕ) :
    RoutingInv hist (startMonitoring s p intervalMs) := by
  unfold NovaFund.Monitor.startMonitoring
  split
  · exact h
  · have hkeep : ∀ i q, Addressed s.heap q i →
        Addressed (s.heap ++ [⟨p, intervalMs, [], true, [], [], []⟩]) q i :=
      fun i q ⟨ss, hss, hq⟩ =>
        ⟨ss, by rw [List.getElem?_append_left (List.getElem?_eq_some_iff.mp hss).1, hss], hq⟩
    apply RoutingInv.pollStart
    refine ⟨fun e he => ?_, fun poll hp => hkeep _ _ (h.polls poll hp), fun ss hss => ?_,
      h.calls⟩
    · rcases List.mem_append.mp he with he | he
      · exact hkeep _ _ (h.sessions e he)
      · obtain rfl := List.mem_singleton.mp he
        exact ⟨_, List.getElem?_concat_length _ _, rfl⟩
    · rcases List.mem_append.mp hss with hss | hss
      · exact h.heap ss hss
      · obtain rfl := List.mem_singleton.mp hss
        exact ⟨nofun, nofun⟩

theorem RoutingInv.stopMonitoring (h : RoutingInv hist s) (p : String) :
    RoutingInv hist (stopMonitoring s p) := by
  unfold NovaFund.Monitor.stopMonitoring
  split
  · case h_1 i hi =>
    have h' := h.modify (h.sessions _ (mem_of_lookup hi))
      (f := fun ss => { ss with armed := false }) (fun _ => rfl) (fun _ _ hs => hs)
    exact ⟨fun e he => h'.sessions e (List.mem_of_mem_filter he), h'.polls, h'.heap, h'.calls⟩
  · exact h

/-- A handler change of the session registered for `p`, whose new handlers were all there
before or registered for `p` in `hist`. -/
theorem RoutingInv.updateCurrent (h : RoutingInv hist s) {p : String}
    {f : MonitorSession → MonitorSession} (hf : ∀ ss, (f ss).projectId = ss.projectId)
    (hsub : ∀ ss, ss.projectId = p → Subscribed hist ss → Subscribed hist (f ss)) :
    RoutingInv hist (s.updateCurrent p f) := by
  unfold MonitorState.updateCurrent
  split
  · case h_1 i hi => exact h.modify (h.sessions _ (mem_of_lookup hi)) hf hsub
  · exact h

/-- The calls a recorded assessment makes pass alerts and a snapshot of project `p` to the
session's own handlers. -/
theorem recordAssessment_calls (ss : MonitorSession) (p : String) (now : ℕ) (overall : ℤ)
    (level : RiskLevel) :
    ∀ c ∈ (recordAssessment ss p now overall level).2,
      (c.subscription = .onAlert p c.handler ∧ c.handler ∈ ss.alertHandlers) ∨
        (c.subscription = .onSnapshot p c.handler ∧ c.handler ∈ ss.snapshotHandlers) := by
  intro c hc
  simp only [recordAssessment, List.mem_append, List.mem_flatMap, List.mem_map] at hc
  rcases hc with ⟨a, ha, h, hh, rfl⟩ | ⟨h, hh, rfl⟩
  · exact .inl ⟨by rw [HandlerCall.subscription, ((pollAlerts_spec ..).2 a ha).1]; rfl, hh⟩
  · exact .inr ⟨rfl, hh⟩

theorem RoutingInv.finishPoll (h : RoutingInv hist s) {k : ℕ} {poll : Poll}
    (hk : s.polls[k]? = some poll) (r : Option (ℤ × RiskLevel)) :
    RoutingInv hist (finishPoll s k poll r) := by
  have hpoll := h.polls poll (List.getElem?_mem hk)
  have hpolls : ∀ q ∈ s.polls.set k { poll with pending := false },
      Addressed s.heap q.projectId q.session := fun q hq => by
    rcases List.mem_or_eq_of_mem_set hq with hq | rfl
    · exact h.polls q hq
    · exact hpoll
  unfold NovaFund.Monitor.finishPoll
  split
  · exact ⟨h.sessions, hpolls, h.heap, h.calls⟩
  · split
    · rename_i overall level _ ss hss
      obtain ⟨ss', hss', hp⟩ := hpoll
      obtain rfl : ss = ss' := Option.some.inj (hss.symm.trans hss')
      have hkeep : ∀ i q, Addressed s.heap q i →
          Addressed (s.heap.set poll.session
            (recordAssessment ss poll.projectId s.now overall level).1) q i := by
        rintro i q ⟨x, hx, rfl⟩
        rw [Addressed, List.getElem?_set]
        split_ifs with hi hlt
        · subst hi
          exact ⟨_, rfl, Option.some.inj (hss.symm.trans hx) ▸ rfl⟩
        · exact absurd (List.getElem?_eq_some_iff.mp hx).1 (hi ▸ hlt)
        · exact ⟨x, hx, rfl⟩
      have hsub := h.heap ss (List.getElem?_mem hss)
      refine ⟨fun e he => hkeep _ _ (h.sessions e he), fun q hq => hkeep _ _ (hpolls q hq),
        fun x hx => ?_, fun c hc => ?_⟩
      · rcases List.mem_or_eq_of_mem_set hx with hx | rfl
        · exact h.heap x hx
        · exact hsub
      · rcases List.mem_append.mp hc with hc | hc
        · exact h.calls c hc
        · rcases recordAssessment_calls ss poll.projectId s.now overall level c hc with
            ⟨hc, hh⟩ | ⟨hc, hh⟩
          · exact hc ▸ hp ▸ hsub.1 _ hh
          · exact hc ▸ hp ▸ hsub.2 _ hh
    · exact ⟨h.sessions, hpolls, h.heap, h.calls⟩

/-- A continuation whose handler throws makes only some of the calls a normal one makes. -/
theorem RoutingInv.throwPoll (h : RoutingInv hist s) {k : ℕ} {poll : Poll}
    (hk : s.polls[k]? = some poll) (r : ℤ × RiskLevel) (n : ℕ) :
    RoutingInv hist (throwPoll s k poll r n) := by
  obtain ⟨new, hnew, hthrow⟩ := throwPoll_eq s k poll r n
  have h' := h.finishPoll hk (some r)
  rw [hthrow]
  refine ⟨h'.sessions, h'.polls, h'.heap, fun c hc => ?_⟩
  rcases List.mem_append.mp hc with hc | hc
  · exact h.calls c hc
  · exact h'.calls c (by rw [hnew]; exact List.mem_append_right _ (List.mem_of_mem_take hc))

end Steps

/-- One step keeps the routing invariant, with the step's event added to the history. -/
theorem RoutingInv.step {hist : List Event} {s s' : MonitorState} {e : Event}
    (h : RoutingInv hist s) (hstep : step s e = some s') : RoutingInv (hist ++ [e]) s' := by
  have h' := h.mono (List.subset_append_left hist [e])
  have hnew : e ∈ hist ++ [e] := List.mem_append_right hist (List.mem_singleton_self e)
  cases e with
  | start p ι =>
    cases Option.some.inj hstep
    exact h'.startMonitoring p ι
  | stop p =>
    cases Option.some.inj hstep
    exact h'.stopMonitoring p
  | onAlert p x =>
    cases Option.some.inj hstep
    refine h'.updateCurrent (fun _ => rfl) fun ss hp hs => ⟨fun y hy => ?_, hs.2⟩
    rcases mem_setAdd hy with hy | rfl
    · exact hs.1 y hy
    · exact hp ▸ hnew
  | onSnapshot p x =>
    cases Option.some.inj hstep
    refine h'.updateCurrent (fun _ => rfl) fun ss hp hs => ⟨hs.1, fun y hy => ?_⟩
    rcases mem_setAdd hy with hy | rfl
    · exact hs.2 y hy
    · exact hp ▸ hnew
  | offAlert p x =>
    cases Option.some.inj hstep
    exact h'.updateCurrent (fun _ => rfl) fun _ _ hs =>
      ⟨fun y hy => hs.1 y (List.mem_of_mem_erase hy), hs.2⟩
  | offSnapshot p x =>
    cases Option.some.inj hstep
    exact h'.updateCurrent (fun _ => rfl) fun _ _ hs =>
      ⟨hs.1, fun y hy => hs.2 y (List.mem_of_mem_erase hy)⟩
  | fire i =>
    obtain ⟨ss, -, -, rfl⟩ := step_fire hstep
    exact h'.pollStart _
  | finish k r =>
    obtain ⟨poll, hk, -, rfl⟩ := step_finish hstep
    exact h'.finishPoll hk r
  | finishThrowing k r n =>
    obtain ⟨poll, hk, -, rfl⟩ := step_finishThrowing hstep
    exact h'.throwPoll hk r n
  | advance ms =>
    cases Option.some.inj hstep
    exact ⟨h'.sessions, h'.polls, h'.heap, h'.calls⟩

theorem RoutingInv.run {hist : List Event} {s s' : MonitorState} (h : RoutingInv hist s) :
    ∀ es : List Event, run s es = some s' → RoutingInv (hist ++ es) s'
  | [], hrun => by
    rw [List.append_nil]
    exact Option.some.inj hrun ▸ h
  | e :: es, hrun => by
    obtain ⟨s₁, h₁, hrun⟩ := Option.bind_eq_some.mp hrun
    simpa using (h.step h₁).run es hrun

/-- In every run of the monitor, each handler call answers an earlier registration of that
handler for the project of the alert or snapshot it passes: no handler hears about a
project it was not registered on, in any interleaving of polls, stops and restarts. -/
theorem handlers_called_only_after_subscribing {now : ℕ} {es : List Event} {s : MonitorState}
    (hrun : run (MonitorState.init now) es = some s) : ∀ c ∈ s.calls, c.subscription ∈ es :=
  ((RoutingInv.init now).run es hrun).calls

/-! ## A monitor whose score drops -/

/-- A monitor with a snapshot handler and an alert handler, whose second poll scores 15
points below its first. -/
def dropTrace : List Event :=
  [.start "solar-grid" 60000, .onSnapshot "solar-grid" 0, .onAlert "solar-grid" 1,
    .finish 0 (some (70, .LOW)), .fire 0, .finish 1 (some (55, .MEDIUM))]

/-- The state `dropTrace` reaches. -/
def droppedState : MonitorState :=
  (run (MonitorState.init 0) dropTrace).getD (MonitorState.init 0)

/-- The drop raises one critical alert, after a first snapshot that raised none. -/
theorem alerts_follow_score_change_dropped :
    ∃ ss ∈ droppedState.heap,
      ss.pushed.map (fun x => (x.riskScore, x.alerts.map (·.severity))) =
        [(70, []), (55, [.CRITICAL])] ∧
      (∀ x ∈ ss.pushed.head?, x.alerts = []) ∧
      ss.pushed.Chain' (fun a b =>
        b.alerts.map (·.severity) = (alertSeverity (b.riskScore - a.riskScore)).toList ∧
          ∀ al ∈ b.alerts, al.previousScore = a.riskScore ∧ al.currentScore = b.riskScore) := by
  have hm : _ ∈ droppedState.heap := List.mem_singleton_self _
  exact ⟨_, hm, rfl,
    alerts_follow_score_change ((Reachable.init 0).run dropTrace rfl) _ hm⟩

/-- The three handler calls of `dropTrace` answer its two registrations. -/
theorem handlers_called_only_after_subscribing_dropped :
    droppedState.calls.map HandlerCall.subscription =
        [.onSnapshot "solar-grid" 0, .onAlert "solar-grid" 1, .onSnapshot "solar-grid" 0] ∧
      ∀ c ∈ droppedState.calls, c.subscription ∈ dropTrace :=
  ⟨rfl, handlers_called_only_after_subscribing
    (show run (MonitorState.init 0) dropTrace = some droppedState from rfl)⟩

end NovaFund.Monitor

import NovaFund.Risk.Score

/-!
# The real-time risk monitor

`startMonitoring(projectId)` creates a `MonitorSession`, registers it in `_sessions`, arms
an interval timer that calls `runPoll(projectId)`, and polls once at once.
`stopMonitoring` disarms the timer and removes the session from `_sessions`;
`onRiskAlert` and `onRiskSnapshot` add handlers to the current session, and the functions
they return remove them from whatever session is current when called
(`risk-engine.ts`, "Real-Time Risk Monitor").

`runPoll` is cut at its `await`. Its start reads the session from `_sessions` and calls
`assessProject`; its continuation, when the assessment resolves, works on the session
object it read, whether or not that session is still registered. The start also calls
`invalidateCache`, whose effect on the cache `NovaFund.Pipeline` models.

Sessions are objects: the state keeps every session ever created in `heap`, addressed by
allocation order, and `_sessions` maps a project to an address. Handlers are functions,
compared by identity; here each has a number. Two parts of the state are ghost: the
handler invocations made so far, and every snapshot pushed onto each session. Handlers
are taken not to call back into the monitor.
-/

namespace NovaFund.Monitor

open NovaFund.Risk (RiskLevel)

/-- `RiskAlert["severity"]`. -/
inductive Severity
  | INFO | WARNING | CRITICAL
  deriving DecidableEq, Repr

/-- `RiskAlert`. -/
structure RiskAlert where
  id : String
  projectId : String
  timestamp : ℕ
  severity : Severity
  type : String
  message : String
  previousScore : ℤ
  currentScore : ℤ
  deriving DecidableEq, Repr

/-- `MonitoringSnapshot["trendDirection"]`. -/
inductive Trend
  | IMPROVING | DECLINING | STABLE
  deriving DecidableEq, Repr

/-- `MonitoringSnapshot`. `deltaFromPrevious` is optional in the type; `runPoll`, the only
function that builds snapshots, always sets it. -/
structure MonitoringSnapshot where
  projectId : String
  timestamp : ℕ
  riskScore : ℤ
  riskLevel : RiskLevel
  alerts : List RiskAlert
  deltaFromPrevious : ℤ
  trendDirection : Trend
  deriving DecidableEq, Repr

/-- `array.slice(start)` for an integer `start`: a negative start counts back from the
end, and `-0` is `0`. -/
def sliceFrom {α : Type} (xs : List α) (start : ℤ) : List α :=
  if start < 0 then xs.drop (xs.length - start.natAbs) else xs.drop start.toNat

/-- `detectTrend`: the change over the last five snapshots, once there are three. -/
def detectTrend (snapshots : List MonitoringSnapshot) : Trend :=
  if snapshots.length < 3 then .STABLE
  else
    let recent := sliceFrom snapshots (-5)
    -- `recent` has at least three elements, so the defaults are never read
    let delta := (recent.getLast?.map (·.riskScore)).getD 0 -
      (recent.head?.map (·.riskScore)).getD 0
    if |delta| < 2 then .STABLE else if 0 < delta then .IMPROVING else .DECLINING

/-- `x.toFixed(1)` for an integer `x`. -/
def toFixed1 (x : ℤ) : String := toString x ++ ".0"

/-- The alerts `runPoll` raises for a move from `prevScore` to `currentScore` at time
`now`: a drop of ten points or more is critical, one of five a warning, and a rise of ten
an improvement. -/
def pollAlerts (projectId : String) (now : ℕ) (prevScore currentScore : ℤ) : List RiskAlert :=
  let delta := currentScore - prevScore
  if delta ≤ -10 then
    [⟨projectId ++ "-drop-" ++ toString now, projectId, now, .CRITICAL, "SCORE_DROP",
      "Risk score dropped " ++ toFixed1 |delta| ++ " pts (" ++ toString prevScore ++ " → " ++
        toString currentScore ++ "). Immediate review recommended.",
      prevScore, currentScore⟩]
  else if delta ≤ -5 then
    [⟨projectId ++ "-warn-" ++ toString now, projectId, now, .WARNING, "SCORE_DROP",
      "Risk score declined " ++ toFixed1 |delta| ++ " pts (" ++ toString prevScore ++ " → " ++
        toString currentScore ++ ").",
      prevScore, currentScore⟩]
  else if 10 ≤ delta then
    [⟨projectId ++ "-improve-" ++ toString now, projectId, now, .INFO, "SCORE_IMPROVEMENT",
      "Risk score improved " ++ toFixed1 delta ++ " pts (" ++ toString prevScore ++ " → " ++
        toString currentScore ++ ").",
      prevScore, currentScore⟩]
  else []

/-- `MonitorSession`, with the snapshots pushed onto it so far (ghost). `armed` is whether
the interval timer in `handle` is still set; a `Set` of handlers is a list without
repetitions, in insertion order. -/
structure MonitorSession where
  projectId : String
  intervalMs : ℕ
  snapshots : List MonitoringSnapshot
  armed : Bool
  alertHandlers : List ℕ
  snapshotHandlers : List ℕ
  pushed : List MonitoringSnapshot

/-- A handler invocation. -/
inductive HandlerCall
  | alert (handler : ℕ) (alert : RiskAlert)
  | snapshot (handler : ℕ) (snapshot : MonitoringSnapshot)
  deriving DecidableEq

/-- The handler a call invoked. -/
def HandlerCall.handler : HandlerCall → ℕ
  | .alert h _ => h
  | .snapshot h _ => h

/-- The project of the alert or snapshot a call passed. -/
def HandlerCall.projectId : HandlerCall → String
  | .alert _ a => a.projectId
  | .snapshot _ snap => snap.projectId

/-- A `runPoll(projectId)` waiting for `assessProject`, with the session it read. -/
structure Poll where
  projectId : String
  session : ℕ
  pending : Bool

/-- The monitor's state; `calls` is ghost state. -/
structure MonitorState where
  now : ℕ
  heap : List MonitorSession
  /-- `_sessions`. -/
  sessions : List (String × ℕ)
  polls : List Poll
  calls : List HandlerCall

/-- No session yet. -/
def MonitorState.init (now : ℕ) : MonitorState := ⟨now, [], [], [], []⟩

/-- What can happen next. `offAlert p h` and `offSnapshot p h` call the function that
`onRiskAlert(p, h)` or `onRiskSnapshot(p, h)` returned; `fire i` is a tick of session
`i`'s interval timer; `finish k r` resumes poll `k` with `assessProject`'s result, of which
`runPoll` reads the overall score and the level. `finishThrowing k r n` resumes poll `k`
with the assessment `r` where the handler invoked by the `n`-th handler call throws. -/
inductive Event
  | start (projectId : String) (intervalMs : ℕ)
  | stop (projectId : String)
  | onAlert (projectId : String) (handler : ℕ)
  | onSnapshot (projectId : String) (handler : ℕ)
  | offAlert (projectId : String) (handler : ℕ)
  | offSnapshot (projectId : String) (handler : ℕ)
  | fire (session : ℕ)
  | finish (poll : ℕ) (result : Option (ℤ × RiskLevel))
  | finishThrowing (poll : ℕ) (result : ℤ × RiskLevel) (call : ℕ)
  | advance (ms : ℕ)

/-- `Set.prototype.add`. -/
def setAdd (xs : List ℕ) (x : ℕ) : List ℕ := if x ∈ xs then xs else xs ++ [x]

/-- The start of `runPoll(projectId)`: with a session registered it awaits
`assessProject`; without one it returns. -/
def pollStart (s : MonitorState) (p : String) : MonitorState :=
  match s.sessions.lookup p with
  | some i => { s with polls := s.polls ++ [⟨p, i, true⟩] }
  | none => s

/-- `startMonitoring(projectId, intervalMs)`. -/
def startMonitoring (s : MonitorState) (p : String) (intervalMs : ℕ) : MonitorState :=
  if (s.sessions.lookup p).isSome then s
  else
    pollStart { s with
      heap := s.heap ++ [⟨p, intervalMs, [], true, [], [], []⟩]
      sessions := s.sessions ++ [(p, s.heap.length)] } p

/-- Apply `f` to the session registered for `p`, if any. -/
def MonitorState.updateCurrent (s : MonitorState) (p : String)
    (f : MonitorSession → MonitorSession) : MonitorState :=
  match s.sessions.lookup p with
  | some i => { s with heap := s.heap.modify f i }
  | none => s

/-- `stopMonitoring(projectId)`. -/
def stopMonitoring (s : MonitorState) (p : String) : MonitorState :=
  match s.sessions.lookup p with
  | some i =>
    { s with
      heap := s.heap.modify (fun ss => { ss with armed := false }) i
      sessions := s.sessions.filter (fun e => e.1 ≠ p) }
  | none => s

/-- The continuation of `runPoll(projectId)` on session `ss` once `assessProject` resolved
with an assessment: the new snapshot goes last, the oldest is dropped beyond 100, and the
alert handlers, then the snapshot handlers, are called. -/
def recordAssessment (ss : MonitorSession) (p : String) (now : ℕ) (overall : ℤ)
    (level : RiskLevel) : MonitorSession × List HandlerCall :=
  let prevScore := (ss.snapshots.getLast?.map (·.riskScore)).getD overall
  let alerts := pollAlerts p now prevScore overall
  let snapshot : MonitoringSnapshot :=
    ⟨p, now, overall, level, alerts, overall - prevScore, detectTrend ss.snapshots⟩
  let snapshots := ss.snapshots ++ [snapshot]
  ({ ss with
      snapshots := if 100 < snapshots.length then snapshots.tail else snapshots
      pushed := ss.pushed ++ [snapshot] },
    alerts.flatMap (fun a => ss.alertHandlers.map (.alert · a)) ++
      ss.snapshotHandlers.map (.snapshot · snapshot))

/-- Resume poll `k` with `assessProject`'s result. -/
def finishPoll (s : MonitorState) (k : ℕ) (poll : Poll) :
    Option (ℤ × RiskLevel) → MonitorState
  | none => { s with polls := s.polls.set k { poll with pending := false } }
  | some (overall, level) =>
    match s.heap[poll.session]? with
    | some ss =>
      let r := recordAssessment ss poll.projectId s.now overall level
      { s with
        polls := s.polls.set k { poll with pending := false }
        heap := s.heap.set poll.session r.1
        calls := s.calls ++ r.2 }
    | none => { s with polls := s.polls.set k { poll with pending := false } }

/-- Resume poll `k` with an assessment where the handler of the `n`-th handler call throws.
The snapshot is pushed and the calls up to that one made; the exception leaves the nested
`forEach` calls and rejects the promise of `runPoll`, so the later calls are skipped. -/
def throwPoll (s : MonitorState) (k : ℕ) (poll : Poll) (result : ℤ × RiskLevel) (n : ℕ) :
    MonitorState :=
  match s.heap[poll.session]? with
  | some ss =>
    let r := recordAssessment ss poll.projectId s.now result.1 result.2
    { s with
      polls := s.polls.set k { poll with pending := false }
      heap := s.heap.set poll.session r.1
      calls := s.calls ++ r.2.take (n + 1) }
  | none => { s with polls := s.polls.set k { poll with pending := false } }

/-- One step of the monitor, `none` when the event is not enabled. -/
def step (s : MonitorState) : Event → Option MonitorState
  | .start p intervalMs => some (startMonitoring s p intervalMs)
  | .stop p => some (stopMonitoring s p)
  | .onAlert p h => some (s.updateCurrent p fun ss =>
      { ss with alertHandlers := setAdd ss.alertHandlers h })
  | .onSnapshot p h => some (s.updateCurrent p fun ss =>
      { ss with snapshotHandlers := setAdd ss.snapshotHandlers h })
  | .offAlert p h => some (s.updateCurrent p fun ss =>
      { ss with alertHandlers := ss.alertHandlers.erase h })
  | .offSnapshot p h => some (s.updateCurrent p fun ss =>
      { ss with snapshotHandlers := ss.snapshotHandlers.erase h })
  | .fire i =>
    match s.heap[i]? with
    | some ss => if ss.armed then some (pollStart s ss.projectId) else none
    | none => none
  | .finish k r =>
    match s.polls[k]? with
    | some poll => if poll.pending then some (finishPoll s k poll r) else none
    | none => none
  | .finishThrowing k r n =>
    match s.polls[k]? with
    | some poll => if poll.pending then some (throwPoll s k poll r n) else none
    | none => none
  | .advance ms => some { s with now := s.now + ms }

/-- A timer tick is enabled only for an armed session, and starts a poll of its project. -/
theorem step_fire {s s' : MonitorState} {i : ℕ} (h : step s (.fire i) = some s') :
    ∃ ss, s.heap[i]? = some ss ∧ ss.armed = true ∧ s' = pollStart s ss.projectId := by
  cases hss : s.heap[i]? with
  | none => simp [step, hss] at h
  | some ss =>
    by_cases ha : ss.armed <;> simp [step, hss, ha] at h
    exact ⟨ss, rfl, ha, h.symm⟩

/-- A continuation is enabled only for a poll still pending, and resumes it. -/
theorem step_finish {s s' : MonitorState} {k : ℕ} {r : Option (ℤ × RiskLevel)}
    (h : step s (.finish k r) = some s') :
    ∃ poll, s.polls[k]? = some poll ∧ poll.pending = true ∧ s' = finishPoll s k poll r := by
  cases hk : s.polls[k]? with
  | none => simp [step, hk] at h
  | some poll =>
    by_cases hp : poll.pending <;> simp [step, hk, hp] at h
    exact ⟨poll, rfl, hp, h.symm⟩

/-- A throwing continuation is enabled only for a poll still pending, and resumes it. -/
theorem step_finishThrowing {s s' : MonitorState} {k n : ℕ} {r : ℤ × RiskLevel}
    (h : step s (.finishThrowing k r n) = some s') :
    ∃ poll, s.polls[k]? = some poll ∧ poll.pending = true ∧ s' = throwPoll s k poll r n := by
  cases hk : s.polls[k]? with
  | none => simp [step, hk] at h
  | some poll =>
    by_cases hp : poll.pending <;> simp [step, hk, hp] at h
    exact ⟨poll, rfl, hp, h.symm⟩

/-- A throwing continuation does what the normal one does, but makes only the first of its
handler calls, up to the one that throws. -/
theorem throwPoll_eq (s : MonitorState) (k : ℕ) (poll : Poll) (r : ℤ × RiskLevel) (n : ℕ) :
    ∃ new, (finishPoll s k poll (some r)).calls = s.calls ++ new ∧
      throwPoll s k poll r n = { finishPoll s k poll (some r) with
        calls := s.calls ++ new.take (n + 1) } := by
  obtain ⟨overall, level⟩ := r
  simp only [throwPoll, finishPoll]
  cases s.heap[poll.session]? with
  | some ss => exact ⟨_, rfl, rfl⟩
  | none => exact ⟨[], by simp, by simp⟩

/-- Runs a sequence of events, `none` if one of them is not enabled. -/
def run (s : MonitorState) : List Event → Option MonitorState
  | [] => some s
  | e :: es => (step s e).bind (fun s' => run s' es)

/-- The states some interleaving reaches from a freshly loaded module. -/
inductive Reachable : MonitorState → Prop
  | init (now : ℕ) : Reachable (MonitorState.init now)
  | next {s s' : MonitorState} (e : Event) : Reachable s → step s e = some s' → Reachable s'

theorem Reachable.run {s s' : MonitorState} (hs : Reachable s) :
    ∀ es : List Event, run s es = some s' → Reachable s'
  | [], h => Option.some.inj h ▸ hs
  | e :: es, h => by
    obtain ⟨s₁, h₁, h⟩ := Option.bind_eq_some.mp h
    exact (hs.next e h₁).run es h

/-- `_sessions.get(projectId)?.snapshots ?? []`. -/
def currentSnapshots (s : MonitorState) (p : String) : List MonitoringSnapshot :=
  (((s.sessions.lookup p).bind (fun i => s.heap[i]?)).map (·.snapshots)).getD []

/-- `getRecentSnapshots(projectId, limit)` for an integer `limit ≥ 0`. -/
def getRecentSnapshots (s : MonitorState) (p : String) (limit : ℕ) :
    List MonitoringSnapshot :=
  sliceFrom (currentSnapshots s p) (-(limit : ℤ))

end NovaFund.Monitor

import NovaFund.Backend.Database

/-!
# Retrying failed e-mails

`EmailRetryTask.handleCron` takes a snapshot of up to 50 FAILED outbox rows with fewer
than `MAX_ATTEMPTS` attempts, then for each row hands the message to `sgMail.send` and
writes the row: SENT with one more attempt, or one more attempt and the error
(`email-retry.task.ts`). Each step of a run is separate, so the steps of overlapping runs
(a slow run still going when the cron fires again, or another backend instance)
interleave with each other and with `EmailService.sendEmail` storing new FAILED rows.

The writes use the snapshot's copy of the row, so two runs whose snapshots share a row
both send it, the second possibly after the first marked it SENT, and both write the same
attempt count: overlapping runs send a row any number of times, up to the number of runs
begun, since each run sends a row of its snapshot at most once. When runs do not overlap
(`SeqReachable`), the snapshot of the running run is current for every row it has yet to
process, and each row is sent at most `MAX_ATTEMPTS` times, never once it is SENT.
-/

namespace NovaFund.Backend

/-- `MAX_ATTEMPTS`. -/
def MAX_ATTEMPTS : ℕ := 3

/-- The `findMany` of a run: the first 50 FAILED rows with fewer than `MAX_ATTEMPTS`
attempts. -/
def retryBatch (outbox : List OutboxEmail) : List OutboxEmail :=
  (outbox.filter (fun r => r.status = .FAILED ∧ r.attempts < MAX_ATTEMPTS)).take 50

/-- `emailOutbox.findUnique({ where: { id } })`. -/
def rowById (outbox : List OutboxEmail) (id : ℕ) : Option OutboxEmail :=
  outbox.find? (·.id = id)

/-- The `emailOutbox.update` a run makes for its snapshot row `e` once `sgMail.send`
settled with `result`, applied to row `r`. -/
def retryUpdate (e : OutboxEmail) (result : Option String) (r : OutboxEmail) : OutboxEmail :=
  if r.id = e.id then
    match result with
    | none => { r with status := .SENT, attempts := e.attempts + 1 }
    | some err => { r with attempts := e.attempts + 1, lastError := err }
  else r

/-- One run of `handleCron`: the snapshot rows it has yet to process, and, once
`sgMail.send` settled for the first of them, how (`none` accepted, `some e` rejected). -/
structure RetryRun where
  pending : List OutboxEmail
  settled : Option (Option String)

/-- The outbox and the runs begun so far. `sends` is ghost state: every hand-over to
`sgMail.send`, with the row's id and its status at that moment. -/
structure RetryState where
  outbox : List OutboxEmail
  runs : List RetryRun
  sends : List (ℕ × Option OutboxStatus)

/-- An empty outbox. -/
def RetryState.init : RetryState := ⟨[], [], []⟩

/-- What can happen next: `sendEmail` stores a rejected message, a run takes its snapshot,
a run hands its next row to `sgMail.send`, which settles with `result`, or a run writes
that row. -/
inductive RetryEvent
  | create (recipient subject html error : String)
  | begin
  | send (run : ℕ) (result : Option String)
  | update (run : ℕ)

/-- One step, `none` when the event is not enabled. `apiKey` is whether
`SENDGRID_API_KEY` is set; without it a run returns before sending. -/
def retryStep (apiKey : Bool) (s : RetryState) : RetryEvent → Option RetryState
  | .create recipient subject html error =>
    some { s with outbox := outboxCreate s.outbox recipient subject html .FAILED error }
  | .begin => some { s with runs := s.runs ++ [⟨retryBatch s.outbox, none⟩] }
  | .send k result =>
    match s.runs[k]? with
    | some ⟨e :: rest, none⟩ =>
      if apiKey then
        some { s with
          runs := s.runs.set k ⟨e :: rest, some result⟩
          sends := s.sends ++ [(e.id, (rowById s.outbox e.id).map (·.status))] }
      else some { s with runs := s.runs.set k ⟨[], none⟩ }
    | _ => none
  | .update k =>
    match s.runs[k]? with
    | some ⟨e :: rest, some result⟩ =>
      some { s with
        outbox := s.outbox.map (retryUpdate e result)
        runs := s.runs.set k ⟨rest, none⟩ }
    | _ => none

/-- Runs that never overlap: a run begins only once every earlier run has finished. -/
def retryStepSeq (apiKey : Bool) (s : RetryState) : RetryEvent → Option RetryState
  | .begin => if s.runs.all (·.pending.isEmpty) then retryStep apiKey s .begin else none
  | e => retryStep apiKey s e

/-- The states some interleaving of runs reaches. -/
inductive RetryReachable (apiKey : Bool) : RetryState → Prop
  | init : RetryReachable apiKey RetryState.init
  | next {s s' : RetryState} (e : RetryEvent) : RetryReachable apiKey s →
      retryStep apiKey s e = some s' → RetryReachable apiKey s'

/-- The states runs that never overlap reach. -/
inductive SeqReachable (apiKey : Bool) : RetryState → Prop
  | init : SeqReachable apiKey RetryState.init
  | next {s s' : RetryState} (e : RetryEvent) : SeqReachable apiKey s →
      retryStepSeq apiKey s e = some s' → SeqReachable apiKey s'

/-- How many times row `id` was handed to `sgMail.send`. -/
def RetryState.sendCount (s : RetryState) (id : ℕ) : ℕ := s.sends.countP (·.1 = id)

/-- Runs a sequence of events by `step`, `none` if one of them is not enabled. -/
def retryRun (step : RetryState → RetryEvent → Option RetryState) (s : RetryState) :
    List RetryEvent → Option RetryState
  | [] => some s
  | e :: es => (step s e).bind (fun s' => retryRun step s' es)

theorem RetryReachable.run {apiKey : Bool} {s s' : RetryState}
    (hs : RetryReachable apiKey s) :
    ∀ es : List RetryEvent, retryRun (retryStep apiKey) s es = some s' →
      RetryReachable apiKey s'
  | [], h => Option.some.inj h ▸ hs
  | e :: es, h => by
    obtain ⟨s₁, h₁, h⟩ := Option.bind_eq_some.mp h
    exact (hs.next e h₁).run es h

theorem SeqReachable.run {apiKey : Bool} {s s' : RetryState}
    (hs : SeqReachable apiKey s) :
    ∀ es : List RetryEvent, retryRun (retryStepSeq apiKey) s es = some s' →
      SeqReachable apiKey s'
  | [], h => Option.some.inj h ▸ hs
  | e :: es, h => by
    obtain ⟨s₁, h₁, h⟩ := Option.bind_eq_some.mp h
    exact (hs.next e h₁).run es h

/-! ## Overlapping runs -/

/-- Two overlapping runs share a row: the second sends it after the first marked it SENT.
Four overlapping runs share a failing row: it is sent four times. -/
theorem overlapping_retries_resend :
    (∃ s, RetryReachable true s ∧ (0, some OutboxStatus.SENT) ∈ s.sends) ∧
      ∃ s, RetryReachable true s ∧ MAX_ATTEMPTS < s.sendCount 0 :=
  ⟨⟨_, RetryReachable.init.run [.create "u1" "Welcome" "<p>Welcome</p>" "timeout", .begin,
      .begin, .send 0 none, .update 0, .send 1 none] rfl, by decide⟩,
    ⟨_, RetryReachable.init.run [.create "u1" "Welcome" "<p>Welcome</p>" "timeout", .begin,
      .begin, .begin, .begin, .send 0 (some "timeout"), .send 1 (some "timeout"),
      .send 2 (some "timeout"), .send 3 (some "timeout")] rfl, by decide⟩⟩

/-! ## Runs that do not overlap -/

/-- Run `run` has handed row `id` to `sgMail.send` and not yet written it. -/
def RetryRun.InFlight (run : RetryRun) (id : ℕ) : Prop :=
  ∃ e rest result, run.pending = e :: rest ∧ run.settled = some result ∧ e.id = id

/-- In a table whose rows are numbered from `n` by position, the row with id `n + i` is
the `i`-th. -/
theorem find?_id_of_numbered : ∀ (l : List OutboxEmail) (n : ℕ),
    (∀ k r, l[k]? = some r → r.id = n + k) → ∀ i, l.find? (·.id = n + i) = l[i]?
  | [], _, _, _ => rfl
  | r :: l, n, h, i => by
    have hr : r.id = n := h 0 r (by simp)
    cases i with
    | zero => simp [hr]
    | succ i =>
      have hl : ∀ k r', l[k]? = some r' → r'.id = n + 1 + k := fun k r' hk => by
        have := h (k + 1) r' (by simpa using hk)
        omega
      rw [List.find?_cons_of_neg _ (by simp [hr]), List.getElem?_cons_succ]
      have := find?_id_of_numbered l (n + 1) hl i
      rwa [show n + 1 + i = n + (i + 1) by omega] at this

theorem getElem?_outboxCreate {t : List OutboxEmail} {recipient subject html : String}
    {status : OutboxStatus} {lastError : String} {i : ℕ} {r : OutboxEmail}
    (h : (outboxCreate t recipient subject html status lastError)[i]? = some r) :
    t[i]? = some r ∨
      (i = t.length ∧ r = ⟨t.length, recipient, subject, html, status, 0, lastError⟩) := by
  unfold outboxCreate at h
  rcases lt_or_ge i t.length with hi | hi
  · rw [List.getElem?_append_left hi] at h
    exact .inl h
  · rw [List.getElem?_append_right hi] at h
    have h0 : i - t.length = 0 := by
      by_contra hne
      rw [List.getElem?_eq_none (by simp; omega)] at h
      cases h
    rw [h0] at h
    obtain rfl : _ = r := by simpa using h
    exact .inr ⟨by omega, rfl⟩

/-- The invariant of runs that never overlap. Rows are numbered by position; at most the
last run is unfinished, and the rows it has yet to write are as its snapshot has them; a
row's send count is its attempt count, plus one while it is in flight. -/
structure SeqInv (s : RetryState) : Prop where
  numbered : ∀ (i : ℕ) (r : OutboxEmail), s.outbox[i]? = some r → r.id = i
  attempts_le : ∀ r ∈ s.outbox, r.attempts ≤ MAX_ATTEMPTS
  sends_lt : ∀ x ∈ s.sends, x.1 < s.outbox.length
  not_sent : ∀ x ∈ s.sends, x.2 ≠ some .SENT
  last : ∀ (j : ℕ) (run : RetryRun), s.runs[j]? = some run → run.pending ≠ [] →
    j + 1 = s.runs.length
  snapshot : ∀ (j : ℕ) (run : RetryRun), s.runs[j]? = some run → ∀ e ∈ run.pending,
    s.outbox[e.id]? = some e ∧ e.status = .FAILED ∧ e.attempts < MAX_ATTEMPTS
  snapshot_nodup : ∀ (j : ℕ) (run : RetryRun), s.runs[j]? = some run →
    (run.pending.map (·.id)).Nodup
  idle : ∀ r ∈ s.outbox, (∀ (j : ℕ) (run : RetryRun), s.runs[j]? = some run →
    ¬run.InFlight r.id) → s.sendCount r.id = r.attempts
  flight : ∀ (j : ℕ) (run : RetryRun) (e : OutboxEmail) rest result, s.runs[j]? = some run →
    run.pending = e :: rest → run.settled = some result → s.sendCount e.id = e.attempts + 1

section Sequential

variable {apiKey : Bool} {s s' : RetryState}

theorem SeqInv.getElem?_id (hs : SeqInv s) {r : OutboxEmail} (hr : r ∈ s.outbox) :
    s.outbox[r.id]? = some r := by
  obtain ⟨i, hi⟩ := List.mem_iff_getElem?.mp hr
  rwa [hs.numbered i r hi]

theorem SeqInv.rowById_eq (hs : SeqInv s) {i : ℕ} {r : OutboxEmail}
    (h : s.outbox[i]? = some r) :
    rowById s.outbox i = some r := by
  have := find?_id_of_numbered s.outbox 0 (fun k r hk => by simpa using hs.numbered k r hk) i
  rw [rowById, ← h, ← this, Nat.zero_add]

/-- No run but the last is unfinished. -/
theorem SeqInv.finished_of_ne (hs : SeqInv s) {k j : ℕ} {run run' : RetryRun}
    (hk : s.runs[k]? = some run) (hne : run.pending ≠ []) (hj : s.runs[j]? = some run')
    (hjk : j ≠ k) : run'.pending = [] := by
  by_contra h
  have := hs.last j run' hj h
  have := hs.last k run hk hne
  omega

theorem SeqInv.init : SeqInv RetryState.init where
  numbered i r h := by simp [RetryState.init] at h
  attempts_le r h := by simp [RetryState.init] at h
  sends_lt x h := by simp [RetryState.init] at h
  not_sent x h := by simp [RetryState.init] at h
  last j run h := by simp [RetryState.init] at h
  snapshot j run h := by simp [RetryState.init] at h
  snapshot_nodup j run h := by simp [RetryState.init] at h
  idle r h := by simp [RetryState.init] at h
  flight j run e rest result h := by simp [RetryState.init] at h

theorem lt_length_of_getElem? {α : Type} {l : List α} {i : ℕ} {a : α} (h : l[i]? = some a) :
    i < l.length :=
  (List.getElem?_eq_some_iff.mp h).1

theorem getElem?_set_cases {α : Type} {l : List α} {k j : ℕ} {a b : α}
    (h : (l.set k a)[j]? = some b) : (j = k ∧ b = a) ∨ (j ≠ k ∧ l[j]? = some b) := by
  rw [List.getElem?_set] at h
  split_ifs at h with hkj
  · exact .inl ⟨hkj.symm, (Option.some.inj h).symm⟩
  · exact .inr ⟨Ne.symm hkj, h⟩

/-- Replacing run `k` by another run: a row no run is sending afterwards was not being
sent before, provided the old run `k` was not sending it. -/
theorem idle_of_set {runs : List RetryRun} {k id : ℕ} {run₀ run' : RetryRun}
    (hk : runs[k]? = some run₀) (h₀ : ¬run₀.InFlight id)
    (hidle : ∀ (j : ℕ) (run : RetryRun), (runs.set k run')[j]? = some run → ¬run.InFlight id)
    (j : ℕ) (run : RetryRun) (hj : runs[j]? = some run) : ¬run.InFlight id := by
  by_cases hjk : j = k
  · subst hjk
    rw [hk] at hj
    exact Option.some.inj hj ▸ h₀
  · exact hidle j run (by rw [List.getElem?_set_ne (Ne.symm hjk), hj])

@[simp] theorem retryUpdate_id (e : OutboxEmail) (result : Option String) (r : OutboxEmail) :
    (retryUpdate e result r).id = r.id := by
  unfold retryUpdate
  split
  · cases result <;> rfl
  · rfl

theorem retryUpdate_attempts (e : OutboxEmail) (result : Option String) (r : OutboxEmail) :
    (retryUpdate e result r).attempts = if r.id = e.id then e.attempts + 1 else r.attempts := by
  unfold retryUpdate
  split
  · cases result <;> rfl
  · rfl

theorem retryUpdate_of_ne (e : OutboxEmail) (result : Option String) {r : OutboxEmail}
    (h : r.id ≠ e.id) : retryUpdate e result r = r := if_neg h

theorem SeqInv.ids_nodup (hs : SeqInv s) : (s.outbox.map (·.id)).Nodup := by
  have : s.outbox.map (·.id) = List.range s.outbox.length := by
    apply List.ext_getElem?
    intro n
    rw [List.getElem?_map]
    cases h : s.outbox[n]? with
    | none =>
      rw [List.getElem?_eq_none (by simpa using (List.getElem?_eq_none_iff.mp h))]
      rfl
    | some r => simp [List.getElem?_range (lt_length_of_getElem? h), hs.numbered n r h]
  rw [this]
  exact List.nodup_range _

/-- A new FAILED row changes no other row and has not been sent. -/
theorem SeqInv.create (hs : SeqInv s) (recipient subject html error : String) :
    SeqInv { s with outbox := outboxCreate s.outbox recipient subject html .FAILED error } where
  numbered i r h := by
    rcases getElem?_outboxCreate h with h | ⟨rfl, rfl⟩
    · exact hs.numbered i r h
    · rfl
  attempts_le r h := by
    rcases List.mem_append.mp h with h | h
    · exact hs.attempts_le r h
    · rw [List.mem_singleton.mp h]
      exact Nat.zero_le _
  sends_lt x h := by
    simpa [outboxCreate] using Nat.lt_succ_of_lt (hs.sends_lt x h)
  not_sent := hs.not_sent
  last := hs.last
  snapshot j run h e he := by
    obtain ⟨he, hs'⟩ := hs.snapshot j run h e he
    exact ⟨by rw [outboxCreate, List.getElem?_append_left (lt_length_of_getElem? he), he], hs'⟩
  snapshot_nodup := hs.snapshot_nodup
  idle r h hidle := by
    rcases List.mem_append.mp h with h | h
    · exact hs.idle r h hidle
    · rw [List.mem_singleton.mp h]
      exact List.countP_eq_zero.mpr fun x hx => by
        simpa using (hs.sends_lt x hx).ne
  flight := hs.flight

/-- A run begins when every earlier run has finished: its snapshot is current. -/
theorem SeqInv.begin (hs : SeqInv s) (hfin : ∀ run ∈ s.runs, run.pending = []) :
    SeqInv { s with runs := s.runs ++ [⟨retryBatch s.outbox, none⟩] } where
  numbered := hs.numbered
  attempts_le := hs.attempts_le
  sends_lt := hs.sends_lt
  not_sent := hs.not_sent
  last j run h hne := by
    rcases lt_or_ge j s.runs.length with hj | hj
    · rw [List.getElem?_append_left hj] at h
      exact absurd (hfin run (List.getElem?_mem h)) hne
    · have := lt_length_of_getElem? h
      simp only [List.length_append, List.length_singleton] at this ⊢
      omega
  snapshot j run h e he := by
    rcases List.mem_append.mp (List.getElem?_mem h) with hr | hr
    · rw [hfin run hr] at he
      cases he
    · rw [List.mem_singleton.mp hr] at he
      have he' := List.mem_of_mem_take he
      rw [List.mem_filter] at he'
      simp only [decide_eq_true_eq] at he'
      exact ⟨hs.getElem?_id he'.1, he'.2⟩
  snapshot_nodup j run h := by
    rcases List.mem_append.mp (List.getElem?_mem h) with hr | hr
    · rw [hfin run hr]
      exact List.nodup_nil
    · rw [List.mem_singleton.mp hr]
      exact hs.ids_nodup.sublist (((List.take_sublist _ _).trans (List.filter_sublist _)).map _)
  idle r h hidle := hs.idle r h fun j run hj =>
    hidle j run (by rw [List.getElem?_append_left (lt_length_of_getElem? hj), hj])
  flight j run e rest result h hp hset := by
    rcases List.mem_append.mp (List.getElem?_mem h) with hr | hr
    · rw [hfin run hr] at hp
      cases hp
    · rw [List.mem_singleton.mp hr] at hset
      cases hset

/-- Handing the first pending row of the running run to `sgMail.send`: the row is as the
snapshot has it, FAILED, and no other run is in flight. -/
theorem SeqInv.send (hs : SeqInv s) {k : ℕ} {e : OutboxEmail} {rest : List OutboxEmail}
    (hk : s.runs[k]? = some ⟨e :: rest, none⟩) (result : Option String) :
    SeqInv { s with
      runs := s.runs.set k ⟨e :: rest, some result⟩
      sends := s.sends ++ [(e.id, (rowById s.outbox e.id).map (·.status))] } := by
  obtain ⟨he, hfailed, -⟩ := hs.snapshot k _ hk e (List.mem_cons_self _ _)
  have hne : (⟨e :: rest, none⟩ : RetryRun).pending ≠ [] := List.cons_ne_nil _ _
  have hcount : ∀ id, id ≠ e.id →
      (s.sends ++ [(e.id, (rowById s.outbox e.id).map (·.status))]).countP (·.1 = id) =
        s.sendCount id := fun id hid => by
    simp [RetryState.sendCount, List.countP_append, Ne.symm hid]
  refine ⟨hs.numbered, hs.attempts_le, fun x hx => ?_, fun x hx => ?_, fun j run h hp => ?_,
    fun j run h => ?_, fun j run h => ?_, fun r hr hidle => ?_,
    fun j run e' rest' res h hp hset => ?_⟩
  · rcases List.mem_append.mp hx with hx | hx
    · exact hs.sends_lt x hx
    · rw [List.mem_singleton.mp hx]
      exact lt_length_of_getElem? he
  · rcases List.mem_append.mp hx with hx | hx
    · exact hs.not_sent x hx
    · rw [List.mem_singleton.mp hx, hs.rowById_eq he]
      simp [hfailed]
  · rcases getElem?_set_cases h with ⟨rfl, rfl⟩ | ⟨-, h⟩
    · simpa using hs.last j _ hk hne
    · simpa using hs.last j run h hp
  · rcases getElem?_set_cases h with ⟨rfl, rfl⟩ | ⟨-, h⟩
    · exact fun e' he' => hs.snapshot j _ hk e' he'
    · exact hs.snapshot j run h
  · rcases getElem?_set_cases h with ⟨rfl, rfl⟩ | ⟨-, h⟩
    · exact hs.snapshot_nodup j ⟨e :: rest, none⟩ hk
    · exact hs.snapshot_nodup j run h
  · have hre : r.id ≠ e.id := fun hre =>
      hidle k _ (List.getElem?_set_self (lt_length_of_getElem? hk))
        ⟨e, rest, result, rfl, rfl, hre.symm⟩
    show (s.sends ++ _).countP _ = _
    rw [hcount r.id hre]
    exact hs.idle r hr (idle_of_set hk (fun ⟨_, _, _, _, hset, _⟩ => by cases hset) hidle)
  · rcases getElem?_set_cases h with ⟨rfl, rfl⟩ | ⟨hjk, h⟩
    · obtain ⟨rfl, rfl⟩ := List.cons.inj hp
      have hidle : s.sendCount e.id = e.attempts := hs.idle e (List.getElem?_mem he)
        fun i run hi ⟨e'', rest'', res'', hp', hset', hid⟩ => by
          by_cases hij : i = j
          · subst hij
            rw [hk] at hi
            cases hi
            cases hset'
          · exact List.cons_ne_nil _ _ (hp' ▸ hs.finished_of_ne hk hne hi hij)
      simp [RetryState.sendCount, List.countP_append, hidle] at hidle ⊢
      exact hidle
    · exact absurd (hs.finished_of_ne hk hne h hjk) (hp ▸ List.cons_ne_nil _ _)

/-- Without an API key the run returns: it has nothing left to process. -/
theorem SeqInv.stop (hs : SeqInv s) {k : ℕ} {run₀ : RetryRun} (hk : s.runs[k]? = some run₀)
    (hidle₀ : run₀.settled = none) :
    SeqInv { s with runs := s.runs.set k ⟨[], none⟩ } := by
  refine ⟨hs.numbered, hs.attempts_le, hs.sends_lt, hs.not_sent, fun j run h hp => ?_,
    fun j run h => ?_, fun j run h => ?_, fun r hr hidle => ?_,
    fun j run e rest res h hp hset => ?_⟩
  · rcases getElem?_set_cases h with ⟨-, rfl⟩ | ⟨-, h⟩
    · exact absurd rfl hp
    · simpa using hs.last j run h hp
  · rcases getElem?_set_cases h with ⟨-, rfl⟩ | ⟨-, h⟩
    · exact fun e he => absurd he (List.not_mem_nil _)
    · exact hs.snapshot j run h
  · rcases getElem?_set_cases h with ⟨-, rfl⟩ | ⟨-, h⟩
    · exact List.nodup_nil
    · exact hs.snapshot_nodup j run h
  · refine hs.idle r hr (idle_of_set hk (fun ⟨_, _, _, _, hset, _⟩ => ?_) hidle)
    rw [hidle₀] at hset
    cases hset
  · rcases getElem?_set_cases h with ⟨-, rfl⟩ | ⟨-, h⟩
    · cases hp
    · exact hs.flight j run e rest res h hp hset

/-- Writing the row the running run sent: the row gets the snapshot's attempt count plus
one, which is its send count. -/
theorem SeqInv.update (hs : SeqInv s) {k : ℕ} {e : OutboxEmail} {rest : List OutboxEmail}
    {result : Option String} (hk : s.runs[k]? = some ⟨e :: rest, some result⟩) :
    SeqInv { s with
      outbox := s.outbox.map (retryUpdate e result)
      runs := s.runs.set k ⟨rest, none⟩ } := by
  obtain ⟨he, -, hlt⟩ := hs.snapshot k _ hk e (List.mem_cons_self _ _)
  have hnodup := hs.snapshot_nodup k _ hk
  rw [List.map_cons, List.nodup_cons] at hnodup
  have hne : (⟨e :: rest, some result⟩ : RetryRun).pending ≠ [] := List.cons_ne_nil _ _
  have hflight := hs.flight k _ e rest result hk rfl rfl
  refine ⟨fun i r h => ?_, fun r hr => ?_, by simpa using hs.sends_lt, hs.not_sent,
    fun j run h hp => ?_, fun j run h => ?_, fun j run h => ?_, fun r hr hidle => ?_,
    fun j run e' rest' res h hp hset => ?_⟩
  · rw [List.getElem?_map] at h
    obtain ⟨r₀, h₀, rfl⟩ := Option.map_eq_some'.mp h
    rw [retryUpdate_id]
    exact hs.numbered i r₀ h₀
  · obtain ⟨r₀, h₀, rfl⟩ := List.mem_map.mp hr
    rw [retryUpdate_attempts]
    split
    · exact hlt
    · exact hs.attempts_le r₀ h₀
  · rcases getElem?_set_cases h with ⟨rfl, rfl⟩ | ⟨-, h⟩
    · simpa using hs.last j _ hk hne
    · simpa using hs.last j run h hp
  · rcases getElem?_set_cases h with ⟨rfl, rfl⟩ | ⟨hjk, h⟩
    · intro e₂ he₂
      obtain ⟨h₂, hstatus, hlt₂⟩ := hs.snapshot j _ hk e₂ (List.mem_cons_of_mem _ he₂)
      have hid : e₂.id ≠ e.id := fun hid => hnodup.1 (hid ▸ List.mem_map_of_mem _ he₂)
      refine ⟨?_, hstatus, hlt₂⟩
      rw [List.getElem?_map, h₂, Option.map_some', retryUpdate_of_ne _ _ hid]
    · intro e₂ he₂
      exact absurd (hs.finished_of_ne hk hne h hjk) (List.ne_nil_of_mem he₂)
  · rcases getElem?_set_cases h with ⟨rfl, rfl⟩ | ⟨-, h⟩
    · exact hnodup.2
    · exact hs.snapshot_nodup j run h
  · obtain ⟨r₀, h₀, rfl⟩ := List.mem_map.mp hr
    show s.sendCount _ = _
    rw [retryUpdate_id, retryUpdate_attempts]
    split
    · case isTrue hid =>
      rw [hid]
      exact hflight
    · case isFalse hid =>
      refine hs.idle r₀ h₀ (@idle_of_set _ _ _ _ ⟨rest, none⟩ hk
        (fun ⟨e₁, _, _, hp₁, _, hid₁⟩ => ?_) (by simpa only [retryUpdate_id] using hidle))
      obtain ⟨rfl, -⟩ := List.cons.inj hp₁
      exact hid hid₁.symm
  · rcases getElem?_set_cases h with ⟨-, rfl⟩ | ⟨hjk, h⟩
    · cases hset
    · exact absurd (hs.finished_of_ne hk hne h hjk) (hp ▸ List.cons_ne_nil _ _)

/-- Runs that never overlap keep the invariant. -/
theorem SeqInv.step (hs : SeqInv s) {ev : RetryEvent} (h : retryStepSeq apiKey s ev = some s') :
    SeqInv s' := by
  cases ev with
  | create recipient subject html error =>
    cases Option.some.inj h
    exact hs.create recipient subject html error
  | begin =>
    simp only [retryStepSeq, retryStep] at h
    split at h
    · case isTrue hfin =>
      cases Option.some.inj h
      refine hs.begin fun run hr => ?_
      simpa using List.all_eq_true.mp hfin run hr
    · cases h
  | send k result =>
    simp only [retryStepSeq, retryStep] at h
    split at h
    · case h_1 e rest hk =>
      split at h
      · cases Option.some.inj h
        exact hs.send hk result
      · cases Option.some.inj h
        exact hs.stop hk rfl
    · cases h
  | update k =>
    simp only [retryStepSeq, retryStep] at h
    split at h
    · case h_1 e rest result hk =>
      cases Option.some.inj h
      exact hs.update hk
    · cases h

theorem SeqReachable.inv (hs : SeqReachable apiKey s) : SeqInv s := by
  induction hs with
  | init => exact SeqInv.init
  | next ev _ h ih => exact ih.step h

/-- When `handleCron` runs never overlap, every outbox row is handed to `sgMail.send` at
most `MAX_ATTEMPTS` times in all, and never while its status is SENT. -/
theorem sequential_retries_bounded (hs : SeqReachable apiKey s) :
    (∀ r ∈ s.outbox, s.sendCount r.id ≤ MAX_ATTEMPTS) ∧
      ∀ x ∈ s.sends, x.2 ≠ some .SENT := by
  have hi := hs.inv
  refine ⟨fun r hr => ?_, hi.not_sent⟩
  by_cases hfl : ∃ (j : ℕ) (run : RetryRun), s.runs[j]? = some run ∧ run.InFlight r.id
  · obtain ⟨j, run, hj, e, rest, result, hp, hset, hid⟩ := hfl
    have hlt := (hi.snapshot j run hj e (hp ▸ List.mem_cons_self _ _)).2.2
    rw [← hid, hi.flight j run e rest result hj hp hset]
    exact hlt
  · rw [hi.idle r hr fun j run hj hf => hfl ⟨j, run, hj, hf⟩]
    exact hi.attempts_le r hr

/-- A row that fails once more and then goes through, over two runs that do not overlap. -/
def seqRetryTrace : List RetryEvent :=
  [.create "u1" "Welcome" "<p>Welcome</p>" "timeout", .begin, .send 0 (some "timeout"),
   .update 0, .begin, .send 1 none, .update 1]

theorem sequential_retries_bounded_twice :
    ∃ s, SeqReachable true s ∧ s.sendCount 0 = 2 ∧ s.sendCount 0 ≤ MAX_ATTEMPTS :=
  ⟨_, (SeqReachable.init : SeqReachable true _).run seqRetryTrace rfl, rfl,
    (sequential_retries_bounded
      ((SeqReachable.init : SeqReachable true _).run seqRetryTrace rfl)).1 _
      (List.mem_cons_self _ _)⟩

end Sequential

/-! ## Overlapping runs: one send per run -/

/-- The ids of the rows run `run` has yet to hand to `sgMail.send`: its pending rows, but
the first once `sgMail.send` has it. -/
def RetryRun.owed (run : RetryRun) : List ℕ :=
  match run.settled with
  | none => run.pending.map (·.id)
  | some _ => (run.pending.drop 1).map (·.id)

@[simp] theorem RetryRun.owed_none (pending : List OutboxEmail) :
    (⟨pending, none⟩ : RetryRun).owed = pending.map (·.id) := rfl

@[simp] theorem RetryRun.owed_some (pending : List OutboxEmail) (result : Option String) :
    (⟨pending, some result⟩ : RetryRun).owed = (pending.drop 1).map (·.id) := rfl

/-- The invariant of runs that may overlap. Rows are numbered by position, a run's snapshot
holds each row once, and a row's send count plus the number of runs that still owe it a
send is at most the number of runs begun. -/
structure OverlapInv (s : RetryState) : Prop where
  numbered : ∀ (i : ℕ) (r : OutboxEmail), s.outbox[i]? = some r → r.id = i
  nodup : ∀ run ∈ s.runs, (run.pending.map (·.id)).Nodup
  budget : ∀ id, s.sendCount id + s.runs.countP (fun run => id ∈ run.owed) ≤ s.runs.length

section Overlapping

variable {apiKey : Bool} {s s' : RetryState}

/-- Replacing the `k`-th element changes a count by what the old and the new element add. -/
theorem countP_set_add {α : Type} (p : α → Bool) :
    ∀ (l : List α) {k : ℕ} {a : α} (b : α), l[k]? = some a →
      (l.set k b).countP p + (if p a then 1 else 0) = l.countP p + (if p b then 1 else 0)
  | [], _, _, _, h => by cases h
  | x :: l, 0, a, b, h => by
    rw [List.getElem?_cons_zero] at h
    cases h
    simp only [List.set_cons_zero, List.countP_cons]
    omega
  | x :: l, k + 1, a, b, h => by
    have := countP_set_add p l b (by rwa [List.getElem?_cons_succ] at h)
    simp only [List.set_cons_succ, List.countP_cons]
    omega

/-- In a table whose rows are numbered by position, the ids are the positions. -/
theorem ids_eq_range {t : List OutboxEmail}
    (h : ∀ (i : ℕ) (r : OutboxEmail), t[i]? = some r → r.id = i) :
    t.map (·.id) = List.range t.length :=
  List.ext_getElem (by simp) fun n h₁ _ => by
    simpa using h n _ (List.getElem?_eq_getElem (by simpa using h₁))

theorem sendCount_append (s : RetryState) (x : ℕ × Option OutboxStatus) (id : ℕ) :
    (s.sends ++ [x]).countP (·.1 = id) = s.sendCount id + if x.1 = id then 1 else 0 := by
  simp [RetryState.sendCount, List.countP_singleton]

theorem OverlapInv.init : OverlapInv RetryState.init where
  numbered i r h := by simp [RetryState.init] at h
  nodup run h := by simp [RetryState.init] at h
  budget id := by simp [RetryState.init, RetryState.sendCount]

/-- A new FAILED row is numbered by its position; no run owes it. -/
theorem OverlapInv.create (hs : OverlapInv s) (recipient subject html error : String) :
    OverlapInv { s with outbox := outboxCreate s.outbox recipient subject html .FAILED error } where
  numbered i r h := by
    rcases getElem?_outboxCreate h with h | ⟨rfl, rfl⟩
    · exact hs.numbered i r h
    · rfl
  nodup := hs.nodup
  budget := hs.budget

/-- A new run's snapshot holds each row once; it adds one run, which owes a row at most one
send. -/
theorem OverlapInv.begin (hs : OverlapInv s) :
    OverlapInv { s with runs := s.runs ++ [⟨retryBatch s.outbox, none⟩] } where
  numbered := hs.numbered
  nodup run h := by
    rcases List.mem_append.mp h with h | h
    · exact hs.nodup run h
    · rw [List.mem_singleton.mp h]
      have hids : (s.outbox.map (·.id)).Nodup := ids_eq_range hs.numbered ▸ List.nodup_range _
      exact hids.sublist (((List.take_sublist _ _).trans (List.filter_sublist _)).map _)
  budget id := by
    have := hs.budget id
    have := List.countP_le_length (fun run : RetryRun => decide (id ∈ run.owed))
      (l := [⟨retryBatch s.outbox, none⟩])
    show s.sendCount id + (s.runs ++ _).countP _ ≤ (s.runs ++ _).length
    simp only [List.countP_append, List.length_append, List.length_singleton] at this ⊢
    omega

/-- Handing a row to `sgMail.send` counts one send and settles the run's debt for it. -/
theorem OverlapInv.send (hs : OverlapInv s) {k : ℕ} {e : OutboxEmail} {rest : List OutboxEmail}
    (hk : s.runs[k]? = some ⟨e :: rest, none⟩) (result : Option String) :
    OverlapInv { s with
      runs := s.runs.set k ⟨e :: rest, some result⟩
      sends := s.sends ++ [(e.id, (rowById s.outbox e.id).map (·.status))] } where
  numbered := hs.numbered
  nodup run h := by
    rcases List.mem_or_eq_of_mem_set h with h | rfl
    · exact hs.nodup run h
    · exact (hs.nodup _ (List.getElem?_mem hk) :)
  budget id := by
    have hnd := hs.nodup _ (List.getElem?_mem hk)
    rw [List.map_cons, List.nodup_cons] at hnd
    have := hs.budget id
    have := countP_set_add (fun run : RetryRun => decide (id ∈ run.owed)) s.runs
      ⟨e :: rest, some result⟩ hk
    show (s.sends ++ _).countP _ + (s.runs.set k _).countP _ ≤ (s.runs.set k _).length
    rw [sendCount_append, List.length_set]
    by_cases hid : e.id = id
    · subst hid
      simp only [RetryRun.owed_none, RetryRun.owed_some, List.map_cons, List.mem_cons, hnd.1,
        or_false, List.drop_succ_cons, List.drop_zero, decide_True, decide_False,
        Bool.false_eq_true, ↓reduceIte, add_zero] at this ⊢
      omega
    · simp only [RetryRun.owed_none, RetryRun.owed_some, List.map_cons, List.mem_cons,
        Ne.symm hid, false_or, List.drop_succ_cons, List.drop_zero, hid, ↓reduceIte,
        add_zero] at this ⊢
      omega

/-- Without an API key a run returns and owes nothing. -/
theorem OverlapInv.stop (hs : OverlapInv s) {k : ℕ} {run₀ : RetryRun}
    (hk : s.runs[k]? = some run₀) :
    OverlapInv { s with runs := s.runs.set k ⟨[], none⟩ } where
  numbered := hs.numbered
  nodup run h := by
    rcases List.mem_or_eq_of_mem_set h with h | rfl
    · exact hs.nodup run h
    · exact List.nodup_nil
  budget id := by
    have := hs.budget id
    have := countP_set_add (fun run : RetryRun => decide (id ∈ run.owed)) s.runs ⟨[], none⟩ hk
    show s.sendCount id + (s.runs.set k _).countP _ ≤ (s.runs.set k _).length
    simp only [RetryRun.owed_none, List.map_nil, List.not_mem_nil, decide_False,
      Bool.false_eq_true, ↓reduceIte, add_zero] at this
    rw [List.length_set]
    omega

/-- Writing the row a run sent leaves its debt as it was: the rest of its snapshot. -/
theorem OverlapInv.update (hs : OverlapInv s) {k : ℕ} {e : OutboxEmail}
    {rest : List OutboxEmail} {result : Option String}
    (hk : s.runs[k]? = some ⟨e :: rest, some result⟩) :
    OverlapInv { s with
      outbox := s.outbox.map (retryUpdate e result)
      runs := s.runs.set k ⟨rest, none⟩ } where
  numbered i r h := by
    rw [List.getElem?_map] at h
    obtain ⟨r₀, h₀, rfl⟩ := Option.map_eq_some'.mp h
    rw [retryUpdate_id]
    exact hs.numbered i r₀ h₀
  nodup run h := by
    rcases List.mem_or_eq_of_mem_set h with h | rfl
    · exact hs.nodup run h
    · have hnd := hs.nodup _ (List.getElem?_mem hk)
      rw [List.map_cons, List.nodup_cons] at hnd
      exact hnd.2
  budget id := by
    have := hs.budget id
    have := countP_set_add (fun run : RetryRun => decide (id ∈ run.owed)) s.runs
      ⟨rest, none⟩ hk
    show s.sendCount id + (s.runs.set k _).countP _ ≤ (s.runs.set k _).length
    simp only [RetryRun.owed_some, RetryRun.owed_none, List.drop_succ_cons, List.drop_zero,
      add_left_inj] at this
    rw [List.length_set]
    omega

/-- Every step keeps the invariant, however runs overlap. -/
theorem OverlapInv.step (hs : OverlapInv s) {ev : RetryEvent}
    (h : retryStep apiKey s ev = some s') : OverlapInv s' := by
  cases ev with
  | create recipient subject html error =>
    cases Option.some.inj h
    exact hs.create recipient subject html error
  | begin =>
    cases Option.some.inj h
    exact hs.begin
  | send k result =>
    simp only [retryStep] at h
    split at h
    · case h_1 e rest hk =>
      split at h
      · cases Option.some.inj h
        exact hs.send hk result
      · cases Option.some.inj h
        exact hs.stop hk
    · cases h
  | update k =>
    simp only [retryStep] at h
    split at h
    · case h_1 e rest result hk =>
      cases Option.some.inj h
      exact hs.update hk
    · cases h

theorem RetryReachable.overlapInv (hs : RetryReachable apiKey s) : OverlapInv s := by
  induction hs with
  | init => exact OverlapInv.init
  | next ev _ h ih => exact ih.step h

/-- However `handleCron` runs overlap, each hands a row to `sgMail.send` at most once: the
row's send count, plus the number of runs that have yet to send it, is at most the number of
runs begun. -/
theorem overlapping_retries_send_once_per_run (hs : RetryReachable apiKey s) (id : ℕ) :
    s.sendCount id + s.runs.countP (fun run => id ∈ run.owed) ≤ s.runs.length :=
  hs.overlapInv.budget id

/-- Two overlapping runs whose snapshots share a row, each sending it. -/
def sharedRetryTrace : List RetryEvent :=
  [.create "u1" "Welcome" "<p>Welcome</p>" "timeout", .begin, .begin, .send 0 none,
   .update 0, .send 1 none]

theorem overlapping_retries_send_once_per_run_shared :
    ∃ s, RetryReachable true s ∧ s.sendCount 0 = 2 ∧
      s.sendCount 0 + s.runs.countP (fun run => 0 ∈ run.owed) ≤ s.runs.length :=
  ⟨_, (RetryReachable.init : RetryReachable true _).run sharedRetryTrace rfl, rfl,
    overlapping_retries_send_once_per_run
      ((RetryReachable.init : RetryReachable true _).run sharedRetryTrace rfl) 0⟩

end Overlapping

end NovaFund.Backend

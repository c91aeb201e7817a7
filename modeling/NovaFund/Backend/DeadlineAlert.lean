import NovaFund.Backend.Database

/-!
# The 24-hour deadline warning

`DeadlineAlertTask.handleCron` lists the ACTIVE projects whose deadline falls in the next
24 hours, each with its distinct investors, and for each project, unless a DEADLINE
notification with the project's warning title already exists, notifies every investor
(`deadline-alert.task.ts`). A run is sequential and the model runs it as a function of
the database; what other writers do between runs is any change to the database.

The guard is meant as one notification per project, as its comment says, but it looks the
warning up by title alone. A run that notifies a project's investors thereby writes that
title, so every later run skips the project, as intended: an investor who contributes after
the first warning is not warned. But a project whose title another project's warning
already used is never warned at all. When the guard lets a project through, each of its distinct
investors who accepts deadline notifications gains exactly one warning for it. Nothing
else is written: a run only appends notifications, each the warning about a listed
project to one of its contributors who accepts deadline notifications.
-/

namespace NovaFund.Backend

/-- `24 * 60 * 60 * 1000`. -/
def DAY_MS : ℕ := 24 * 60 * 60 * 1000

/-- The `findMany` of `handleCron` at time `now`: every ACTIVE project whose deadline lies
in `(now, now + 24h]`, with its distinct investors (`distinct: ['investorId']` keeps one
contribution per investor; which one does not matter). -/
def nearingDeadline (db : Db) (now : ℕ) : List (Project × List String) :=
  (db.projects.filter (fun p => p.status = "ACTIVE" ∧ now < p.deadline ∧
      p.deadline ≤ now + DAY_MS)).map
    (fun p => (p, ((db.contributions.filter (·.projectId = p.id)).map (·.investorId)).dedup))

/-- The title of a project's deadline warning. -/
def deadlineTitle (project : Project) : String := "24 Hours Left: " ++ project.title

/-- The `notification.findFirst` guard found a DEADLINE notification titled `title`. -/
def Db.hasDeadlineAlert (db : Db) (title : String) : Bool :=
  db.notifications.any (fun n => n.type = .DEADLINE ∧ n.title = title)

/-- The inner loop: warn each investor of `project`. -/
def notifyInvestors (mailer : Mailer) (project : Project) (db : Db) (investors : List String) :
    Db :=
  investors.foldl (fun db investorId => notify mailer db investorId .DEADLINE
    (deadlineTitle project)
    ("Only 24 hours left for project " ++ project.title ++ " to reach its goal.")
    (some ⟨project.id⟩)) db

/-- One iteration of the outer loop: `continue` when the warning title exists. -/
def alertProject (mailer : Mailer) (db : Db) (entry : Project × List String) : Db :=
  if db.hasDeadlineAlert (deadlineTitle entry.1) then db
  else notifyInvestors mailer entry.1 db entry.2

/-- `DeadlineAlertTask.handleCron()` at time `now`. -/
def DeadlineAlertTask.handleCron (mailer : Mailer) (db : Db) (now : ℕ) : Db :=
  (nearingDeadline db now).foldl (alertProject mailer) db

/-- The DEADLINE notifications user `u` holds about project `projectId`. -/
def Db.deadlineAlertsFor (db : Db) (u projectId : String) : ℕ :=
  db.notifications.countP
    (fun n => n.userId = u ∧ n.type = .DEADLINE ∧ n.data = some ⟨projectId⟩)

/-! ## One project -/

section Loop

variable {mailer : Mailer}

/-- The warning `notifyInvestors` writes for one investor. -/
def deadlineNotification (project : Project) (u : String) : Notification :=
  ⟨u, .DEADLINE, deadlineTitle project,
    "Only 24 hours left for project " ++ project.title ++ " to reach its goal.",
    some ⟨project.id⟩⟩

theorem Db.accepts_congr {db db' : Db} (h : db'.users = db.users) :
    db'.accepts = db.accepts := by
  funext u type
  simp only [Db.accepts, Db.findUser, h]

/-- The inner loop warns, in order, the investors who accept deadline notifications, and
changes no user. -/
theorem notifyInvestors_spec (project : Project) :
    ∀ (db : Db) (investors : List String),
      (notifyInvestors mailer project db investors).users = db.users ∧
      (notifyInvestors mailer project db investors).notifications = db.notifications ++
        (investors.filter (fun u => db.accepts u .DEADLINE)).map (deadlineNotification project)
  | db, [] => by simp [notifyInvestors]
  | db, u :: investors => by
    obtain ⟨hu, hn⟩ := notifyInvestors_spec project
      (notify mailer db u .DEADLINE (deadlineTitle project)
        ("Only 24 hours left for project " ++ project.title ++ " to reach its goal.")
        (some ⟨project.id⟩)) investors
    have hacc := Db.accepts_congr (@notify_users mailer db u .DEADLINE
      (deadlineTitle project)
      ("Only 24 hours left for project " ++ project.title ++ " to reach its goal.")
      (some ⟨project.id⟩))
    refine ⟨hu.trans (notify_users _ _ _ _ _), ?_⟩
    rw [notifyInvestors, List.foldl_cons, ← notifyInvestors, hn, notify_notifications, hacc,
      List.filter_cons]
    split <;> simp [deadlineNotification]

/-- How many warnings about project `pid` user `u` finds among the warnings for a list of
distinct investors of `project`. -/
theorem countP_deadlineNotification (project : Project) {investors : List String}
    (hnodup : investors.Nodup) (u pid : String) :
    (investors.map (deadlineNotification project)).countP
        (fun n => n.userId = u ∧ n.type = .DEADLINE ∧ n.data = some ⟨pid⟩) =
      if u ∈ investors ∧ project.id = pid then 1 else 0 := by
  rw [List.countP_map]
  by_cases hp : project.id = pid
  · have hu : (fun n : Notification => decide (n.userId = u ∧ n.type = .DEADLINE ∧
        n.data = some ⟨pid⟩)) ∘ deadlineNotification project = (· == u) := by
      funext v
      simp only [Function.comp_apply, deadlineNotification, hp, and_true]
      rfl
    rw [hu, ← List.count_eq_countP, List.count_eq_of_nodup hnodup]
    simp [hp]
  · rw [List.countP_eq_zero.mpr fun v _ => by simp [deadlineNotification, hp]]
    simp [hp]

/-- Warning the investors of `project` adds one warning about `pid` for `u` exactly when
`u` is one of them, accepts deadline notifications, and `pid` is the project's id. -/
theorem notifyInvestors_deadlineAlertsFor (project : Project) (db : Db)
    {investors : List String} (hnodup : investors.Nodup) (u pid : String) :
    (notifyInvestors mailer project db investors).deadlineAlertsFor u pid =
      db.deadlineAlertsFor u pid +
        if u ∈ investors ∧ db.accepts u .DEADLINE ∧ project.id = pid then 1 else 0 := by
  rw [Db.deadlineAlertsFor, (notifyInvestors_spec project db investors).2, List.countP_append,
    countP_deadlineNotification project (hnodup.filter _), ← Db.deadlineAlertsFor]
  simp [List.mem_filter, and_assoc]

theorem deadlineTitle_inj {P Q : Project} (h : deadlineTitle Q = deadlineTitle P) :
    Q.title = P.title :=
  String.ext (List.append_cancel_left (congrArg String.data h))

/-- Warning the investors of `project` writes no other warning title. -/
theorem notifyInvestors_hasDeadlineAlert (project : Project) (db : Db)
    (investors : List String) {title : String} (h : deadlineTitle project ≠ title) :
    (notifyInvestors mailer project db investors).hasDeadlineAlert title =
      db.hasDeadlineAlert title := by
  rw [Db.hasDeadlineAlert, (notifyInvestors_spec project db investors).2, List.any_append]
  simp [deadlineNotification, h, Db.hasDeadlineAlert]

theorem alertProject_users (db : Db) (entry : Project × List String) :
    (alertProject mailer db entry).users = db.users := by
  unfold alertProject
  split
  · rfl
  · exact (notifyInvestors_spec _ _ _).1

theorem alertProject_deadlineAlertsFor (db : Db) (entry : Project × List String)
    (hnodup : entry.2.Nodup) (u pid : String) :
    (alertProject mailer db entry).deadlineAlertsFor u pid =
      db.deadlineAlertsFor u pid +
        if db.hasDeadlineAlert (deadlineTitle entry.1) = false ∧ u ∈ entry.2 ∧
          db.accepts u .DEADLINE ∧ entry.1.id = pid then 1 else 0 := by
  unfold alertProject
  split
  · case isTrue h => simp [h]
  · case isFalse h => simp [h, notifyInvestors_deadlineAlertsFor _ _ hnodup]

theorem alertProject_hasDeadlineAlert (db : Db) (entry : Project × List String)
    {title : String} (h : deadlineTitle entry.1 ≠ title) :
    (alertProject mailer db entry).hasDeadlineAlert title = db.hasDeadlineAlert title := by
  unfold alertProject
  split
  · rfl
  · exact notifyInvestors_hasDeadlineAlert _ _ _ h

/-- What one iteration writes: after the notifications already there, the project's warning
to each of its listed investors who accepts deadline notifications, or nothing when the
guard skips the project. -/
theorem alertProject_notifications (db : Db) (entry : Project × List String) :
    ∃ added, (alertProject mailer db entry).notifications = db.notifications ++ added ∧
      ∀ n ∈ added, ∃ u ∈ entry.2, db.accepts u .DEADLINE ∧
        n = deadlineNotification entry.1 u := by
  unfold alertProject
  split
  · exact ⟨[], by simp, by simp⟩
  · refine ⟨_, (notifyInvestors_spec entry.1 db entry.2).2, fun n hn => ?_⟩
    obtain ⟨u, hu, rfl⟩ := List.mem_map.mp hn
    obtain ⟨hu, hacc⟩ := List.mem_filter.mp hu
    exact ⟨u, hu, hacc, rfl⟩

/-- Notifications are only appended, so a warning title once written stays written. -/
theorem alertProject_hasDeadlineAlert_of_true (db : Db) (entry : Project × List String)
    {title : String} (h : db.hasDeadlineAlert title = true) :
    (alertProject mailer db entry).hasDeadlineAlert title = true := by
  obtain ⟨added, hadded, -⟩ := @alertProject_notifications mailer db entry
  rw [Db.hasDeadlineAlert, hadded, List.any_append, ← Db.hasDeadlineAlert, h, Bool.true_or]

/-! ## A run -/

section Run

variable (mailer)

theorem foldl_alertProject_users :
    ∀ (L : List (Project × List String)) (db : Db),
      (L.foldl (alertProject mailer) db).users = db.users
  | [], _ => rfl
  | e :: L, db => (foldl_alertProject_users L _).trans (alertProject_users db e)

/-- The outer loop only appends warnings, each about a listed project, to one of its listed
investors who accepted deadline notifications before the run. -/
theorem foldl_alertProject_notifications :
    ∀ (L : List (Project × List String)) (db : Db), ∃ added,
      (L.foldl (alertProject mailer) db).notifications = db.notifications ++ added ∧
      ∀ n ∈ added, ∃ e ∈ L, ∃ u ∈ e.2, db.accepts u .DEADLINE ∧
        n = deadlineNotification e.1 u
  | [], db => ⟨[], by simp, by simp⟩
  | e :: L, db => by
    obtain ⟨a₁, h₁, hn₁⟩ := alertProject_notifications db e
    obtain ⟨a₂, h₂, hn₂⟩ := foldl_alertProject_notifications L (alertProject mailer db e)
    have hacc := Db.accepts_congr (@alertProject_users mailer db e)
    refine ⟨a₁ ++ a₂, by rw [List.foldl_cons, h₂, h₁, List.append_assoc], fun n hn => ?_⟩
    rcases List.mem_append.mp hn with hn | hn
    · obtain ⟨u, hu, ha, rfl⟩ := hn₁ n hn
      exact ⟨e, List.mem_cons_self _ _, u, hu, ha, rfl⟩
    · obtain ⟨e', he', u, hu, ha, rfl⟩ := hn₂ n hn
      exact ⟨e', List.mem_cons_of_mem _ he', u, hu, hacc ▸ ha, rfl⟩

/-- Projects other than `pid` leave the warnings about `pid` alone. -/
theorem foldl_alertProject_deadlineAlertsFor {pid : String} (u : String) :
    ∀ (L : List (Project × List String)), (∀ e ∈ L, e.2.Nodup ∧ e.1.id ≠ pid) →
      ∀ db : Db, (L.foldl (alertProject mailer) db).deadlineAlertsFor u pid =
        db.deadlineAlertsFor u pid
  | [], _, _ => rfl
  | e :: L, hL, db => by
    rw [List.foldl_cons, foldl_alertProject_deadlineAlertsFor u L
      (fun e' he' => hL e' (List.mem_cons_of_mem _ he')),
      alertProject_deadlineAlertsFor db e (hL e (List.mem_cons_self _ _)).1]
    simp [(hL e (List.mem_cons_self _ _)).2]

/-- Projects with other titles write no warning with `title`. -/
theorem foldl_alertProject_hasDeadlineAlert {title : String} :
    ∀ (L : List (Project × List String)), (∀ e ∈ L, deadlineTitle e.1 ≠ title) →
      ∀ db : Db, (L.foldl (alertProject mailer) db).hasDeadlineAlert title =
        db.hasDeadlineAlert title
  | [], _, _ => rfl
  | e :: L, hL, db => by
    rw [List.foldl_cons, foldl_alertProject_hasDeadlineAlert L
      (fun e' he' => hL e' (List.mem_cons_of_mem _ he')),
      alertProject_hasDeadlineAlert db e (hL e (List.mem_cons_self _ _))]

/-- A user who does not accept deadline notifications gains no warning from any project. -/
theorem foldl_alertProject_deadlineAlertsFor_of_muted {u pid : String} :
    ∀ (L : List (Project × List String)), (∀ e ∈ L, e.2.Nodup) →
      ∀ db : Db, db.accepts u .DEADLINE = false →
        (L.foldl (alertProject mailer) db).deadlineAlertsFor u pid = db.deadlineAlertsFor u pid
  | [], _, _, _ => rfl
  | e :: L, hL, db, hmute => by
    have hacc : (alertProject mailer db e).accepts = db.accepts :=
      Db.accepts_congr (alertProject_users db e)
    rw [List.foldl_cons, foldl_alertProject_deadlineAlertsFor_of_muted L
      (fun e' he' => hL e' (List.mem_cons_of_mem _ he')) _ (by rw [hacc, hmute]),
      alertProject_deadlineAlertsFor db e (hL e (List.mem_cons_self _ _))]
    simp [hmute]

/-- Once the warning title of `P` exists, the loop skips every project with `P`'s id and
title, and no other project writes a warning about `P`'s id. -/
theorem foldl_alertProject_of_alerted {P : Project} (u : String) :
    ∀ (L : List (Project × List String)),
      (∀ e ∈ L, e.2.Nodup ∧ (e.1.id = P.id → e.1.title = P.title)) →
      ∀ db : Db, db.hasDeadlineAlert (deadlineTitle P) = true →
        (L.foldl (alertProject mailer) db).deadlineAlertsFor u P.id =
            db.deadlineAlertsFor u P.id ∧
          (L.foldl (alertProject mailer) db).hasDeadlineAlert (deadlineTitle P) = true
  | [], _, _, halert => ⟨rfl, halert⟩
  | e :: L, hL, db, halert => by
    obtain ⟨hnodup, htitle⟩ := hL e (List.mem_cons_self _ _)
    have hskip : (alertProject mailer db e).deadlineAlertsFor u P.id =
        db.deadlineAlertsFor u P.id := by
      rw [alertProject_deadlineAlertsFor db e hnodup, if_neg, Nat.add_zero]
      rintro ⟨hfresh, -, -, hid⟩
      rw [deadlineTitle, htitle hid, ← deadlineTitle, halert] at hfresh
      cases hfresh
    rw [List.foldl_cons, ← hskip]
    exact foldl_alertProject_of_alerted u L (fun e' he' => hL e' (List.mem_cons_of_mem _ he'))
      _ (alertProject_hasDeadlineAlert_of_true db e halert)

end Run

theorem nearingDeadline_nodup (db : Db) (now : ℕ) :
    ∀ e ∈ nearingDeadline db now, e.2.Nodup := by
  intro e he
  obtain ⟨P, -, rfl⟩ := List.mem_map.mp he
  exact List.nodup_dedup _

theorem nearingDeadline_ids_nodup {db : Db} (hid : (db.projects.map (·.id)).Nodup) (now : ℕ) :
    ((nearingDeadline db now).map (·.1.id)).Nodup := by
  rw [nearingDeadline, List.map_map]
  exact (hid.sublist ((List.filter_sublist _).map _))

/-- A user who does not accept deadline notifications (one who mutes them, or one the
database does not know) gains no deadline warning from a run, and still does not accept
them after it. -/
theorem handleCron_deadlineAlertsFor_of_muted (mailer : Mailer) {db : Db} {u : String}
    (hmute : db.accepts u .DEADLINE = false) (now : ℕ) (pid : String) :
    (DeadlineAlertTask.handleCron mailer db now).deadlineAlertsFor u pid =
        db.deadlineAlertsFor u pid ∧
      (DeadlineAlertTask.handleCron mailer db now).accepts u .DEADLINE = false := by
  refine ⟨foldl_alertProject_deadlineAlertsFor_of_muted mailer _
    (nearingDeadline_nodup db now) db hmute, ?_⟩
  rw [DeadlineAlertTask.handleCron, Db.accepts_congr (foldl_alertProject_users mailer _ db),
    hmute]

/-- A run of the deadline task on any database, for a project `P` it lists with its
distinct investors: provided project ids are unique and no other listed project has `P`'s
title, each user's count of DEADLINE warnings about `P` grows by one if no warning titled
with `P`'s title existed before the run and the user is one of those investors and accepts
deadline notifications, and stays the same otherwise. -/
theorem handleCron_warns_each_investor_once (mailer : Mailer) (db : Db) (now : ℕ)
    (hid : (db.projects.map (·.id)).Nodup) {P : Project} {investors : List String}
    (hP : (P, investors) ∈ nearingDeadline db now)
    (htitle : ∀ Q ∈ nearingDeadline db now, Q.1.id ≠ P.id → Q.1.title ≠ P.title)
    (u : String) :
    (DeadlineAlertTask.handleCron mailer db now).deadlineAlertsFor u P.id =
      db.deadlineAlertsFor u P.id +
        if db.hasDeadlineAlert (deadlineTitle P) = false ∧ u ∈ investors ∧
          db.accepts u .DEADLINE then 1 else 0 := by
  obtain ⟨L₁, L₂, hsplit⟩ := List.append_of_mem hP
  have hids := nearingDeadline_ids_nodup hid now
  rw [hsplit, List.map_append, List.map_cons, List.nodup_append, List.nodup_cons] at hids
  have hnodup := nearingDeadline_nodup db now
  rw [hsplit] at hnodup htitle
  have hother : ∀ L, L = L₁ ∨ L = L₂ → ∀ e ∈ L, e.2.Nodup ∧ e.1.id ≠ P.id := by
    rintro L (rfl | rfl) e he
    · refine ⟨hnodup e (List.mem_append_left _ he), fun h => ?_⟩
      exact hids.2.2 (List.mem_map_of_mem _ he) (by rw [h]; exact List.mem_cons_self _ _)
    · refine ⟨hnodup e (List.mem_append_right _ (List.mem_cons_of_mem _ he)), fun h => ?_⟩
      exact hids.2.1.1 (h ▸ List.mem_map_of_mem _ he)
  have htitles : ∀ e ∈ L₁, deadlineTitle e.1 ≠ deadlineTitle P := fun e he h =>
    htitle e (List.mem_append_left _ he) (hother L₁ (.inl rfl) e he).2 (deadlineTitle_inj h)
  rw [DeadlineAlertTask.handleCron, hsplit, List.foldl_append, List.foldl_cons,
    foldl_alertProject_deadlineAlertsFor mailer u L₂ (hother L₂ (.inr rfl)),
    alertProject_deadlineAlertsFor _ _ (hnodup _ (by simp)),
    foldl_alertProject_deadlineAlertsFor mailer u L₁ (hother L₁ (.inl rfl)),
    foldl_alertProject_hasDeadlineAlert mailer L₁ htitles,
    Db.accepts_congr (foldl_alertProject_users mailer L₁ db)]
  simp

/-- A run of the deadline task on any database in which project ids are unique, for any
project `P` of the database: once a DEADLINE notification titled with `P`'s warning title
exists, whichever project it was written for, the run warns no one about `P`, and the title
is still there for the next run. So a project that shares its title with a project warned
earlier is never warned at all, though the guard is meant as one warning per project. -/
theorem warned_title_silences_project (mailer : Mailer) (db : Db) (now : ℕ)
    (hid : (db.projects.map (·.id)).Nodup) {P : Project} (hP : P ∈ db.projects)
    (halert : db.hasDeadlineAlert (deadlineTitle P) = true) (u : String) :
    (DeadlineAlertTask.handleCron mailer db now).deadlineAlertsFor u P.id =
        db.deadlineAlertsFor u P.id ∧
      (DeadlineAlertTask.handleCron mailer db now).hasDeadlineAlert (deadlineTitle P) =
        true := by
  refine foldl_alertProject_of_alerted mailer u _
    (fun e he => ⟨nearingDeadline_nodup db now e he, fun h => ?_⟩) db halert
  obtain ⟨Q, hQ, rfl⟩ := List.mem_map.mp he
  exact congrArg Project.title (List.inj_on_of_nodup_map hid (List.mem_filter.mp hQ).1 hP h)

/-- A run of the deadline task on any database, at any time, only appends to the
notifications, and everything it appends is the 24-hour warning about an ACTIVE project
whose deadline lies in the next 24 hours, addressed to a user who contributed to that
project and accepted deadline notifications when the run began. -/
theorem handleCron_only_warns_contributors (mailer : Mailer) (db : Db) (now : ℕ) :
    ∃ added, (DeadlineAlertTask.handleCron mailer db now).notifications =
        db.notifications ++ added ∧
      ∀ n ∈ added, ∃ P ∈ db.projects, P.status = "ACTIVE" ∧ now < P.deadline ∧
        P.deadline ≤ now + DAY_MS ∧
        (∃ c ∈ db.contributions, c.projectId = P.id ∧ c.investorId = n.userId) ∧
        db.accepts n.userId .DEADLINE ∧ n = deadlineNotification P n.userId := by
  obtain ⟨added, h, hn⟩ := foldl_alertProject_notifications mailer (nearingDeadline db now) db
  refine ⟨added, h, fun n hmem => ?_⟩
  obtain ⟨e, he, u, hu, hacc, rfl⟩ := hn n hmem
  obtain ⟨P, hP, rfl⟩ := List.mem_map.mp he
  obtain ⟨hP, hcond⟩ := List.mem_filter.mp hP
  simp only [decide_eq_true_eq] at hcond
  obtain ⟨c, hc, rfl⟩ := List.mem_map.mp (List.mem_dedup.mp hu)
  obtain ⟨hc, hcp⟩ := List.mem_filter.mp hc
  exact ⟨P, hP, hcond.1, hcond.2.1, hcond.2.2, ⟨c, hc, of_decide_eq_true hcp, rfl⟩, hacc, rfl⟩

end Loop

/-! ## Runs on an example database -/

/-- A mailer without an API key: `sendEmail` sends nothing. -/
def quietMailer : Mailer := ⟨false, fun _ _ _ => none⟩

/-- A project whose deadline is an hour after time `86400000`. -/
def launchProject : Project := ⟨"p1", "Solar Grid", "ACTIVE", 90000000⟩

/-- The project with one investor, `u1`; user `u2` has not contributed yet. -/
def launchDb : Db where
  projects := [launchProject]
  contributions := [⟨"p1", "u1"⟩]
  users := [⟨"u1", none, none⟩, ⟨"u2", none, none⟩]
  notifications := []
  emailOutbox := []

/-- The first run warns `u1` once. -/
theorem handleCron_warns_each_investor_once_launch :
    (DeadlineAlertTask.handleCron quietMailer launchDb 86400000).deadlineAlertsFor "u1" "p1" =
      1 :=
  (handleCron_warns_each_investor_once quietMailer launchDb 86400000 (by decide)
    (by decide : (launchProject, ["u1"]) ∈ nearingDeadline launchDb 86400000)
    (by decide) "u1").trans (by decide)

/-- A project titled like `p0` whose deadline comes a day later. -/
def namesakeProject : Project := ⟨"p1", "Solar Grid", "ACTIVE", 176400000⟩

/-- `p0` ends an hour after time `86400000` and `namesakeProject` a day after it; `u0`
invested in `p0` and `u1` in `p1`. -/
def namesakeDb : Db where
  projects := [⟨"p0", "Solar Grid", "ACTIVE", 90000000⟩, namesakeProject]
  contributions := [⟨"p0", "u0"⟩, ⟨"p1", "u1"⟩]
  users := [⟨"u0", none, none⟩, ⟨"u1", none, none⟩]
  notifications := []
  emailOutbox := []

/-- The run at time `86400000` warns `u0` about `p0`. A day later the next run lists `p1`
with its investor `u1`, who accepts deadline notifications, but finds the title of `p0`'s
warning and skips `p1`: `u1` is never warned. -/
theorem warned_title_silences_project_namesake :
    let db₁ := DeadlineAlertTask.handleCron quietMailer namesakeDb 86400000
    db₁.deadlineAlertsFor "u0" "p0" = 1 ∧
      (namesakeProject, ["u1"]) ∈ nearingDeadline db₁ 172800000 ∧
      db₁.accepts "u1" .DEADLINE ∧
      (DeadlineAlertTask.handleCron quietMailer db₁ 172800000).deadlineAlertsFor "u1" "p1" =
        0 :=
  ⟨by decide, by decide, by decide,
    (warned_title_silences_project quietMailer _ 172800000 (by decide) (P := namesakeProject)
      (by decide) (by decide) "u1").1.trans (by decide)⟩

end NovaFund.Backend

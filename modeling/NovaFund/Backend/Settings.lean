import NovaFund.Backend.DeadlineAlert

/-!
# Notification preferences

`NotificationController` reads and writes a user's `notificationSetting` row by upsert
(`notification.controller.ts`). `GET settings/:userId` creates the row with the schema's
defaults when there is none; `PUT settings/:userId` writes the preferences its body gives
and keeps the others, or creates the row from the body and the schema's defaults. The
Prisma schema is not among the sources, so its defaults are a parameter, and the row is
taken to belong to an existing user: for an unknown user the request fails.

The preferences are what `notify` consults: a body that sets a type's preference decides,
by itself, whether the user is notified of that type, and a user who turns deadline
notifications off gets no warning from any later run of the deadline task. Reading the
settings creates a row only where there was none, so when the schema's defaults are
`notify`'s own it changes no delivery.
-/

namespace NovaFund.Backend

/-- The body of `PUT settings/:userId`: every preference is optional. -/
structure SettingsPatch where
  emailEnabled : Option Bool
  pushEnabled : Option Bool
  notifyContributions : Option Bool
  notifyMilestones : Option Bool
  notifyDeadlines : Option Bool
  deriving DecidableEq, Repr

/-- The empty body of `GET settings/:userId`'s `update: {}` and `create: { userId }`. -/
def SettingsPatch.empty : SettingsPatch := ⟨none, none, none, none, none⟩

/-- The preference of a body that decides whether `notify` keeps a notification of
`type`; `SYSTEM` notifications have none. -/
def SettingsPatch.preference (body : SettingsPatch) : NotificationType → Option Bool
  | .CONTRIBUTION => body.notifyContributions
  | .MILESTONE => body.notifyMilestones
  | .DEADLINE => body.notifyDeadlines
  | .SYSTEM => none

/-- The preferences a body gives written over `settings`, the others kept. -/
def NotificationSettings.patch (settings : NotificationSettings) (body : SettingsPatch) :
    NotificationSettings where
  emailEnabled := body.emailEnabled.getD settings.emailEnabled
  pushEnabled := body.pushEnabled.getD settings.pushEnabled
  notifyContributions := body.notifyContributions.getD settings.notifyContributions
  notifyMilestones := body.notifyMilestones.getD settings.notifyMilestones
  notifyDeadlines := body.notifyDeadlines.getD settings.notifyDeadlines

/-- The write of an upsert: user `userId`'s row becomes `settings`. -/
def Db.setSettings (db : Db) (userId : String) (settings : NotificationSettings) : Db :=
  { db with users := db.users.map fun u =>
      if u.id = userId then { u with notificationSettings := some settings } else u }

/-- `notificationSetting.upsert({ where: { userId }, update, create: { userId, ...create } })`:
the user's row patched by `update`, or, without one, the schema's defaults patched by
`create`. The row written and the database, or `none` for an unknown user. -/
def Db.upsertSettings (schemaDefaults : NotificationSettings) (db : Db) (userId : String)
    (update create : SettingsPatch) : Option (NotificationSettings × Db) :=
  (db.findUser userId).map fun user =>
    let settings := match user.notificationSettings with
      | some current => current.patch update
      | none => schemaDefaults.patch create
    (settings, db.setSettings userId settings)

/-- `NotificationController.getSettings(userId)`. -/
def NotificationController.getSettings (schemaDefaults : NotificationSettings) (db : Db)
    (userId : String) : Option (NotificationSettings × Db) :=
  db.upsertSettings schemaDefaults userId .empty .empty

/-- `NotificationController.updateSettings(userId, settings)`. -/
def NotificationController.updateSettings (schemaDefaults : NotificationSettings) (db : Db)
    (userId : String) (settings : SettingsPatch) : Option (NotificationSettings × Db) :=
  db.upsertSettings schemaDefaults userId settings settings

/-! ## What an upsert writes -/

section Upsert

variable {db : Db} {userId : String}

@[simp] theorem NotificationSettings.patch_empty (settings : NotificationSettings) :
    settings.patch .empty = settings := rfl

/-- A body that sets a type's preference decides whether the patched settings mute it. -/
theorem NotificationSettings.mutes_patch (settings : NotificationSettings)
    (body : SettingsPatch) {type : NotificationType} {b : Bool}
    (hb : body.preference type = some b) : (settings.patch body).mutes type = !b := by
  cases type <;> simp_all [SettingsPatch.preference, NotificationSettings.patch,
    NotificationSettings.mutes]

@[simp] theorem Db.setSettings_notifications (settings : NotificationSettings) :
    (db.setSettings userId settings).notifications = db.notifications := rfl

theorem Db.findUser_setSettings (settings : NotificationSettings) (v : String) :
    (db.setSettings userId settings).findUser v = (db.findUser v).map fun u =>
      if v = userId then { u with notificationSettings := some settings } else u := by
  unfold Db.findUser Db.setSettings
  rw [List.find?_map]
  have hp : ((fun u : User => decide (u.id = v)) ∘ fun u =>
      if u.id = userId then { u with notificationSettings := some settings } else u) =
      fun u => decide (u.id = v) := by
    funext u
    simp only [Function.comp_apply]
    split <;> rfl
  rw [hp]
  cases hf : db.users.find? (·.id = v) with
  | none => rfl
  | some u =>
    have hu : u.id = v := by simpa using List.find?_some hf
    simp only [Option.map_some', hu]

/-- The write leaves every other user's row, its settings included, as it was. -/
theorem Db.findUser_setSettings_of_ne (settings : NotificationSettings) {v : String}
    (hv : v ≠ userId) : (db.setSettings userId settings).findUser v = db.findUser v := by
  rw [Db.findUser_setSettings]
  simp [hv]

/-- After the write, the user reads `settings`; no other user's answer changes. -/
theorem Db.accepts_setSettings (settings : NotificationSettings) (v : String)
    (type : NotificationType) :
    (db.setSettings userId settings).accepts v type =
      if v = userId then (db.findUser v).isSome && !settings.mutes type
      else db.accepts v type := by
  unfold Db.accepts
  rw [Db.findUser_setSettings]
  cases db.findUser v <;> by_cases hv : v = userId <;> simp [hv]

/-- A successful upsert found the user and wrote its row. -/
theorem Db.upsertSettings_eq {schemaDefaults : NotificationSettings}
    {update create : SettingsPatch} {settings : NotificationSettings} {db' : Db}
    (h : db.upsertSettings schemaDefaults userId update create = some (settings, db')) :
    ∃ user, db.findUser userId = some user ∧
      settings = (match user.notificationSettings with
        | some current => current.patch update
        | none => schemaDefaults.patch create) ∧
      db' = db.setSettings userId settings := by
  obtain ⟨user, huser, heq⟩ := Option.map_eq_some'.mp h
  cases heq
  exact ⟨user, huser, rfl, rfl⟩

/-- An upsert for an unknown user fails. -/
theorem Db.upsertSettings_eq_none {schemaDefaults : NotificationSettings}
    {update create : SettingsPatch} (h : db.findUser userId = none) :
    db.upsertSettings schemaDefaults userId update create = none := by
  simp [Db.upsertSettings, h]

end Upsert

/-! ## What the preferences decide -/

section Delivery

variable {schemaDefaults : NotificationSettings} {db db' : Db} {userId : String}
  {settings : NotificationSettings}

/-- A body that sets a type's preference decides, whatever the row held, whether `notify`
saves a notification of that type for the user; every other user's row, settings and
address included, stays as it was. -/
theorem updateSettings_decides_notification {body : SettingsPatch}
    (h : NotificationController.updateSettings schemaDefaults db userId body =
      some (settings, db'))
    {type : NotificationType} {b : Bool} (hb : body.preference type = some b)
    (mailer : Mailer) (title message : String) (data : Option NotificationData) :
    (notify mailer db' userId type title message data).notifications =
        db.notifications ++ (if b then [⟨userId, type, title, message, data⟩] else []) ∧
      ∀ v, v ≠ userId → db'.findUser v = db.findUser v := by
  obtain ⟨user, huser, hsettings, rfl⟩ := Db.upsertSettings_eq h
  have hmute : settings.mutes type = !b := by
    rw [hsettings]
    split <;> exact NotificationSettings.mutes_patch _ _ hb
  refine ⟨?_, fun v hv => Db.findUser_setSettings_of_ne settings hv⟩
  rw [notify_notifications, Db.accepts_setSettings, if_pos rfl, huser, hmute]
  cases b <;> rfl

/-- Once a user has turned deadline notifications off, no sequence of runs of the deadline
task gives them a deadline warning about any project. -/
theorem deadline_opt_out_silences_later_runs {body : SettingsPatch}
    (h : NotificationController.updateSettings schemaDefaults db userId body =
      some (settings, db'))
    (hoff : body.notifyDeadlines = some false) (mailer : Mailer) (times : List ℕ)
    (pid : String) :
    (times.foldl (DeadlineAlertTask.handleCron mailer) db').deadlineAlertsFor userId pid =
      db.deadlineAlertsFor userId pid := by
  obtain ⟨user, huser, hsettings, rfl⟩ := Db.upsertSettings_eq h
  have hmute : (db.setSettings userId settings).accepts userId .DEADLINE = false := by
    have hm : settings.mutes .DEADLINE = true := by
      rw [hsettings]
      split <;> exact NotificationSettings.mutes_patch _ _ (b := false) hoff
    rw [Db.accepts_setSettings, if_pos rfl, hm, Bool.not_true, Bool.and_false]
  suffices ∀ (times : List ℕ) (d : Db), d.accepts userId .DEADLINE = false →
      (times.foldl (DeadlineAlertTask.handleCron mailer) d).deadlineAlertsFor userId pid =
        d.deadlineAlertsFor userId pid from this times _ hmute
  intro times
  induction times with
  | nil => exact fun _ _ => rfl
  | cons now times ih =>
    intro d hd
    obtain ⟨hcount, hd'⟩ := handleCron_deadlineAlertsFor_of_muted mailer hd now pid
    rw [List.foldl_cons, ih _ hd', hcount]

/-- `notify` reads a user only through the address and the settings it falls back from;
a database that differs only in a user row that agrees on both notifies alike. -/
theorem notify_setSettings_of_getD {u : User} (hu : db.findUser userId = some u)
    (hsame : (some settings).getD defaultSettings = u.notificationSettings.getD defaultSettings)
    (mailer : Mailer) (v : String) (type : NotificationType) (title message : String)
    (data : Option NotificationData) :
    notify mailer (db.setSettings userId settings) v type title message data =
      { notify mailer db v type title message data with
        users := (db.setSettings userId settings).users } := by
  unfold notify
  rw [Db.findUser_setSettings]
  cases hf : db.findUser v with
  | none => rfl
  | some w =>
    have hw : ((if v = userId then { w with notificationSettings := some settings } else w :
        User).notificationSettings.getD defaultSettings =
          w.notificationSettings.getD defaultSettings) ∧
        (if v = userId then { w with notificationSettings := some settings } else w :
          User).email = w.email := by
      by_cases hv : v = userId
      · subst hv
        rw [hu] at hf
        cases hf
        simp only [if_true, hsame, and_true]
      · simp only [if_neg hv, and_self]
    simp only [Option.map_some', hw.1, hw.2]
    split
    · rfl
    · split <;> (try split_ifs) <;>
        first
        | exact @sendEmail_withUsers _ { db with notifications := _ } _ _ _ _
        | rfl

/-- When the schema's defaults are `notify`'s own, reading a user's settings changes no
delivery: every later `notify` saves and sends what it would have. -/
theorem getSettings_keeps_delivery (hdefaults : schemaDefaults = defaultSettings)
    (h : NotificationController.getSettings schemaDefaults db userId = some (settings, db'))
    (mailer : Mailer) (v : String) (type : NotificationType) (title message : String)
    (data : Option NotificationData) :
    notify mailer db' v type title message data =
      { notify mailer db v type title message data with users := db'.users } := by
  obtain ⟨user, huser, hsettings, rfl⟩ := Db.upsertSettings_eq h
  refine notify_setSettings_of_getD huser ?_ mailer v type title message data
  rw [hsettings]
  split <;> simp_all

end Delivery

/-! ## Preferences on the example database -/

/-- A body that turns deadline notifications off. -/
def deadlineOptOut : SettingsPatch := ⟨none, none, none, none, some false⟩

/-- `u1` turns deadline notifications off: the user's row did not exist and is created. -/
theorem launch_optOut_applies : ∃ settings db',
    NotificationController.updateSettings defaultSettings launchDb "u1" deadlineOptOut =
      some (settings, db') :=
  ⟨_, _, rfl⟩

theorem updateSettings_decides_notification_launch :
    ∃ settings db', NotificationController.updateSettings defaultSettings launchDb "u1"
        deadlineOptOut = some (settings, db') ∧
      (notify quietMailer db' "u1" .DEADLINE "24 Hours Left: Solar Grid" "" none).notifications =
        [] := by
  obtain ⟨settings, db', h⟩ := launch_optOut_applies
  exact ⟨settings, db', h,
    (updateSettings_decides_notification h
      (rfl : deadlineOptOut.preference .DEADLINE = some false) quietMailer _ _ _).1⟩

theorem deadline_opt_out_silences_later_runs_launch :
    ∃ settings db', NotificationController.updateSettings defaultSettings launchDb "u1"
        deadlineOptOut = some (settings, db') ∧
      ([86400000, 88200000].foldl (DeadlineAlertTask.handleCron quietMailer) db').deadlineAlertsFor
        "u1" "p1" = 0 := by
  obtain ⟨settings, db', h⟩ := launch_optOut_applies
  exact ⟨settings, db', h, deadline_opt_out_silences_later_runs h rfl quietMailer _ "p1"⟩

theorem getSettings_keeps_delivery_launch :
    ∃ settings db', NotificationController.getSettings defaultSettings launchDb "u2" =
        some (settings, db') ∧
      notify quietMailer db' "u2" .DEADLINE "24 Hours Left: Solar Grid" "" none =
        { notify quietMailer launchDb "u2" .DEADLINE "24 Hours Left: Solar Grid" "" none with
          users := db'.users } := by
  obtain ⟨settings, db', h⟩ : ∃ settings db',
      NotificationController.getSettings defaultSettings launchDb "u2" = some (settings, db') :=
    ⟨_, _, rfl⟩
  exact ⟨settings, db', h, getSettings_keeps_delivery rfl h quietMailer _ _ _ _ _⟩

end NovaFund.Backend

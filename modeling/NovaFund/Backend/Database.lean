import Mathlib

/-!
# The notification backend's database and services

The rows of the Prisma models the notification backend reads and writes, and the two
services that write them: `NotificationService.notify`, which saves a notification and
dispatches it by e-mail, and `EmailService.sendEmail`, which stores a message it failed to
send in `emailOutbox` for `EmailRetryTask` (`notification.service.ts`,
`email.service.ts`).

SendGrid is the environment: `Mailer.send recipient subject html` is the error message
`sgMail.send` rejects with, or `none` when it accepts. Web push changes no row, so it is
not modelled. The database calls are taken to succeed.
-/

namespace NovaFund.Backend

/-- `Notification["type"]`, the values `notify` accepts. -/
inductive NotificationType
  | CONTRIBUTION | MILESTONE | DEADLINE | SYSTEM
  deriving DecidableEq, Repr

/-- A project row, the fields the deadline task reads. -/
structure Project where
  id : String
  title : String
  status : String
  /-- `deadline`, in milliseconds since the epoch. -/
  deadline : ℕ
  deriving DecidableEq, Repr

/-- A contribution row, the field the deadline task selects. -/
structure Contribution where
  projectId : String
  investorId : String
  deriving DecidableEq, Repr

/-- A `notificationSettings` row. -/
structure NotificationSettings where
  emailEnabled : Bool
  pushEnabled : Bool
  notifyContributions : Bool
  notifyMilestones : Bool
  notifyDeadlines : Bool
  deriving DecidableEq, Repr

/-- A user row with its settings, the fields `notify` reads. -/
structure User where
  id : String
  email : Option String
  notificationSettings : Option NotificationSettings
  deriving DecidableEq, Repr

/-- The `data` the deadline task attaches to a notification, `{ projectId }`. -/
structure NotificationData where
  projectId : String
  deriving DecidableEq, Repr

/-- A notification row. -/
structure Notification where
  userId : String
  type : NotificationType
  title : String
  message : String
  data : Option NotificationData
  deriving DecidableEq, Repr

/-- `emailOutbox["status"]`. -/
inductive OutboxStatus
  | FAILED | SENT
  deriving DecidableEq, Repr

/-- An `emailOutbox` row. -/
structure OutboxEmail where
  id : ℕ
  /-- `to`. -/
  recipient : String
  subject : String
  html : String
  status : OutboxStatus
  attempts : ℕ
  lastError : String
  deriving DecidableEq, Repr

/-- The tables, each a list of rows in storage order. -/
structure Db where
  projects : List Project
  contributions : List Contribution
  users : List User
  notifications : List Notification
  emailOutbox : List OutboxEmail
  deriving DecidableEq, Repr

/-- What SendGrid does with a message: `none` accepts it, `some e` rejects it with
message `e`. `apiKey` is whether `SENDGRID_API_KEY` is set. -/
structure Mailer where
  apiKey : Bool
  send : String → String → String → Option String

/-- `emailOutbox.create` on the table: the schema numbers rows in order and starts
`attempts` at 0. -/
def outboxCreate (table : List OutboxEmail) (recipient subject html : String)
    (status : OutboxStatus) (lastError : String) : List OutboxEmail :=
  table ++ [⟨table.length, recipient, subject, html, status, 0, lastError⟩]

/-- `emailOutbox.create`. -/
def Db.createOutbox (db : Db) (recipient subject html : String) (status : OutboxStatus)
    (lastError : String) : Db :=
  { db with emailOutbox := outboxCreate db.emailOutbox recipient subject html status lastError }

/-- `EmailService.sendEmail(to, subject, html)`: without an API key nothing is sent; a
rejected message is stored as `FAILED` in the outbox and the error rethrown. The result
says whether it threw. -/
def sendEmail (mailer : Mailer) (db : Db) (recipient subject html : String) : Db × Bool :=
  if mailer.apiKey then
    match mailer.send recipient subject html with
    | none => (db, false)
    | some e => (db.createOutbox recipient subject html .FAILED e, true)
  else (db, false)

/-- The settings `notify` uses when a user has none. -/
def defaultSettings : NotificationSettings :=
  ⟨true, false, true, true, true⟩

/-- Whether `notify` drops a notification of type `type` by the user's preferences. -/
def NotificationSettings.mutes (settings : NotificationSettings) :
    NotificationType → Bool
  | .CONTRIBUTION => !settings.notifyContributions
  | .MILESTONE => !settings.notifyMilestones
  | .DEADLINE => !settings.notifyDeadlines
  | .SYSTEM => false

/-- `user.findUnique({ where: { id } })`. -/
def Db.findUser (db : Db) (userId : String) : Option User :=
  db.users.find? (·.id = userId)

/-- `NotificationService.notify(userId, type, title, message, data)`: save the
notification unless the user is missing or mutes the type, then e-mail it if the user has
e-mail enabled and an address, `user.email` being falsy when absent or empty; a failed
e-mail is logged and does not fail `notify`. -/
def notify (mailer : Mailer) (db : Db) (userId : String) (type : NotificationType)
    (title message : String) (data : Option NotificationData) : Db :=
  match db.findUser userId with
  | none => db
  | some user =>
    let settings := user.notificationSettings.getD defaultSettings
    if settings.mutes type then db
    else
      let db := { db with
        notifications := db.notifications ++ [⟨userId, type, title, message, data⟩] }
      match settings.emailEnabled, user.email with
      | true, some email =>
        if email = "" then db
        else (sendEmail mailer db email title ("<p>" ++ message ++ "</p>")).1
      | _, _ => db

/-- Whether `notify(userId, type, ...)` saves a notification. -/
def Db.accepts (db : Db) (userId : String) (type : NotificationType) : Bool :=
  match db.findUser userId with
  | none => false
  | some user => !(user.notificationSettings.getD defaultSettings).mutes type

/-! ## What the services change -/

section Services

variable {mailer : Mailer} {db : Db}

@[simp] theorem Db.createOutbox_notifications (recipient subject html : String)
    (status : OutboxStatus) (lastError : String) :
    (db.createOutbox recipient subject html status lastError).notifications =
      db.notifications := rfl

@[simp] theorem Db.createOutbox_users (recipient subject html : String)
    (status : OutboxStatus) (lastError : String) :
    (db.createOutbox recipient subject html status lastError).users = db.users := rfl

@[simp] theorem sendEmail_notifications (recipient subject html : String) :
    (sendEmail mailer db recipient subject html).1.notifications = db.notifications := by
  unfold sendEmail
  split
  · split <;> rfl
  · rfl

@[simp] theorem sendEmail_users (recipient subject html : String) :
    (sendEmail mailer db recipient subject html).1.users = db.users := by
  unfold sendEmail
  split
  · split <;> rfl
  · rfl

/-- `sendEmail` works the same whatever the users table holds. -/
theorem sendEmail_withUsers (users : List User) (recipient subject html : String) :
    (sendEmail mailer { db with users := users } recipient subject html).1 =
      { (sendEmail mailer db recipient subject html).1 with users := users } := by
  unfold sendEmail
  split
  · split <;> rfl
  · rfl

/-- `notify` saves exactly one notification when the user accepts the type, and none
otherwise. -/
theorem notify_notifications (userId : String) (type : NotificationType)
    (title message : String) (data : Option NotificationData) :
    (notify mailer db userId type title message data).notifications =
      db.notifications ++
        if db.accepts userId type then [⟨userId, type, title, message, data⟩] else [] := by
  unfold notify Db.accepts
  cases db.findUser userId with
  | none => simp
  | some user =>
    by_cases hmute : (user.notificationSettings.getD defaultSettings).mutes type
    · simp [hmute]
    · simp only [hmute, Bool.false_eq_true, if_false, Bool.not_false, if_true]
      split <;> (try split) <;> simp

@[simp] theorem notify_users (userId : String) (type : NotificationType)
    (title message : String) (data : Option NotificationData) :
    (notify mailer db userId type title message data).users = db.users := by
  unfold notify
  cases db.findUser userId with
  | none => rfl
  | some user =>
    by_cases hmute : (user.notificationSettings.getD defaultSettings).mutes type
    · simp [hmute]
    · simp only [hmute, Bool.false_eq_true, if_false]
      split <;> (try split) <;> simp

end Services

end NovaFund.Backend

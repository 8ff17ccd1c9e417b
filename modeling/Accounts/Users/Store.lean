import Accounts.Base.Table
import Accounts.Users.User

/-!
# The table of users

The users in the database (`internal/store/postgres.go`), and the calls that
write them: `updateUser`, which writes every column of a row from the record it
is given, and three calls that write single columns, when a password is
recovered (`completePasswordRecovery`), when the second factor of a user is
reset (`decideMFAResetRequest`), and when an administrator activates or
deactivates a user (`setUserActiveWithAudit`). A call is one transaction.

The table has all columns of `sql/schema.sql` but `origin_node`, which no call
writes, and `email_verified`, which is generated. Every update sets the column
`updated_at` and adds one to `version`, by triggers; at
one an update no version reaches the end of its column. Sessions, recovery codes
and the audit log are written by these calls, but not read, and left out.
-/

namespace Accounts.Users

open Text Option

/-! ## Rows -/

/-- A row of the table of users. The identifier is the key of the table. -/
structure UserRow where
  username : String
  email : Option String
  emailVerifiedAt : Option Time
  password : String
  mfaTOTPSecret : Option String
  mfaEnabled : Bool
  mfaSecretIssuedAt : Option Time
  mfaConfirmedAt : Option Time
  createdAt : Time
  updatedAt : Time
  version : Int := 0
  level : Int
  role : String
  groups : List String
  permissions : List String
  active : Bool
  proxyUUID : String
  proxyUUIDExpiresAt : Option Time
  subscriptionValidFrom : Option Time
  subscriptionValidUntil : Option Time
  lastActiveAt : Option Time
  archivedAt : Option Time
  deriving DecidableEq

/-- The row of a user of a plan, for examples. -/
def UserRow.sample (username email group proxyUUID : String) : UserRow where
  username := username
  email := some email
  emailVerifiedAt := some (Time.unix 0)
  password := ""
  mfaTOTPSecret := none
  mfaEnabled := false
  mfaSecretIssuedAt := none
  mfaConfirmedAt := none
  createdAt := Time.unix 0
  updatedAt := Time.unix 0
  level := 20
  role := "user"
  groups := [group]
  permissions := []
  active := true
  proxyUUID := proxyUUID
  proxyUUIDExpiresAt := none
  subscriptionValidFrom := none
  subscriptionValidUntil := none
  lastActiveAt := none
  archivedAt := none

/-- A challenge that lets a user set a new password. -/
structure PasswordRecoveryChallenge where
  userID : String
  expiresAt : Time
  lockedUntil : Option Time
  consumedAt : Option Time
  invalidatedAt : Option Time

/-- The state of a request to reset the second factor of a user. -/
inductive MFAResetStatus
  | pendingEmail
  | pendingReview
  | approved
  | rejected
  | expired
  deriving DecidableEq

/-- A request to reset the second factor of a user, with the email address and
    the fingerprint of the secret it was made for. -/
structure MFAResetRequest where
  userID : String
  email : String
  fingerprint : String
  status : MFAResetStatus
  reviewReason : String
  expiresAt : Time

/-- The tables. -/
structure Store where
  users : Table String UserRow
  passwordRecovery : Table String PasswordRecoveryChallenge
  mfaResetRequests : Table String MFAResetRequest

/-- Why a call is refused. -/
inductive UserError
  | emailExists
  | nameExists
  | invalidName
  | userNotFound
  | userAlreadyArchived
  | passwordRecoveryInvalid
  | mfaResetConflict
  | actorRequired
  | noRows
  | unexpectedNull
  deriving DecidableEq

/-! ## Reading and writing whole rows -/

/-- An empty text is stored as no text. -/
def nullForEmpty (value : String) : Option String :=
  if trimSpace value = "" then none else some value

/-- The zero time is stored as no time. -/
def nullForZero (t : Time) : Option Time := if t.isZero then none else some t

section

variable [Unicode]

/-- A row as the program reads it. -/
def scanUser (id : String) (row : UserRow) : User :=
  normalizeUserRoleFields
    { id := id
      name := trimSpace row.username
      email := toLower (trimSpace (row.email.getD ""))
      level := row.level
      role := trimSpace row.role
      groups := normalizeStringSlice row.groups
      permissions := normalizeStringSlice row.permissions
      emailVerified := row.emailVerifiedAt.isSome
      passwordHash := row.password
      mfaTOTPSecret := trimSpace (row.mfaTOTPSecret.getD "")
      mfaEnabled := row.mfaEnabled
      mfaSecretIssuedAt := row.mfaSecretIssuedAt.getD 0
      mfaConfirmedAt := row.mfaConfirmedAt.getD 0
      createdAt := row.createdAt
      updatedAt := row.updatedAt
      active := row.active
      proxyUUID := trimSpace row.proxyUUID
      proxyUUIDExpiresAt := row.proxyUUIDExpiresAt
      subscriptionValidFrom := row.subscriptionValidFrom
      subscriptionValidUntil := row.subscriptionValidUntil
      lastActiveAt := row.lastActiveAt
      archivedAt := row.archivedAt }

/-- The user with an identifier. -/
def getUserByID (s : Store) (id : String) : Except UserError User :=
  match s.users.lookup id with
  | none => .error .userNotFound
  | some row => .ok (scanUser id row)

/-- Another row has the value `v` in a column with a unique index. -/
def takenByOther (s : Store) (id : String) (column : UserRow → Option String) (v : String) : Bool :=
  s.users.entries.any fun e =>
    e.1 != id && (column e.2).map toLower == some (toLower v)

/-- The row with all columns written from a record. -/
def writtenRow (env : Env) (user : User) (row : UserRow) : UserRow where
  username := trimSpace user.name
  email := some (toLower (trimSpace user.email))
  emailVerifiedAt := if user.emailVerified then some (row.emailVerifiedAt.getD env.now) else none
  password := user.passwordHash
  mfaTOTPSecret := nullForEmpty user.mfaTOTPSecret
  mfaEnabled := user.mfaEnabled
  mfaSecretIssuedAt := nullForZero user.mfaSecretIssuedAt
  mfaConfirmedAt := nullForZero user.mfaConfirmedAt
  createdAt := row.createdAt
  updatedAt := env.now
  version := row.version + 1
  level := user.level
  role := user.role
  groups := normalizeStringSlice user.groups
  permissions := normalizeStringSlice user.permissions
  active := user.active
  proxyUUID := user.proxyUUID
  proxyUUIDExpiresAt := user.proxyUUIDExpiresAt
  subscriptionValidFrom := user.subscriptionValidFrom
  subscriptionValidUntil := user.subscriptionValidUntil
  lastActiveAt := user.lastActiveAt
  archivedAt := user.archivedAt

/-- The record of a user before it is written: it gets a proxy identifier when it has none. -/
def preparedUser (env : Env) (user : User) : User :=
  normalizeUserRoleFields { user with
    proxyUUID := if trimSpace user.proxyUUID = "" then env.uuid.val else user.proxyUUID }

/-- The record of a user after it was written as `row`. -/
def savedUser (row : UserRow) (user : User) : User :=
  { user with
    name := row.username
    email := row.email.getD ""
    createdAt := row.createdAt
    updatedAt := row.updatedAt }

/-- Writing a user back. The record is changed too, also when the call fails:
    it comes with the result. -/
def updateUser (env : Env) (s : Store) (user : User) : User × Except UserError Store :=
  if trimSpace user.name = "" then (user, .error .invalidName) else
  let user := preparedUser env user
  match s.users.lookup user.id with
  | none => (user, .error .userNotFound)
  | some row =>
    let row' := writtenRow env user row
    if takenByOther s user.id (fun r => some r.username) row'.username then
      (user, .error .nameExists)
    else if takenByOther s user.id UserRow.email (row'.email.getD "") then
      (user, .error .emailExists)
    else (savedUser row' user, .ok { s with users := s.users.insert user.id row' })

end

/-! ## Writing single columns -/

/-- Setting the password of the user a challenge was made for, once. -/
def completePasswordRecovery (env : Env) (s : Store) (challengeID passwordHash : String)
    (now : Time) : Except UserError Store :=
  match s.passwordRecovery.lookup challengeID with
  | none => .error .passwordRecoveryInvalid
  | some challenge =>
    if challenge.consumedAt.isSome ∨ challenge.invalidatedAt.isSome ∨ challenge.expiresAt ≤ now ∨
        (∃ t ∈ challenge.lockedUntil, now < t) then .error .passwordRecoveryInvalid else
    match s.users.lookup challenge.userID with
    | none => .error .passwordRecoveryInvalid
    | some row => .ok { s with
        passwordRecovery := s.passwordRecovery.insert challengeID
          { challenge with consumedAt := some now }
        users := s.users.insert challenge.userID
          { row with password := passwordHash, updatedAt := env.now, version := row.version + 1 } }

/-- The fingerprint of the secret of a second factor. -/
def mfaFingerprint [Sha256] (secret : String) : String := Sha256.hex secret

/-- What a request to reset the second factor of a user was made for is still there. -/
def validMFAResetUser [Unicode] [Sha256] (row : UserRow) (email : String) (r : MFAResetRequest) :
    Bool :=
  row.active && row.emailVerifiedAt.isSome && row.mfaEnabled &&
    trimSpace (row.mfaTOTPSecret.getD "") != "" && equalFold email r.email &&
    mfaFingerprint (row.mfaTOTPSecret.getD "") == r.fingerprint

variable (env : Env) (s : Store) (id : String)

/-- Deciding a request to reset the second factor of a user: when it is
    approved, the factor is cleared. -/
def decideMFAResetRequest [Unicode] [Sha256] (actorID decision reason : String) (now : Time) :
    Except UserError Store :=
  if (decision ≠ "approved" ∧ decision ≠ "rejected") ∨ trimSpace reason = "" then
    .error .mfaResetConflict else
  match s.mfaResetRequests.lookup id with
  | none => .error .noRows
  | some r =>
    if r.userID = actorID then .error .mfaResetConflict else
    match s.users.lookup r.userID with
    | none => .error .noRows
    | some row =>
      match row.email with
      | none => .error .unexpectedNull
      | some email =>
        if r.status ≠ .pendingReview ∨ r.expiresAt ≤ now ∨ ¬ validMFAResetUser row email r then
          .error .mfaResetConflict else
        match s.users.lookup actorID with
        | none => .error .noRows
        | some actor =>
          if ¬ isRootRole actor.role ∨ ¬ actor.active ∨ ¬ actor.mfaEnabled then
            .error .mfaResetConflict else
          let decided := if decision = "approved" then MFAResetStatus.approved else .rejected
          .ok { s with
            users := if decision = "approved" then
                s.users.insert r.userID { row with
                    mfaTOTPSecret := some ""
                    mfaEnabled := false
                    mfaSecretIssuedAt := none
                    mfaConfirmedAt := none
                    updatedAt := env.now
                    version := row.version + 1 }
              else s.users
            mfaResetRequests := s.mfaResetRequests.insert id
              { r with status := decided, reviewReason := reason } }

/-- Activating or deactivating a user. -/
def setUserActiveWithAudit (active : Bool) (actor : String) : Except UserError Store :=
  if trimSpace actor = "" then .error .actorRequired else
  match s.users.lookup id with
  | none => .error .userNotFound
  | some row =>
    if active ∧ row.archivedAt.isSome then .error .userAlreadyArchived else
    if row.active = active then .ok s else
    .ok { s with
      users := s.users.insert id
        { row with active := active, updatedAt := env.now, version := row.version + 1 } }

end Accounts.Users

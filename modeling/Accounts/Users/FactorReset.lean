import Accounts.Users.Recovery
import Accounts.Users.WriteBack

/-!
# Resetting the second factor of a user

A user who lost the second factor asks for a reset (`internal/store/mfa_reset.go`,
`api/mfa_reset.go`): a request is stored with a fingerprint of the factor, a code
sent by email puts it in review, and a root user approves or rejects it. An
approval clears the factor and ends the sessions of the user. Both stores are
modelled, the one in memory and the one in the database; a call of either is
atomic. The same definitions serve both, over the columns they read of a user
(`Columns`).

* `Effect`: what a call of either store can do (`Memory.lawful`,
  `Postgres.lawful`);
* `resets_run`: a factor is cleared only by a user update whose record has none,
  or by a due approval, and a factor that was cleared by an approval is not
  used, unless a user update writes it back;
* `Sample.cleared_and_restored`: user updates do both.
-/

namespace Accounts.FactorReset

open Table Users Text Except Run
open Recovery (Bcrypt)

/-! ## Requests, sessions and users -/

/-- A request as it is stored. Who reviewed it, and when, is not read by any call. -/
structure ResetRequest extends MFAResetRequest where
  codeHash : String
  reason : String
  failedAttempts : Int
  createdAt : Time

/-- A new request, as the handler makes it. -/
structure Draft where
  id : String
  userID : String
  email : String
  fingerprint : String
  codeHash : String
  createdAt : Time
  expiresAt : Time

/-- The request a draft is stored as. -/
def Draft.request (draft : Draft) : ResetRequest where
  userID := draft.userID
  email := draft.email
  fingerprint := draft.fingerprint
  status := .pendingEmail
  reviewReason := ""
  expiresAt := draft.expiresAt
  codeHash := draft.codeHash
  reason := ""
  failedAttempts := 0
  createdAt := draft.createdAt

/-- A session. The fingerprint of the factor it was made with is not stored: it is
    kept here to state what holds. -/
structure Session where
  userID : String
  expiresAt : Time
  factor : String

/-- The users, the requests, and the sessions. -/
structure Store (U : Type) where
  users : Table String U
  requests : Table String ResetRequest
  sessions : Table String Session

/-- Before any request is made. -/
def Store.init {U : Type} (users : Table String U) (sessions : Table String Session) : Store U :=
  ⟨users, ∅, sessions⟩

/-- What is read and written of a user. -/
class Columns (U : Type) where
  email : U → Option String
  active : U → Bool
  emailVerified : U → Bool
  mfaEnabled : U → Bool
  secret : U → String
  role : U → String
  /-- What is stored for the secret of a record that is written. -/
  stored : String → String
  /-- The factor is cleared. -/
  clear : Time → U → U
  mfaEnabled_clear : ∀ now u, mfaEnabled (clear now u) = false

/-- In memory a user is kept as the program holds it. -/
instance : Columns User where
  email u := some u.email
  active := User.active
  emailVerified := User.emailVerified
  mfaEnabled := User.mfaEnabled
  secret := User.mfaTOTPSecret
  role := User.role
  stored secret := secret
  clear _ u :=
    { u with mfaEnabled := false, mfaTOTPSecret := "", mfaConfirmedAt := 0, mfaSecretIssuedAt := 0 }
  mfaEnabled_clear _ _ := rfl

/-- In the database a user is a row. -/
instance : Columns UserRow where
  email := UserRow.email
  active := UserRow.active
  emailVerified row := row.emailVerifiedAt.isSome
  mfaEnabled := UserRow.mfaEnabled
  secret row := row.mfaTOTPSecret.getD ""
  role := UserRow.role
  stored secret := (nullForEmpty secret).getD ""
  clear now row :=
    { row with
      mfaTOTPSecret := some ""
      mfaEnabled := false
      mfaSecretIssuedAt := none
      mfaConfirmedAt := none
      updatedAt := now
      version := row.version + 1 }
  mfaEnabled_clear _ _ := rfl

/-- Why a call is refused. A constraint of the database has a name. -/
inductive ResetError
  | user (e : UserError)
  | constraint (name : String)
  deriving DecidableEq

/-- The call comes too late, or should not be made. -/
def conflict : ResetError := .user .mfaResetConflict

/-! ## Calls of the stores -/

section

variable {U : Type} [Columns U] [Unicode] [Sha256]

/-- The user still is as the request was made for. -/
def validMFAResetUser (u : U) (email : String) (r : ResetRequest) : Bool :=
  Columns.active u && Columns.emailVerified u && Columns.mfaEnabled u &&
    trimSpace (Columns.secret u) != "" && equalFold email r.email &&
    mfaFingerprint (Columns.secret u) == r.fingerprint

/-- The request waits for the code, or for a review. -/
def ResetRequest.isPending (r : ResetRequest) : Bool :=
  r.status = .pendingEmail || r.status = .pendingReview

/-- An earlier request of the user stands in the way of a new one: it is in review,
    or was just made. -/
def Draft.blocked (draft : Draft) (old : ResetRequest) : Bool :=
  old.userID == draft.userID &&
    ((old.status = .pendingReview && decide (draft.createdAt < old.expiresAt)) ||
      decide (draft.createdAt - old.createdAt < Time.minute))

/-- Pending requests of a user expire, those that meet `p`. -/
def lapse (userID : String) (p : String → ResetRequest → Bool) (t : Table String ResetRequest) :
    Table String ResetRequest :=
  mapRows (fun id old => if old.userID = userID ∧ old.isPending ∧ p id old
    then { old with toMFAResetRequest := { old.toMFAResetRequest with status := .expired } }
    else old) t

/-- The request of a draft takes the place of the pending ones of its user. -/
def Store.open (s : Store U) (draft : Draft) : Store U :=
  { s with requests :=
      (lapse draft.userID (fun _ _ => true) s.requests).insert draft.id draft.request }

/-- The code of a request was right: it is put in review, when the user passes the
    check `userOk`. -/
def confirm (userOk : U → ResetRequest → Bool) (s : Store U) (id hash reason : String)
    (now : Time) : Except ResetError (Store U) :=
  match s.requests.lookup id with
  | none => .error conflict
  | some r =>
    if r.status ≠ .pendingEmail ∨ r.codeHash ≠ hash ∨ 5 ≤ r.failedAttempts ∨ ¬ now < r.expiresAt ∨
        ¬ (s.users.lookup r.userID).any (userOk · r) then .error conflict else
    let r' := { r with
      status := .pendingReview, reason := reason, expiresAt := now + 7 * Time.day, codeHash := "" }
    .ok { s with requests := s.requests.insert id r' }

/-- A wrong code is counted while the request waits for it. -/
def fail (s : Store U) (id : String) : Store U :=
  match s.requests.lookup id with
  | none => s
  | some r =>
    let r' := { r with failedAttempts := r.failedAttempts + 1 }
    if r.status = .pendingEmail then { s with requests := s.requests.insert id r' } else s

/-- A request is decided: when it is approved, the factor of the user is cleared and
    the sessions of the user end. -/
def decided (s : Store U) (now : Time) (id decision reason : String) (r : ResetRequest) (u : U) :
    Store U :=
  let status := if decision = "approved" then MFAResetStatus.approved else .rejected
  let requests := s.requests.insert id { r with status := status, reviewReason := reason }
  if decision = "approved" then
    { users := s.users.insert r.userID (Columns.clear now u)
      requests := requests
      sessions := Table.filter (fun _ session => session.userID != r.userID) s.sessions }
  else { s with requests := requests }

end

namespace Memory

section

variable [Unicode] [Sha256] (s : Store User)

/-- The requests of the user are looked at in no fixed order: those in `visited` come
    before the first that stands in the way, and may expire all the same. -/
def createMFAResetRequest (draft : Draft) (visited : List String) :
    Store User × Option ResetError :=
  match s.users.lookup draft.userID with
  | none => (s, some conflict)
  | some u =>
    if ¬ validMFAResetUser u u.email draft.request then (s, some conflict)
    else if (rows s.requests).any draft.blocked then
      let seen := lapse draft.userID (fun id old => visited.contains id && !draft.blocked old)
        s.requests
      ({ s with requests := seen }, some conflict)
    else (s.open draft, none)

def confirmMFAResetRequest (id hash reason : String) (now : Time) :
    Except ResetError (Store User) :=
  confirm (fun u r => validMFAResetUser u u.email r) s id hash reason now

def failMFAResetCode (id : String) : Store User := fail s id

def decideMFAResetRequest (id actorID decision reason : String) (now : Time) :
    Except ResetError (Store User) :=
  match s.users.lookup actorID, s.requests.lookup id with
  | some actor, some r =>
    if ¬ actor.active ∨ ¬ isRootRole actor.role ∨ ¬ actor.mfaEnabled ∨ r.userID = actorID ∨
        r.status ≠ .pendingReview ∨ ¬ now < r.expiresAt ∨
        (decision ≠ "approved" ∧ decision ≠ "rejected") ∨ trimSpace reason = "" then
      .error conflict else
    match s.users.lookup r.userID with
    | none => .error conflict
    | some u => if ¬ validMFAResetUser u u.email r then .error conflict
      else .ok (decided s now id decision reason r u)
  | _, _ => .error conflict

def createMFASession (token userID fingerprint : String) (expiresAt : Time) :
    Except ResetError (Store User) :=
  match s.users.lookup userID with
  | none => .error conflict
  | some u =>
    if ¬ u.active ∨ ¬ u.mfaEnabled ∨ mfaFingerprint u.mfaTOTPSecret ≠ fingerprint then
      .error conflict
    else .ok { s with sessions := s.sessions.insert token ⟨userID, expiresAt, fingerprint⟩ }

end

section

variable [Unicode]

/-- The groups asked for, with the free grants the user has. -/
def preserveAgentFreeGrantGroups (existing requested : List String) : List String :=
  let isGrant (group : String) : Bool := hasPrefix (trimSpace group) "agent:free-grant:"
  requested.filter (!isGrant ·) ++ (existing.filter isGrant).map trimSpace

/-- The record of a user that is stored for `user`. -/
def updated (env : Env) (existing user : User) : User :=
  normalizeUserRoleFields { user with
      id := existing.id
      name := trimSpace user.name
      email := toLower (trimSpace user.email)
      groups := preserveAgentFreeGrantGroups existing.groups user.groups
      proxyUUID := if trimSpace user.proxyUUID = "" then env.uuid.val
        else trimSpace user.proxyUUID
      createdAt := if user.createdAt.isZero then existing.createdAt else user.createdAt
      updatedAt := if user.updatedAt.isZero then env.now else user.updatedAt }

/-- Writing a user back. Names and addresses are unique; the indexes of the users by
    them are read off the users. -/
def updateUser (env : Env) (s : Store User) (user : User) : Except ResetError (Store User) :=
  match s.users.lookup user.id with
  | none => .error (.user .userNotFound)
  | some existing =>
    let name := toLower (trimSpace user.name)
    let email := toLower (trimSpace user.email)
    if trimSpace user.name = "" then .error (.user .invalidName)
    else if toLower existing.name ≠ name ∧
        (rows s.users).any (fun u => toLower u.name == name) then .error (.user .nameExists)
    else if toLower existing.email ≠ email ∧ email ≠ "" ∧
        (rows s.users).any (fun u => toLower u.email == email) then
      .error (.user .emailExists)
    else .ok { s with users := s.users.insert user.id (updated env existing user) }

end

end Memory

namespace Postgres

section

variable [Unicode] [Sha256]

section

variable (s : Store UserRow)

def createMFAResetRequest (draft : Draft) : Except ResetError (Store UserRow) :=
  match s.users.lookup draft.userID with
  | none => .error (.user .noRows)
  | some row => match row.email with
    | none => .error (.user .unexpectedNull)
    | some email =>
      if ¬ validMFAResetUser row email draft.request then .error conflict
      else if (rows s.requests).any draft.blocked then .error conflict
      else if draft.id ∈ s.requests then .error (.constraint "mfa_reset_requests_pkey")
      else .ok (s.open draft)

/-- The fingerprint is not compared here, but when the request is decided. -/
def confirmMFAResetRequest (id hash reason : String) (now : Time) :
    Except ResetError (Store UserRow) :=
  confirm (fun row r => row.active && row.emailVerifiedAt.isSome && row.mfaEnabled &&
    row.email.map toLower == some (toLower r.email)) s id hash reason now

def failMFAResetCode (id : String) : Store UserRow := fail s id

end

def decideMFAResetRequest (env : Env) (s : Store UserRow) (id actorID decision reason : String)
    (now : Time) : Except ResetError (Store UserRow) :=
  if (decision ≠ "approved" ∧ decision ≠ "rejected") ∨ trimSpace reason = "" then
    .error conflict else
  match s.requests.lookup id with
  | none => .error (.user .noRows)
  | some r =>
    if r.userID = actorID then .error conflict else
    match s.users.lookup r.userID with
    | none => .error (.user .noRows)
    | some row => match row.email with
      | none => .error (.user .unexpectedNull)
      | some email =>
        if r.status ≠ .pendingReview ∨ ¬ now < r.expiresAt ∨ ¬ validMFAResetUser row email r then
          .error conflict else
        match s.users.lookup actorID with
        | none => .error (.user .noRows)
        | some actor =>
          if ¬ isRootRole actor.role ∨ ¬ actor.active ∨ ¬ actor.mfaEnabled then .error conflict
          else .ok (decided s env.now id decision reason r row)

def createMFASession (s : Store UserRow) (token userID fingerprint : String) (expiresAt : Time) :
    Except ResetError (Store UserRow) :=
  match s.users.lookup userID with
  | none => .error (.user .noRows)
  | some row =>
    if ¬ row.active ∨ ¬ row.mfaEnabled ∨ mfaFingerprint (row.mfaTOTPSecret.getD "") ≠ fingerprint
    then .error conflict
    else if token ∈ s.sessions then .error (.constraint "sessions_token_uk")
    else .ok { s with sessions := s.sessions.insert token ⟨userID, expiresAt, fingerprint⟩ }

end

/-- The call that writes a row, on the users alone. -/
def updateUser [Unicode] (env : Env) (s : Store UserRow) (user : User) :
    Except ResetError (Store UserRow) :=
  match (Users.updateUser env ⟨s.users, ∅, ∅⟩ user).2 with
  | .ok written => .ok { s with users := written.users }
  | .error e => .error (.user e)

end Postgres

/-! ## Runs of calls -/

/-- The calls of a store. -/
structure Calls (U : Type) where
  createMFAResetRequest : Store U → Draft → List String → Store U
  confirmMFAResetRequest : Store U → (id hash reason : String) → (now : Time) →
    Except ResetError (Store U)
  failMFAResetCode : Store U → (id : String) → Store U
  decideMFAResetRequest : Env → Store U → (id actorID decision reason : String) → (now : Time) →
    Except ResetError (Store U)
  updateUser : Env → Store U → User → Except ResetError (Store U)
  createMFASession : Store U → (token userID fingerprint : String) → (expiresAt : Time) →
    Except ResetError (Store U)

/-- What happens next. -/
inductive Action
  | createMFAResetRequest (draft : Draft) (visited : List String)
  /-- A handler that has read `copy` as the request `id` checks the code for it. -/
  | confirmMFAReset (id : String) (copy : ResetRequest) (code reason : String) (now : Time)
  | decideMFAResetRequest (env : Env) (id actorID decision reason : String) (now : Time)
  | updateUser (env : Env) (user : User)
  | createMFASession (token userID fingerprint : String) (expiresAt : Time)

/-- A call that is refused changes nothing. -/
def settle {U : Type} (s : Store U) : Except ResetError (Store U) → Store U
  | .ok s' => s'
  | .error _ => s

section

variable [Unicode] [Sha256]

/-- The calls in memory. The identifier of a new request (`uuid.NewString`) is one that
    no request has. -/
def Memory.calls : Calls User where
  createMFAResetRequest s draft visited :=
    if draft.id ∈ s.requests then s else (Memory.createMFAResetRequest s draft visited).1
  confirmMFAResetRequest := Memory.confirmMFAResetRequest
  failMFAResetCode := Memory.failMFAResetCode
  decideMFAResetRequest _ := Memory.decideMFAResetRequest
  updateUser := Memory.updateUser
  createMFASession := Memory.createMFASession

/-- The calls of the database. -/
def Postgres.calls : Calls UserRow where
  createMFAResetRequest s draft _ := settle s (Postgres.createMFAResetRequest s draft)
  confirmMFAResetRequest := Postgres.confirmMFAResetRequest
  failMFAResetCode := Postgres.failMFAResetCode
  decideMFAResetRequest := Postgres.decideMFAResetRequest
  updateUser := Postgres.updateUser
  createMFASession := Postgres.createMFASession

end

section

variable {U : Type} [Bcrypt] (c : Calls U) (s : Store U)

/-- A code is checked against the request that was read: a wrong one is counted, and
    with the right one the request is confirmed, if its code is still the same. -/
def Calls.confirmMFAReset (id : String) (copy : ResetRequest) (code reason : String) (now : Time) :
    Store U :=
  if copy.status ≠ .pendingEmail ∨ 5 ≤ copy.failedAttempts ∨ ¬ now < copy.expiresAt then s
  else if ¬ Bcrypt.agrees copy.codeHash code then c.failMFAResetCode s id
  else settle s (c.confirmMFAResetRequest s id copy.codeHash (trimSpace reason) now)

/-- A step of the store. -/
def Calls.step : Action → Store U
  | .createMFAResetRequest draft visited => c.createMFAResetRequest s draft visited
  | .confirmMFAReset id copy code reason now => c.confirmMFAReset s id copy code reason now
  | .decideMFAResetRequest env id actorID decision reason now =>
    settle s (c.decideMFAResetRequest env s id actorID decision reason now)
  | .updateUser env user => settle s (c.updateUser env s user)
  | .createMFASession token userID fingerprint expiresAt =>
    settle s (c.createMFASession s token userID fingerprint expiresAt)

end

/-! ## What a call does -/

variable {reason : String} {now : Time}

section

variable {U : Type} [Columns U] [Unicode] [Sha256] [Bcrypt]

/-- The fingerprint of the factor a user has to sign in with. -/
def live (u : U) : Option String :=
  if Columns.mfaEnabled u then some (mfaFingerprint (Columns.secret u)) else none

/-- The factor of a user of the store. -/
def Store.live (s : Store U) (id : String) : Option String :=
  (s.users.lookup id).bind FactorReset.live

variable (U) in
/-- The factor a record has when it is written. -/
def carried (user : User) : Option String :=
  if user.mfaEnabled then some (mfaFingerprint (Columns.stored U user.mfaTOTPSecret)) else none

/-- An active root user with a second factor. -/
def isReviewer (u : U) : Prop :=
  Columns.active u ∧ isRootRole (Columns.role u) ∧ Columns.mfaEnabled u

/-- What a call does to the store. -/
inductive Effect (s : Store U) : Action → Store U → Prop
  | refused {a : Action} : Effect s a s
  | lapsed {a : Action} {userID : String} {p : String → ResetRequest → Bool} :
    Effect s a { s with requests := lapse userID p s.requests }
  | created {draft : Draft} {visited : List String} (hid : draft.id ∉ s.requests) :
    Effect s (.createMFAResetRequest draft visited) (s.open draft)
  | failed {a : Action} {id : String} {r : ResetRequest} (hr : s.requests.lookup id = some r)
    (hstatus : r.status = .pendingEmail) : Effect s a { s with
      requests := s.requests.insert id { r with failedAttempts := r.failedAttempts + 1 } }
  | confirmed {id : String} {copy r r' : ResetRequest} {code reason : String} {now : Time}
    (hr : s.requests.lookup id = some r) (hstatus : r.status = .pendingEmail)
    (hfailed : r.failedAttempts < 5) (hcode : Bcrypt.agrees r.codeHash code)
    (huser : r'.userID = r.userID) (hstatus' : r'.status = .pendingReview) :
    Effect s (.confirmMFAReset id copy code reason now)
      { s with requests := s.requests.insert id r' }
  | decided {env : Env} {id actorID decision reason : String} {now time : Time}
    {r : ResetRequest} {u actor : U} (hr : s.requests.lookup id = some r)
    (hstatus : r.status = .pendingReview) (hu : s.users.lookup r.userID = some u)
    (hlive : FactorReset.live u = some r.fingerprint) (hself : actorID ≠ r.userID)
    (hactor : s.users.lookup actorID = some actor) (hreviewer : isReviewer actor) :
    Effect s (.decideMFAResetRequest env id actorID decision reason now)
      (decided s time id decision reason r u)
  | updated {env : Env} {user : User} {u : U} (hlive : FactorReset.live u = carried U user) :
    Effect s (.updateUser env user) { s with users := s.users.insert user.id u }
  | minted {token userID fingerprint : String} {expiresAt : Time}
    (hlive : s.live userID = some fingerprint) :
    Effect s (.createMFASession token userID fingerprint expiresAt) { s with
      sessions := s.sessions.insert token ⟨userID, expiresAt, fingerprint⟩ }

/-- The calls of a store do nothing else, and a session is made only with the factor of the user. -/
structure Lawful (c : Calls U) : Prop where
  effect : ∀ s a, Effect s a (c.step s a)
  live : ∀ {s s' token userID fingerprint expiresAt},
    c.createMFASession s token userID fingerprint expiresAt = .ok s' →
    s.live userID = some fingerprint

variable {u : U}

omit [Unicode] [Bcrypt] in
theorem live_eq_some {fingerprint : String} (henabled : Columns.mfaEnabled u)
    (h : mfaFingerprint (Columns.secret u) = fingerprint) :
    FactorReset.live u = some fingerprint := by
  rw [FactorReset.live, if_pos henabled, h]

omit [Unicode] [Bcrypt] in
theorem live_eq_carried {user : User} (henabled : Columns.mfaEnabled u = user.mfaEnabled)
    (hsecret : Columns.secret u = Columns.stored U user.mfaTOTPSecret) :
    FactorReset.live u = carried U user := by
  rw [FactorReset.live, carried, henabled, hsecret]

omit [Bcrypt] in
theorem live_of_valid {email : String} {r : ResetRequest} (h : validMFAResetUser u email r) :
    FactorReset.live u = some r.fingerprint := by
  simp only [validMFAResetUser, Bool.and_eq_true, beq_iff_eq] at h
  obtain ⟨⟨⟨⟨-, henabled⟩, -⟩, -⟩, hfingerprint⟩ := h
  exact live_eq_some henabled hfingerprint

/-- A call that fails has no effect. -/
theorem settle_effect {s : Store U} {a : Action} {x : Except ResetError (Store U)}
    (h : ∀ s', x = .ok s' → Effect s a s') : Effect s a (settle s x) := by
  cases x with
  | error => exact .refused
  | ok s' => exact h s' rfl

theorem fail_effect (s : Store U) (a : Action) (id : String) : Effect s a (fail s id) := by
  rw [fail]
  split
  · exact .refused
  · next r hr =>
    split_ifs with hstatus
    · exact .failed hr hstatus
    · exact .refused

/-- A code is checked by the calls that either store has. -/
theorem confirmMFAReset_effect {c : Calls U} {userOk : U → ResetRequest → Bool}
    (hfail : ∀ s id, c.failMFAResetCode s id = fail s id)
    (hconfirm : ∀ s id hash reason now,
      c.confirmMFAResetRequest s id hash reason now = confirm userOk s id hash reason now)
    (s : Store U) (id : String) (copy : ResetRequest) (code reason : String) (now : Time) :
    Effect s (.confirmMFAReset id copy code reason now)
      (c.confirmMFAReset s id copy code reason now) := by
  rw [Calls.confirmMFAReset]
  split_ifs with hstale hcode
  · exact .refused
  · rw [hconfirm]
    refine settle_effect fun s' h => ?_
    rw [confirm] at h
    split at h
    · cases h
    next r hr =>
    obtain ⟨hvalid, h⟩ := guard_ok.1 h
    simp only [not_or, not_not, not_le] at hvalid
    rw [← hvalid.2.1] at hcode
    cases h
    exact .confirmed hr hvalid.1 hvalid.2.2.1 hcode rfl rfl
  · rw [hfail]
    exact fail_effect s _ id

end

/-! ## The store in memory -/

variable {decision : String}

section

variable [Unicode] [Sha256] {fingerprint token userID : String} {expiresAt : Time}

namespace Memory

variable {s s' : Store User}

omit [Unicode] in
theorem createMFASession_ok (h : createMFASession s token userID fingerprint expiresAt = .ok s') :
    s.live userID = some fingerprint ∧ s' = { s with
      sessions := s.sessions.insert token ⟨userID, expiresAt, fingerprint⟩ } := by
  rw [createMFASession] at h
  split at h
  · cases h
  next u hu =>
  obtain ⟨hvalid, h⟩ := guard_ok.1 h
  simp only [not_or, not_not] at hvalid
  obtain ⟨-, henabled, hfingerprint⟩ := hvalid
  cases h
  refine ⟨?_, rfl⟩
  rw [Store.live, hu]
  exact live_eq_some henabled hfingerprint

theorem updateUser_ok {env : Env} {user : User} (h : updateUser env s user = .ok s') :
    ∃ u : User, FactorReset.live u = carried User user ∧
      s' = { s with users := s.users.insert user.id u } := by
  rw [updateUser] at h
  split at h
  · cases h
  next existing _ =>
  simp only [guard_ok] at h
  obtain ⟨-, -, -, h⟩ := h
  cases h
  refine ⟨updated env existing user, live_eq_carried ?_ ?_, rfl⟩
  · simp only [Columns.mfaEnabled, updated, normalizeUserRoleFields]
  · simp only [Columns.secret, Columns.stored, updated, normalizeUserRoleFields]

variable [Bcrypt]

theorem decideMFAResetRequest_effect (env : Env) {id actorID : String}
    (h : decideMFAResetRequest s id actorID decision reason now = .ok s') :
    Effect s (.decideMFAResetRequest env id actorID decision reason now) s' := by
  rw [decideMFAResetRequest] at h
  split at h
  · next actor r hactor hr =>
    obtain ⟨hvalid, h⟩ := guard_ok.1 h
    simp only [not_or, not_not] at hvalid
    obtain ⟨hactive, hroot, henabled, hself, hstatus, -⟩ := hvalid
    split at h
    · cases h
    next u hu =>
    obtain ⟨huser, h⟩ := guard_ok.1 h
    cases h
    exact .decided hr hstatus hu (live_of_valid (not_not.1 huser)) (Ne.symm hself) hactor
      ⟨hactive, hroot, henabled⟩
  · cases h

theorem createMFAResetRequest_effect (s : Store User) (draft : Draft) (visited : List String) :
    Effect s (.createMFAResetRequest draft visited)
      (calls.createMFAResetRequest s draft visited) := by
  simp only [calls]
  by_cases hid : draft.id ∈ s.requests
  · rw [if_pos hid]
    exact .refused
  rw [if_neg hid, createMFAResetRequest]
  split
  · exact .refused
  · split_ifs
    · exact .lapsed
    · exact .created hid
    · exact .refused

/-- The store in memory. -/
theorem lawful : Lawful calls where
  effect s a := by
    cases a with
    | createMFAResetRequest draft visited => exact createMFAResetRequest_effect s draft visited
    | confirmMFAReset id copy code reason now =>
      exact confirmMFAReset_effect (fun _ _ => rfl) (fun _ _ _ _ _ => rfl) s id copy code reason now
    | decideMFAResetRequest env =>
      exact settle_effect fun s' h => decideMFAResetRequest_effect env h
    | updateUser =>
      refine settle_effect fun s' h => ?_
      obtain ⟨u, hlive, rfl⟩ := updateUser_ok h
      exact .updated hlive
    | createMFASession =>
      refine settle_effect fun s' h => ?_
      obtain ⟨hlive, rfl⟩ := createMFASession_ok h
      exact .minted hlive
  live h := (createMFASession_ok h).1

end Memory

/-! ## The store in the database -/

namespace Postgres

variable {s s' : Store UserRow}

omit [Unicode] in
theorem createMFASession_ok (h : createMFASession s token userID fingerprint expiresAt = .ok s') :
    s.live userID = some fingerprint ∧ s' = { s with
      sessions := s.sessions.insert token ⟨userID, expiresAt, fingerprint⟩ } := by
  rw [createMFASession] at h
  split at h
  · cases h
  next row hrow =>
  simp only [guard_ok, not_or, not_not] at h
  obtain ⟨⟨-, henabled, hfingerprint⟩, -, h⟩ := h
  cases h
  refine ⟨?_, rfl⟩
  rw [Store.live, hrow]
  exact live_eq_some henabled hfingerprint

variable {user : User} {env : Env}

theorem updateUser_ok (h : updateUser env s user = .ok s') :
    ∃ u : UserRow, FactorReset.live u = carried UserRow user ∧
      s' = { s with users := s.users.insert user.id u } := by
  rw [updateUser] at h
  split at h
  · next rows' hrows =>
    cases h
    rw [Users.updateUser] at hrows
    split_ifs at hrows
    dsimp only at hrows
    split at hrows
    · cases hrows
    next row _ =>
    split_ifs at hrows
    cases hrows
    refine ⟨writtenRow env (preparedUser env user) row, live_eq_carried ?_ ?_,
      by rw [id_preparedUser]⟩
    · simp only [Columns.mfaEnabled, writtenRow, preparedUser, normalizeUserRoleFields]
    · simp only [Columns.secret, Columns.stored, writtenRow, preparedUser, normalizeUserRoleFields]
  · cases h

variable [Bcrypt]

theorem decideMFAResetRequest_effect {id actorID : String}
    (h : decideMFAResetRequest env s id actorID decision reason now = .ok s') :
    Effect s (.decideMFAResetRequest env id actorID decision reason now) s' := by
  obtain ⟨-, h⟩ := guard_ok.1 h
  split at h
  · cases h
  next r hr =>
  obtain ⟨hself, h⟩ := guard_ok.1 h
  split at h
  · cases h
  next row hrow =>
  split at h
  · cases h
  obtain ⟨hvalid, h⟩ := guard_ok.1 h
  simp only [not_or, not_not] at hvalid
  split at h
  · cases h
  next actor hactor =>
  obtain ⟨hreviewer, h⟩ := guard_ok.1 h
  simp only [not_or, not_not] at hreviewer
  cases h
  exact .decided hr hvalid.1 hrow (live_of_valid hvalid.2.2) (Ne.symm hself) hactor
    ⟨hreviewer.2.1, hreviewer.1, hreviewer.2.2⟩

theorem createMFAResetRequest_effect {draft : Draft} (visited : List String)
    (h : createMFAResetRequest s draft = .ok s') :
    Effect s (.createMFAResetRequest draft visited) s' := by
  rw [createMFAResetRequest] at h
  split at h
  · cases h
  split at h
  · cases h
  simp only [guard_ok] at h
  obtain ⟨-, -, hid, h⟩ := h
  cases h
  exact .created hid

/-- The store in the database. -/
theorem lawful : Lawful calls where
  effect s a := by
    cases a with
    | createMFAResetRequest _ visited =>
      exact settle_effect fun s' h => createMFAResetRequest_effect visited h
    | confirmMFAReset id copy code reason now =>
      exact confirmMFAReset_effect (fun _ _ => rfl) (fun _ _ _ _ _ => rfl) s id copy code reason now
    | decideMFAResetRequest =>
      exact settle_effect fun s' h => decideMFAResetRequest_effect h
    | updateUser =>
      refine settle_effect fun s' h => ?_
      obtain ⟨u, hlive, rfl⟩ := updateUser_ok h
      exact .updated hlive
    | createMFASession =>
      refine settle_effect fun s' h => ?_
      obtain ⟨hlive, rfl⟩ := createMFASession_ok h
      exact .minted hlive
  live h := (createMFASession_ok h).1

end Postgres

end

/-! ## Requests in review -/

section

variable {U : Type} [Columns U] [Unicode] [Sha256] [Bcrypt]

/-- In the run `as` the code of the request was entered right, after fewer than five wrong ones. -/
def Verified (c : Calls U) (s : Store U) (as : List Action) (id : String) : Prop :=
  ∃ xs ys copy code reason now r, as = xs ++ .confirmMFAReset id copy code reason now :: ys ∧
    (exec c.step s xs).requests.lookup id = some r ∧ r.status = .pendingEmail ∧
    r.failedAttempts < 5 ∧ Bcrypt.agrees r.codeHash code

variable {s : Store U} {id : String} {c : Calls U} {as : List Action}

omit [Columns U] [Unicode] [Sha256] in
theorem Verified.append (h : Verified c s as id) (bs : List Action) :
    Verified c s (as ++ bs) id := by
  obtain ⟨xs, ys, copy, code, reason, now, r, rfl, h⟩ := h
  exact ⟨xs, ys ++ bs, copy, code, reason, now, r, by rw [List.append_assoc, List.cons_append], h⟩

variable {r : ResetRequest} {userID : String}

omit [Columns U] [Unicode] [Sha256] [Bcrypt] in
/-- Requests that expire were pending, the others stay. -/
theorem lookup_lapse {p : String → ResetRequest → Bool} {t : Table String ResetRequest}
    (h : (lapse userID p t).lookup id = some r) (hstatus : r.status ≠ .expired) :
    t.lookup id = some r := by
  rw [lapse, lookup_mapRows, Option.map_eq_some_iff] at h
  obtain ⟨_, hold, rfl⟩ := h
  split_ifs at hstatus ⊢
  · exact absurd rfl hstatus
  · exact hold

omit [Unicode] [Sha256] [Bcrypt] in
/-- A request that is decided is approved or rejected. -/
theorem lookup_requests_decided {id' : String} {r' : ResetRequest} {u : U}
    (h : (decided s now id decision reason r u).requests.lookup id' = some r') :
    s.requests.lookup id' = some r' ∨
      id' = id ∧ r'.status = if decision = "approved" then .approved else .rejected := by
  have hrequests : (decided s now id decision reason r u).requests = s.requests.insert id { r with
        status := if decision = "approved" then .approved else .rejected
        reviewReason := reason } := by
    by_cases happroved : decision = "approved" <;> simp only [decided, happroved, if_true, if_false]
  rw [hrequests] at h
  rcases lookup_insert_iff.1 h with ⟨rfl, rfl⟩ | ⟨-, hold⟩
  · exact .inr ⟨rfl, rfl⟩
  · exact .inl hold

variable {s' : Store U} {a : Action}

/-- A request gets into review when its code is entered right. -/
theorem Effect.review (h : Effect s a s') {r' : ResetRequest}
    (hr' : s'.requests.lookup id = some r') (hstatus' : r'.status = .pendingReview) :
    (∃ r, s.requests.lookup id = some r ∧ r.status = .pendingReview) ∨
    ∃ copy code reason now r, a = .confirmMFAReset id copy code reason now ∧
      s.requests.lookup id = some r ∧ r.status = .pendingEmail ∧ r.failedAttempts < 5 ∧
      Bcrypt.agrees r.codeHash code := by
  cases h with
  | refused | updated | minted => exact .inl ⟨r', hr', hstatus'⟩
  | lapsed => exact .inl ⟨r', lookup_lapse hr' (by simp [hstatus']), hstatus'⟩
  | created =>
    rcases lookup_insert_iff.1 hr' with ⟨rfl, rfl⟩ | ⟨-, hold⟩
    · cases hstatus'
    · exact .inl ⟨r', lookup_lapse hold (by simp [hstatus']), hstatus'⟩
  | failed _ hstatus =>
    rcases lookup_insert_iff.1 hr' with ⟨rfl, rfl⟩ | ⟨-, hold⟩
    · cases hstatus.symm.trans hstatus'
    · exact .inl ⟨r', hold, hstatus'⟩
  | confirmed hr _ hfailed hcode =>
    rcases lookup_insert_iff.1 hr' with ⟨rfl, rfl⟩ | ⟨-, hold⟩
    · exact .inr ⟨_, _, _, _, _, rfl, hr, ‹_›, hfailed, hcode⟩
    · exact .inl ⟨r', hold, hstatus'⟩
  | decided =>
    rcases lookup_requests_decided hr' with hold | ⟨-, hdecided⟩
    · exact .inl ⟨r', hold, hstatus'⟩
    · rw [hstatus'] at hdecided
      split_ifs at hdecided

/-- The code of every request in review was entered right. -/
theorem verified_exec (hc : Lawful c) (users : Table String U) (sessions : Table String Session)
    (as : List Action)
    (hr : (exec c.step (.init users sessions) as).requests.lookup id = some r)
    (hstatus : r.status = .pendingReview) : Verified c (.init users sessions) as id := by
  -- From the end of the run: its last action confirms the request, or it was in review before.
  induction as using List.reverseRecOn generalizing r with
  | nil => cases hr
  | append_singleton as a ih =>
    rw [exec_append, exec_cons] at hr
    rcases (hc.effect _ a).review hr hstatus with ⟨r₀, hr₀, hstatus₀⟩ |
      ⟨copy, code, reason, now, r₀, rfl, hr₀⟩
    · exact (ih hr₀ hstatus₀).append [a]
    · exact ⟨as, [], copy, code, reason, now, r₀, rfl, hr₀⟩

/-! ## Who clears a factor -/

/-- The request is in review for the factor of the user after a code was entered right, and the one
    who decides is an active root user with a second factor, and not the user. -/
structure Due (c : Calls U) (s : Store U) (as : List Action) (id actorID userID factor : String) :
    Prop where
  request : ∃ r, (exec c.step s as).requests.lookup id = some r ∧ r.status = .pendingReview ∧
    r.userID = userID ∧ r.fingerprint = factor
  verified : Verified c s as id
  reviewer : ∃ actor, (exec c.step s as).users.lookup actorID = some actor ∧ isReviewer actor
  other : actorID ≠ userID

omit [Unicode] [Bcrypt] in
theorem live_insert (s : Store U) (id : String) (u : U) (userID : String) :
    Store.live { s with users := s.users.insert id u } userID =
      if userID = id then FactorReset.live u else s.live userID := by
  rw [Store.live, Store.live]
  split_ifs with h
  · rw [h, AList.lookup_insert, Option.bind_some]
  · rw [AList.lookup_insert_ne h]

omit [Unicode] [Bcrypt] in
/-- An approval clears the factor of the user of the request, and no other. -/
theorem live_decided (s : Store U) (now : Time) (id decision reason : String) (r : ResetRequest)
    (u : U) (userID : String) :
    (decided s now id decision reason r u).live userID =
      if decision = "approved" ∧ userID = r.userID then none else s.live userID := by
  by_cases h : decision = "approved"
  · have hlive := live_insert s r.userID (Columns.clear now u) userID
    rw [FactorReset.live, Columns.mfaEnabled_clear] at hlive
    simp only [decided, h, true_and]
    exact hlive
  · simp only [decided, h, false_and, if_false]
    rfl

omit [Unicode] [Sha256] [Bcrypt] in
/-- An approval ends the sessions of the user of the request. -/
theorem lookup_sessions_decided {token : String} {u : U} {session : Session}
    (h : (decided s now id decision reason r u).sessions.lookup token = some session) :
    s.sessions.lookup token = some session ∧
      (decision = "approved" → session.userID ≠ r.userID) := by
  by_cases happroved : decision = "approved"
  · simp only [decided, if_pos happroved, lookup_filter, bne_iff_ne] at h
    exact ⟨h.1, fun _ => h.2⟩
  · simp only [decided, if_neg happroved] at h
    exact ⟨h, fun h' => absurd h' happroved⟩

variable {factor : String}

/-- A factor is cleared by an update whose record has none, or by an approval. -/
theorem Effect.clears (h : Effect s a s') (hlive : s.live userID = some factor)
    (hcleared : s'.live userID = none) :
    (∃ env user, a = .updateUser env user ∧ user.id = userID ∧ user.mfaEnabled = false) ∨
    ∃ env id actorID reason now r actor,
      a = .decideMFAResetRequest env id actorID "approved" reason now ∧
      s.requests.lookup id = some r ∧ r.status = .pendingReview ∧ r.userID = userID ∧
      r.fingerprint = factor ∧ actorID ≠ userID ∧ s.users.lookup actorID = some actor ∧
      isReviewer actor := by
  have hsame : s'.users = s.users → False := fun husers => by
    rw [Store.live, husers, ← Store.live, hlive] at hcleared
    cases hcleared
  cases h with
  | refused | lapsed | created | failed | confirmed | minted => exact (hsame rfl).elim
  | @updated env user u hu =>
    rw [live_insert] at hcleared
    split_ifs at hcleared with hid
    · refine .inl ⟨env, user, rfl, hid.symm, ?_⟩
      rw [hu, carried] at hcleared
      split_ifs at hcleared with henabled
      exact eq_false_of_ne_true henabled
    · rw [hlive] at hcleared
      cases hcleared
  | @decided env id actorID decision reason now time r u actor hr hstatus hu hfactor hself hactor
      hreviewer =>
    rw [live_decided] at hcleared
    split_ifs at hcleared with happroved
    · obtain ⟨rfl, rfl⟩ := happroved
      rw [Store.live, hu, Option.bind_some, hfactor] at hlive
      cases hlive
      exact .inr ⟨env, id, actorID, reason, now, r, actor, rfl, hr, hstatus, rfl, rfl, hself,
        hactor, hreviewer⟩
    · rw [hlive] at hcleared
      cases hcleared

/-! ## What an approval leaves behind -/

/-- The factor does not let the user in: it is not the one of the user, and no session
    was made with it. -/
structure Store.Spent (s : Store U) (userID factor : String) : Prop where
  live : s.live userID ≠ some factor
  session : ∀ {token session}, s.sessions.lookup token = some session → session.userID = userID →
    session.factor ≠ factor

variable (U) in
/-- A user update writes the factor for the user. -/
def Action.writes (userID factor : String) : Action → Prop
  | .updateUser _ user => user.id = userID ∧ carried U user = some factor
  | _ => False

/-- A spent factor stays so unless it is written back. -/
theorem Effect.spent (h : Effect s a s') (hspent : s.Spent userID factor)
    (ha : ¬ a.writes U userID factor) : s'.Spent userID factor := by
  cases h with
  | refused | lapsed | created | failed | confirmed => exact ⟨hspent.live, hspent.session⟩
  | @updated env user u hu =>
    refine ⟨?_, hspent.session⟩
    rw [live_insert]
    split_ifs with hid
    · exact fun hlive => ha ⟨hid.symm, hu.symm.trans hlive⟩
    · exact hspent.live
  | minted hlive =>
    refine ⟨hspent.live, fun hlookup huser hfactor => ?_⟩
    rcases lookup_insert_iff.1 hlookup with ⟨rfl, rfl⟩ | ⟨-, hold⟩
    · -- A session is made with the factor the user has.
      exact hspent.live (huser ▸ hfactor ▸ hlive)
    · exact hspent.session hold huser hfactor
  | @decided env id actorID decision reason now time r u actor =>
    refine ⟨?_, fun hlookup => hspent.session (lookup_sessions_decided hlookup).1⟩
    rw [live_decided]
    split_ifs
    · nofun
    · exact hspent.live

/-- A request for the factor of the user gets approved. -/
def Approves (s s' : Store U) (userID factor : String) : Prop :=
  ∃ id r r', s.requests.lookup id = some r ∧ r.status = .pendingReview ∧ r.userID = userID ∧
    r.fingerprint = factor ∧ s'.requests.lookup id = some r' ∧ r'.status = .approved

/-- When a request is approved its factor is spent. -/
theorem Effect.spent_of_approves (h : Effect s a s') (happroves : Approves s s' userID factor) :
    s'.Spent userID factor := by
  obtain ⟨id, r, r', hr, hstatus, rfl, rfl, hr', hstatus'⟩ := happroves
  -- A request that is kept as it was is still in review.
  have hkept : s.requests.lookup id ≠ some r' := fun hold => by
    cases hr.symm.trans hold
    cases hstatus.symm.trans hstatus'
  cases h with
  | refused | updated | minted => exact absurd hr' hkept
  | lapsed => exact absurd (lookup_lapse hr' (by simp [hstatus'])) hkept
  | created =>
    rcases lookup_insert_iff.1 hr' with ⟨rfl, rfl⟩ | ⟨-, hold⟩
    · cases hstatus'
    · exact absurd (lookup_lapse hold (by simp [hstatus'])) hkept
  | failed _ hstatus₁ | confirmed _ _ _ _ _ hstatus₁ =>
    rcases lookup_insert_iff.1 hr' with ⟨rfl, rfl⟩ | ⟨-, hold⟩
    · cases hstatus₁.symm.trans hstatus'
    · exact absurd hold hkept
  | @decided env id₀ actorID decision reason now time r₀ u actor hr₀ =>
    rcases lookup_requests_decided hr' with hold | ⟨rfl, hdecided⟩
    · exact absurd hold hkept
    cases hr.symm.trans hr₀
    rw [hstatus'] at hdecided
    split_ifs at hdecided with happroved
    refine ⟨?_, fun hlookup huser => absurd huser ((lookup_sessions_decided hlookup).2 happroved)⟩
    rw [live_decided, if_pos ⟨happroved, rfl⟩]
    nofun

/-- A spent factor stays so in a run that does not write it back. -/
theorem Lawful.spent_exec (hc : Lawful c) (hspent : s.Spent userID factor)
    (has : ∀ a ∈ as, ¬ a.writes U userID factor) : (exec c.step s as).Spent userID factor := by
  induction as generalizing s with
  | nil => exact hspent
  | cons a _ ih =>
    rw [List.forall_mem_cons] at has
    exact ih ((hc.effect s a).spent hspent has.1) has.2

/-! ## Resets of a run -/

/-- What holds of the resets of a run from the state `s`. -/
structure Resets (c : Calls U) (s : Store U) (as : List Action) : Prop where
  /-- A factor is cleared only by a user update whose record has none, or when a
      request for it is approved that is due. -/
  clears : ∀ {xs ys : List Action} {a : Action} {userID factor : String}, as = xs ++ a :: ys →
    (exec c.step s xs).live userID = some factor →
    (exec c.step s (xs ++ [a])).live userID = none →
    (∃ env user, a = .updateUser env user ∧ user.id = userID ∧ user.mfaEnabled = false) ∨
    ∃ env id actorID reason now, a = .decideMFAResetRequest env id actorID "approved" reason now ∧
      Due c s xs id actorID userID factor
  /-- After a request was approved no session exists that was made with the factor, as
      long as no user update writes it back. -/
  sessions : ∀ {xs ys : List Action} {a : Action} {userID factor token : String}
    {session : Session}, as = xs ++ a :: ys →
    Approves (exec c.step s xs) (exec c.step s (xs ++ [a])) userID factor →
    (∀ b ∈ ys, ¬ b.writes U userID factor) →
    (exec c.step s as).sessions.lookup token = some session → session.userID = userID →
    session.factor ≠ factor
  /-- None can be made, either. -/
  refuses : ∀ {xs ys : List Action} {a : Action} {userID factor : String}, as = xs ++ a :: ys →
    Approves (exec c.step s xs) (exec c.step s (xs ++ [a])) userID factor →
    (∀ b ∈ ys, ¬ b.writes U userID factor) →
    ∀ token expiresAt, ∃ e,
      c.createMFASession (exec c.step s as) token userID factor expiresAt = .error e

/-- The factor of a request that was approved is spent at the end of the run. -/
theorem Lawful.spent (hc : Lawful c) {xs ys : List Action} (has : as = xs ++ a :: ys)
    (happroves : Approves (exec c.step s xs) (exec c.step s (xs ++ [a])) userID factor)
    (hys : ∀ b ∈ ys, ¬ b.writes U userID factor) : (exec c.step s as).Spent userID factor := by
  rw [exec_append, exec_cons] at happroves
  rw [has, exec_append, exec_cons]
  exact hc.spent_exec ((hc.effect _ a).spent_of_approves happroves) hys

theorem Lawful.resets (hc : Lawful c) (users : Table String U) (sessions : Table String Session)
    (as : List Action) : Resets c (.init users sessions) as where
  clears := by
    intro xs _ a _ _ _ hlive hcleared
    rw [exec_append, exec_cons] at hcleared
    rcases (hc.effect _ a).clears hlive hcleared with hupdate |
      ⟨env, id, actorID, reason, now, r, actor, rfl, hr, hstatus, huser, hfactor, hself, hactor⟩
    · exact .inl hupdate
    · exact .inr ⟨env, id, actorID, reason, now, rfl, ⟨r, hr, hstatus, huser, hfactor⟩,
        verified_exec hc users sessions xs hr hstatus, ⟨actor, hactor⟩, hself⟩
  sessions has happroves hys := (hc.spent has happroves hys).session
  refuses has happroves hys token expiresAt := by
    have hspent := hc.spent has happroves hys
    cases hcall : c.createMFASession _ token _ _ expiresAt with
    | error e => exact ⟨e, rfl⟩
    | ok => exact absurd (hc.live hcall) hspent.live

/-- In every run of calls of either store, a factor is cleared only by a user update
    whose record has none, or when a request for it is approved that is due. After the
    approval no session made with it exists or can be made, until it is written back. -/
theorem resets_run :
    (∀ (users : Table String User) (sessions : Table String Session) (as : List Action),
      Resets Memory.calls (.init users sessions) as) ∧
    ∀ (users : Table String UserRow) (sessions : Table String Session) (as : List Action),
      Resets Postgres.calls (.init users sessions) as :=
  ⟨Memory.lawful.resets, Postgres.lawful.resets⟩

end

/-! ## A factor that is cleared, and one that comes back -/

namespace Sample

local instance : Unicode := Unicode.ascii
local instance : Sha256 := ⟨id⟩
local instance : Bcrypt := ⟨fun hash code => hash == code⟩

/-- A user with a second factor, and a root user. -/
def start : Store UserRow := .init Users.sampleSystem.store.users ∅

/-- The record of the user, as a handler reads it. -/
def ann : User :=
  { User.sample "ann" "old-hash" "p1" with
    mfaTOTPSecret := "SECRET"
    mfaEnabled := true
    mfaSecretIssuedAt := 1
    mfaConfirmedAt := 1 }

/-- The user switches the factor off, which needs no request. -/
def disable : Action := .updateUser (.sample 2)
  { ann with mfaTOTPSecret := "", mfaEnabled := false, mfaSecretIssuedAt := 0, mfaConfirmedAt := 0 }

/-- The request of the user for a reset. -/
def draft : Draft := ⟨"r", "ann", "ann@example.com", "SECRET", "123456", 2, 100⟩

/-- A reset that is approved, while a handler holds the record of the user: it notes the activity of
    the user, and writes the record back. Then a sign-in ends that began before, with the factor. -/
def reset : List Action :=
  [ .createMFAResetRequest draft [],
    .confirmMFAReset "r" draft.request "123456" "lost phone" 3,
    .decideMFAResetRequest (.sample 4) "r" "root" "approved" "lost phone" 4,
    .updateUser (.sample 5) { ann with lastActiveAt := some 5 },
    .createMFASession "token" "ann" "SECRET" 100]

/-- The store after the first actions. -/
def after (n : Nat) : Store UserRow := exec Postgres.calls.step start (reset.take n)

/-- The state of the request after the first actions. -/
def status (n : Nat) : Option MFAResetStatus := ((after n).requests.lookup "r").map (·.status)

/-- A user update clears a factor without any request, and one brings a factor back
    that an approval cleared: a session is made with it. -/
theorem cleared_and_restored :
    (start.live "ann" = some "SECRET" ∧ (Postgres.calls.step start disable).live "ann" = none) ∧
    (status 2 = some .pendingReview ∧ status 3 = some .approved ∧ (after 3).live "ann" = none ∧
      (((after 5).sessions.lookup "token").map fun session => (session.userID, session.factor)) =
        some ("ann", "SECRET")) := by
  decide +kernel

end Sample

end Accounts.FactorReset

import Accounts.Base.Check
import Accounts.Base.Run
import Accounts.Users.Store

/-!
# Recovering a password

A user who cannot sign in is sent a link with a token, or a code: a *challenge*,
which is stored with a hash of the secret (`internal/store/password_recovery.go`).
Completing it sets the password and ends the sessions of the user. Both stores
are modelled, the one in memory and the one in the database; a call of either is
atomic. The handlers (`api/api.go`, `api/password_self_service.go`) make these
calls, any number of them at once.

* `call_written`: what a call can do to the challenges;
* `recoveries_run`: a challenge is completed at most once, and completing it
  leaves no challenge of its kind that was issued to the user before;
* `serve_made`: a handler makes calls, and does nothing else;
* `Sample.link_survives_code`: a link that was issued before a code still works
  after the code was used, as a completion does not touch the other kind.
-/

namespace Accounts.Recovery

open Table Text Except AList Run Users

/-! ## Challenges -/

/-- What a user is sent: a link with a token, or a code. -/
inductive Kind
  | token
  | code
  deriving DecidableEq

/-- A challenge as it is stored. -/
structure Challenge extends Users.PasswordRecoveryChallenge where
  email : String
  kind : Kind
  secretHash : String
  failedAttempts : Int
  createdAt : Time

/-- The challenge was neither consumed nor invalidated. -/
def Challenge.isOpen (c : Challenge) : Bool := c.consumedAt.isNone && c.invalidatedAt.isNone

/-- A time the clock shows (`time.Now`), which is never the zero time. -/
structure Clock where
  now : Time
  now_ne : now ≠ 0

/-- A new challenge, as a handler makes it. -/
structure Draft where
  id : String
  userID : String
  email : String
  kind : Kind
  secretHash : String
  expiresAt : Time
  createdAt : Clock

/-- A session of a user. -/
structure Session where
  userID : String
  expiresAt : Time

/-- The users, the challenges, and the sessions. -/
structure Store where
  users : Table String User
  passwordRecovery : Table String Challenge
  sessions : Table String Session

/-- Before any challenge is issued. -/
def Store.init (users : Table String User) (sessions : Table String Session) : Store :=
  ⟨users, ∅, sessions⟩

/-- Why a call is refused. A constraint of the database has a name. -/
inductive RecoveryError
  | invalid
  | userNotFound
  | cooldown
  | constraint (name : String)
  deriving DecidableEq

/-! ## Calls of the stores -/

/-- The open challenges of a user and a kind are invalidated. -/
def closeOpen (time : Option Time) (userID : String) (kind : Kind) (t : Table String Challenge) :
    Table String Challenge :=
  mapRows (fun _ c => if c.userID = userID ∧ c.kind = kind ∧ c.isOpen
    then { c with invalidatedAt := time } else c) t

/-- The challenge a draft is stored as. -/
def Draft.challenge (draft : Draft) (email : String) (kind : Kind) : Challenge where
  userID := draft.userID
  expiresAt := draft.expiresAt
  lockedUntil := none
  consumedAt := none
  invalidatedAt := none
  email := email
  kind := kind
  secretHash := draft.secretHash
  failedAttempts := 0
  createdAt := draft.createdAt.now

section

variable (mark : Time → Option Time) (s : Store) (challengeID : String) (now : Time)

/-- A wrong secret is counted, and the challenge locked after too many. The time
    it is locked until is stored by `mark`. -/
def recordFailure (maxAttempts lockout : Int) : Except RecoveryError (Store × Time) :=
  match s.passwordRecovery.lookup challengeID with
  | none => .error .invalid
  | some c =>
    if ¬ c.isOpen ∨ ¬ now < c.expiresAt then .error .invalid else
    let lockedUntil := if maxAttempts ≤ c.failedAttempts + 1 then mark (now + lockout)
      else c.lockedUntil
    let c' := { c with failedAttempts := c.failedAttempts + 1, lockedUntil := lockedUntil }
    .ok ({ s with passwordRecovery := s.passwordRecovery.insert challengeID c' },
      lockedUntil.getD 0)

/-- An open challenge is invalidated. -/
def invalidate : Store :=
  match s.passwordRecovery.lookup challengeID with
  | none => s
  | some c =>
    let c' := { c with invalidatedAt := mark now }
    if c.isOpen then { s with passwordRecovery := s.passwordRecovery.insert challengeID c' } else s

end

/-- A challenge is consumed, and its user gets a new password (`setPassword`)
    and loses all sessions. -/
def complete (mark : Time → Option Time) (locked : Option Time → Bool)
    (setPassword : User → User) (s : Store) (challengeID : String) (now : Time) :
    Except RecoveryError Store :=
  match s.passwordRecovery.lookup challengeID with
  | none => .error .invalid
  | some c =>
    if ¬ c.isOpen ∨ ¬ now < c.expiresAt ∨ locked c.lockedUntil then .error .invalid else
    match s.users.lookup c.userID with
    | none => .error .invalid
    | some user => .ok
      { users := s.users.insert c.userID (setPassword user)
        passwordRecovery := s.passwordRecovery.insert challengeID { c with consumedAt := mark now }
        sessions := filter (fun _ session => session.userID != c.userID) s.sessions }

section

variable [Unicode]

/-- An email address in its normal form. -/
def normalEmail (email : String) : String := toLower (trimSpace email)

namespace Memory

section

variable (s : Store) (draft : Draft)

/-- The challenge takes the place of the open one of its user and kind. -/
def store : Store :=
  let rest := closeOpen (nullForZero draft.createdAt.now) draft.userID draft.kind
    s.passwordRecovery
  { s with passwordRecovery :=
      rest.insert draft.id (draft.challenge (normalEmail draft.email) draft.kind) }

def createPasswordRecoveryChallenge : Except RecoveryError Store :=
  if blank draft.id ∨ blank draft.userID then .error .invalid
  else if draft.userID ∉ s.users then .error .userNotFound
  else .ok (store s draft)

def createPasswordRecoveryCodeChallenge (cooldown : Int) : Except RecoveryError Store :=
  if blank draft.id ∨ blank draft.userID then .error .invalid
  else if draft.userID ∉ s.users then .error .userNotFound
  else if (rows s.passwordRecovery).any fun c => c.kind = .code &&
      equalFold c.email (normalEmail draft.email) && decide (0 < cooldown) &&
      decide (draft.createdAt.now - c.createdAt < cooldown) then .error .cooldown
  else .ok (store s draft)

end

variable (s : Store) (challengeID : String)

def recordPasswordRecoveryFailure (now : Time) (maxAttempts lockout : Int) :
    Except RecoveryError (Store × Time) :=
  recordFailure nullForZero s challengeID now maxAttempts lockout

def invalidatePasswordRecoveryChallenge (now : Time) : Store :=
  invalidate nullForZero s challengeID now

/-- A lock that was never set is the zero time. -/
def completePasswordRecovery (passwordHash : String) (now : Time) : Except RecoveryError Store :=
  complete nullForZero (fun lockedUntil => now < lockedUntil.getD 0)
    (fun user => { user with passwordHash := passwordHash }) s challengeID now

end Memory

namespace Postgres

section

variable (s : Store) (draft : Draft)

/-- The row of a new challenge is written, when no constraint of the table is violated. -/
def insert (kind : Kind) : Except RecoveryError Store :=
  if draft.secretHash = "" then .error (.constraint "password_recovery_challenges_hash_ck")
  else if draft.id ∈ s.passwordRecovery then
    .error (.constraint "password_recovery_challenges_pkey")
  else if draft.userID ∉ s.users then
    .error (.constraint "password_recovery_challenges_user_uuid_fkey")
  else
    let rest := closeOpen (some draft.createdAt.now) draft.userID kind s.passwordRecovery
    .ok { s with passwordRecovery :=
      rest.insert draft.id (draft.challenge (normalEmail draft.email) kind) }

def createPasswordRecoveryChallenge : Except RecoveryError Store :=
  if blank draft.id ∨ blank draft.userID then .error .invalid
  else insert s draft draft.kind

/-- The last code that was issued to the address is not older than the cooldown. -/
def createPasswordRecoveryCodeChallenge (cooldown : Int) : Except RecoveryError Store :=
  if blank draft.id ∨ blank draft.userID then .error .invalid
  else if 0 < cooldown ∧ (rows s.passwordRecovery).any fun c => c.kind = .code &&
      toLower c.email == toLower (normalEmail draft.email) &&
      decide (draft.createdAt.now < c.createdAt + cooldown) then .error .cooldown
  else insert s draft .code

end

section

variable (s : Store) (challengeID : String) (now : Time)

def recordPasswordRecoveryFailure (maxAttempts lockout : Int) :
    Except RecoveryError (Store × Time) :=
  recordFailure some s challengeID now maxAttempts lockout

def invalidatePasswordRecoveryChallenge : Store :=
  invalidate some s challengeID now

end

/-- The row of the user gets a new time of its last change, too. -/
def completePasswordRecovery (env : Env) (s : Store) (challengeID passwordHash : String)
    (now : Time) : Except RecoveryError Store :=
  complete some (fun lockedUntil => lockedUntil.any fun t => now < t)
    (fun user => { user with passwordHash := passwordHash, updatedAt := env.now }) s challengeID now

end Postgres

end

/-! ## Runs of calls -/

/-- The two stores. -/
inductive Backend
  | memory
  | postgres
  deriving DecidableEq

/-- A call of the store. -/
inductive Call
  | createPasswordRecoveryChallenge (draft : Draft)
  | createPasswordRecoveryCodeChallenge (draft : Draft) (cooldown : Int)
  | recordPasswordRecoveryFailure (challengeID : String) (clock : Clock) (maxAttempts lockout : Int)
  | invalidatePasswordRecoveryChallenge (challengeID : String) (clock : Clock)
  | completePasswordRecovery (env : Env) (challengeID passwordHash : String) (clock : Clock)
  /-- Any other part of the program changes the users and the sessions. -/
  | other (users : Table String User) (sessions : Table String Session)

section

variable [Unicode]

section

variable (b : Backend) (s : Store)

/-- What a call does. The identifier of a new challenge (`uuid.NewString`) is one
    that no challenge has. -/
def call : Call → Except RecoveryError Store
  | .createPasswordRecoveryChallenge draft =>
    if draft.id ∈ s.passwordRecovery then .error (.constraint "password_recovery_challenges_pkey")
    else match b with
      | .memory => Memory.createPasswordRecoveryChallenge s draft
      | .postgres => Postgres.createPasswordRecoveryChallenge s draft
  | .createPasswordRecoveryCodeChallenge draft cooldown =>
    if draft.id ∈ s.passwordRecovery then .error (.constraint "password_recovery_challenges_pkey")
    else match b with
      | .memory => Memory.createPasswordRecoveryCodeChallenge s draft cooldown
      | .postgres => Postgres.createPasswordRecoveryCodeChallenge s draft cooldown
  | .recordPasswordRecoveryFailure id clock maxAttempts lockout => Except.map Prod.fst <|
    match b with
    | .memory => Memory.recordPasswordRecoveryFailure s id clock.now maxAttempts lockout
    | .postgres => Postgres.recordPasswordRecoveryFailure s id clock.now maxAttempts lockout
  | .invalidatePasswordRecoveryChallenge id clock => .ok <| match b with
    | .memory => Memory.invalidatePasswordRecoveryChallenge s id clock.now
    | .postgres => Postgres.invalidatePasswordRecoveryChallenge s id clock.now
  | .completePasswordRecovery env id passwordHash clock =>
    match b with
    | .memory => Memory.completePasswordRecovery s id passwordHash clock.now
    | .postgres => Postgres.completePasswordRecovery env s id passwordHash clock.now
  | .other users sessions => .ok { s with users := users, sessions := sessions }

/-- A call that is refused changes nothing. -/
def step (a : Call) : Store :=
  match call b s a with
  | .ok s' => s'
  | .error _ => s

/-- The challenge a call completes. -/
def completes : Call → Option String
  | .completePasswordRecovery env id passwordHash clock =>
    match call b s (.completePasswordRecovery env id passwordHash clock) with
    | .ok _ => some id
    | .error _ => none
  | _ => none

end

/-- The challenges that are completed in a run, in order. -/
def completions (b : Backend) : Store → List Call → List String
  | _, [] => []
  | s, a :: as => (completes b s a).toList ++ completions b (step b s a) as

/-! ## What a call does to the challenges -/

/-- What can happen to the challenges: one is issued, and takes the place of the
    open one of its user and kind, or one is changed, and not opened again. -/
inductive Written (t : Table String Challenge) : Table String Challenge → Prop
  | same : Written t t
  | issued {id : String} {c : Challenge} {time : Time} (hid : id ∉ t) :
    Written t ((closeOpen (some time) c.userID c.kind t).insert id c)
  | changed {id : String} {c c' : Challenge} (hc : t.lookup id = some c)
    (huser : c'.userID = c.userID) (hkind : c'.kind = c.kind) (hopen : c'.isOpen → c.isOpen) :
    Written t (t.insert id c')

/-- Only the challenges are written. -/
def WritesChallenges (s s' : Store) : Prop :=
  ∃ t, Written s.passwordRecovery t ∧ s' = { s with passwordRecovery := t }

omit [Unicode] in
/-- A time the clock shows is stored as it is. -/
theorem nullForZero_now (clock : Clock) : nullForZero clock.now = some clock.now := by
  rw [nullForZero]
  simpa [Time.isZero] using clock.now_ne

variable {mark : Time → Option Time} {s s' : Store} {id : String} {now : Time}

section

omit [Unicode]

theorem recordFailure_writes {lockedUntil : Time} {maxAttempts lockout : Int}
    (h : recordFailure mark s id now maxAttempts lockout = .ok (s', lockedUntil)) :
    WritesChallenges s s' := by
  rw [recordFailure] at h
  split at h
  · cases h
  next c hc =>
  obtain ⟨-, h⟩ := guard_ok.1 h
  cases h
  refine ⟨_, ?_, rfl⟩
  exact .changed hc rfl rfl fun hopen => hopen

theorem invalidate_writes : WritesChallenges s (invalidate mark s id now) := by
  rw [invalidate]
  split
  · exact ⟨_, .same, rfl⟩
  next c hc =>
  split_ifs with hopen
  · refine ⟨_, ?_, rfl⟩
    exact .changed hc rfl rfl fun _ => hopen
  · exact ⟨_, .same, rfl⟩

/-- A challenge that is completed was open. -/
theorem complete_eq_ok {locked : Option Time → Bool} {setPassword : User → User} :
    complete mark locked setPassword s id now = .ok s' ↔ ∃ c user,
      s.passwordRecovery.lookup id = some c ∧ c.isOpen ∧ now < c.expiresAt ∧
      locked c.lockedUntil = false ∧ s.users.lookup c.userID = some user ∧
      s' = { users := s.users.insert c.userID (setPassword user)
             passwordRecovery := s.passwordRecovery.insert id { c with consumedAt := mark now }
             sessions :=
               filter (fun _ session => session.userID != c.userID) s.sessions } := by
  rw [complete]
  constructor
  · intro h
    split at h
    · cases h
    next c hc =>
    obtain ⟨hvalid, h⟩ := guard_ok.1 h
    simp only [not_or, not_not] at hvalid
    split at h
    · cases h
    next user huser =>
    cases h
    exact ⟨c, user, hc, hvalid.1, hvalid.2.1, eq_false_of_ne_true hvalid.2.2, huser, rfl⟩
  · rintro ⟨c, user, hc, hopen, hlt, hlocked, huser, rfl⟩
    simp only [hc, hopen, hlt, hlocked, huser, not_true_eq_false, Bool.false_eq_true, or_self,
      if_false]

end

variable {b : Backend}

/-- A recovery that succeeds: the challenge was open and is consumed, and its user
    gets the password and loses all sessions. -/
theorem call_complete_ok {env : Env} {passwordHash : String} {clock : Clock}
    (h : call b s (.completePasswordRecovery env id passwordHash clock) = .ok s') :
    ∃ c user user', s.passwordRecovery.lookup id = some c ∧ c.isOpen ∧ clock.now < c.expiresAt ∧
      s.users.lookup c.userID = some user ∧ user'.passwordHash = passwordHash ∧
      s' = { users := s.users.insert c.userID user'
             passwordRecovery :=
               s.passwordRecovery.insert id { c with consumedAt := some clock.now }
             sessions :=
               filter (fun _ session => session.userID != c.userID) s.sessions } := by
  cases b with
  | memory =>
    rw [call] at h
    obtain ⟨c, user, hc, hopen, hlt, -, huser, rfl⟩ := complete_eq_ok.1 h
    exact ⟨c, user, _, hc, hopen, hlt, huser, rfl, by rw [nullForZero_now]⟩
  | postgres =>
    obtain ⟨c, user, hc, hopen, hlt, -, huser, rfl⟩ := complete_eq_ok.1 h
    exact ⟨c, user, _, hc, hopen, hlt, huser, rfl, rfl⟩

variable {draft : Draft}

theorem Memory.store_writes (hid : draft.id ∉ s.passwordRecovery) :
    WritesChallenges s (Memory.store s draft) := by
  rw [Memory.store, nullForZero_now]
  exact ⟨_, .issued (c := draft.challenge (normalEmail draft.email) draft.kind) hid, rfl⟩

theorem Postgres.insert_writes {kind : Kind} (h : Postgres.insert s draft kind = .ok s') :
    WritesChallenges s s' := by
  simp only [Postgres.insert, guard_ok] at h
  obtain ⟨-, hid, -, h⟩ := h
  cases h
  exact ⟨_, .issued (c := draft.challenge (normalEmail draft.email) kind) hid, rfl⟩

theorem call_create_writes (h : call b s (.createPasswordRecoveryChallenge draft) = .ok s') :
    WritesChallenges s s' := by
  obtain ⟨hid, h⟩ := guard_ok.1 h
  cases b with
  | memory =>
    simp only [Memory.createPasswordRecoveryChallenge, guard_ok] at h
    obtain ⟨-, -, h⟩ := h
    cases h
    exact Memory.store_writes hid
  | postgres => exact Postgres.insert_writes (guard_ok.1 h).2

theorem call_createCode_writes {cooldown : Int}
    (h : call b s (.createPasswordRecoveryCodeChallenge draft cooldown) = .ok s') :
    WritesChallenges s s' := by
  obtain ⟨hid, h⟩ := guard_ok.1 h
  cases b with
  | memory =>
    simp only [Memory.createPasswordRecoveryCodeChallenge, guard_ok] at h
    obtain ⟨-, -, -, h⟩ := h
    cases h
    exact Memory.store_writes hid
  | postgres =>
    simp only [Postgres.createPasswordRecoveryCodeChallenge, guard_ok] at h
    exact Postgres.insert_writes h.2.2

variable {a : Call}

/-- What a call of either store does: challenges are written, one is completed, or
    other parts of the program go on. -/
theorem call_cases (h : call b s a = .ok s') : WritesChallenges s s' ∨
    (∃ env id passwordHash clock, a = .completePasswordRecovery env id passwordHash clock) ∨
    ∃ users sessions, a = .other users sessions ∧
      s' = { s with users := users, sessions := sessions } := by
  cases a with
  | createPasswordRecoveryChallenge => exact .inl (call_create_writes h)
  | createPasswordRecoveryCodeChallenge => exact .inl (call_createCode_writes h)
  | recordPasswordRecoveryFailure =>
    obtain ⟨⟨_, t⟩, hrecord, rfl⟩ := map_eq_ok.1 h
    cases b <;> exact .inl (recordFailure_writes hrecord)
  | invalidatePasswordRecoveryChallenge =>
    cases h
    cases b <;> exact .inl invalidate_writes
  | completePasswordRecovery env id passwordHash clock =>
    exact .inr (.inl ⟨env, id, passwordHash, clock, rfl⟩)
  | other users sessions =>
    cases h
    exact .inr (.inr ⟨users, sessions, rfl, rfl⟩)

/-- A call of either store issues a challenge, changes one, or leaves them all. -/
theorem call_written (h : call b s a = .ok s') :
    Written s.passwordRecovery s'.passwordRecovery := by
  rcases call_cases h with ⟨t, ht, rfl⟩ | ⟨_, _, _, _, rfl⟩ |
    ⟨users, sessions, -, rfl⟩
  · exact ht
  · obtain ⟨c, -, -, hc, hopen, -, -, -, rfl⟩ := call_complete_ok h
    exact .changed hc rfl rfl fun _ => hopen
  · exact .same

theorem step_written (b : Backend) (s : Store) (a : Call) :
    Written s.passwordRecovery (step b s a).passwordRecovery := by
  rw [step]
  split
  · next h => exact call_written h
  · exact .same

/-- The call completes the challenge: it was open, and is consumed now. -/
theorem completes_eq_some (h : completes b s a = some id) :
    ∃ c now, s.passwordRecovery.lookup id = some c ∧ c.isOpen ∧ (step b s a).passwordRecovery =
        s.passwordRecovery.insert id { c with consumedAt := some now } := by
  cases a with
  | completePasswordRecovery _ _ _ clock =>
    rw [completes] at h
    split at h
    · next s' hcall =>
      cases h
      obtain ⟨c, _, _, hc, hopen, -, -, -, hs'⟩ := call_complete_ok hcall
      exact ⟨c, clock.now, hc, hopen, by rw [step, hcall, hs']⟩
    · cases h
  | _ => cases h

/-! ## What is true of the challenges -/

namespace Written

variable {t t' : Table String Challenge}

omit [Unicode] in
/-- A challenge stays one of its user and kind, and is not opened again. -/
theorem keeps (h : Written t t') {c : Challenge} (hc : t.lookup id = some c) :
    ∃ c', t'.lookup id = some c' ∧ c'.userID = c.userID ∧ c'.kind = c.kind ∧
      (c'.isOpen → c.isOpen) := by
  cases h with
  | same => exact ⟨c, hc, rfl, rfl, fun hopen => hopen⟩
  | @issued id' _ time hid =>
    have hne : id ≠ id' := by
      rintro rfl
      exact hid (mem_of_lookup hc)
    rw [lookup_insert_ne hne, closeOpen, lookup_mapRows, hc]
    refine ⟨_, rfl, ?_⟩
    dsimp only
    split_ifs
    · exact ⟨rfl, rfl, fun hopen => by simp [Challenge.isOpen] at hopen⟩
    · exact ⟨rfl, rfl, fun hopen => hopen⟩
  | @changed id' c₀ c' hc₀ huser hkind hopen =>
    by_cases hid : id = id'
    · subst hid
      cases hc₀.symm.trans hc
      exact ⟨c', lookup_insert _, huser, hkind, hopen⟩
    · exact ⟨c, by rw [lookup_insert_ne hid, hc], rfl, rfl, fun hopen => hopen⟩

end Written

/-- A user has at most one open challenge of a kind. -/
def OnePerKind (t : Table String Challenge) : Prop :=
  ∀ ⦃id id' : String⦄ ⦃c c' : Challenge⦄, t.lookup id = some c → t.lookup id' = some c' →
    c.isOpen → c'.isOpen → c'.userID = c.userID → c'.kind = c.kind → id' = id

omit [Unicode] in
theorem Written.onePerKind {t t' : Table String Challenge} (h : Written t t') (ht : OnePerKind t) :
    OnePerKind t' := by
  cases h with
  | same => exact ht
  | @issued id₀ c₀ time hid =>
    -- What was open of the kind is closed: only the new challenge is open.
    have hold : ∀ {id c}, (closeOpen (some time) c₀.userID c₀.kind t).lookup id = some c →
        c.isOpen → t.lookup id = some c ∧ ¬ (c.userID = c₀.userID ∧ c.kind = c₀.kind) := by
      intro _ c hc hopen
      rw [closeOpen, lookup_mapRows, Option.map_eq_some_iff] at hc
      obtain ⟨c₁, hc₁, rfl⟩ := hc
      split_ifs at hopen ⊢ with hclosed
      · simp [Challenge.isOpen] at hopen
      · exact ⟨hc₁, fun hsame => hclosed ⟨hsame.1, hsame.2, hopen⟩⟩
    intro _ _ c _ hc hc' hopen hopen' huser hkind
    rcases lookup_insert_iff.1 hc with ⟨rfl, rfl⟩ | ⟨-, hrest⟩ <;>
      rcases lookup_insert_iff.1 hc' with ⟨rfl, rfl⟩ | ⟨-, hrest'⟩
    · rfl
    · exact absurd ⟨huser, hkind⟩ (hold hrest' hopen').2
    · exact absurd ⟨huser.symm, hkind.symm⟩ (hold hrest hopen).2
    · exact ht (hold hrest hopen).1 (hold hrest' hopen').1 hopen hopen' huser hkind
  | @changed id₀ c₀ c₁ hc₀ huser₀ hkind₀ hopen₀ =>
    -- The changed challenge stands for the one before.
    have hold : ∀ {id c}, (t.insert id₀ c₁).lookup id = some c → c.isOpen →
        ∃ c', t.lookup id = some c' ∧ c'.isOpen ∧ c.userID = c'.userID ∧ c.kind = c'.kind := by
      intro _ c hc hopen
      rcases lookup_insert_iff.1 hc with ⟨rfl, rfl⟩ | ⟨-, hc⟩
      · exact ⟨c₀, hc₀, hopen₀ hopen, huser₀, hkind₀⟩
      · exact ⟨c, hc, hopen, rfl, rfl⟩
    intro _ _ c _ hc hc' hopen hopen' huser hkind
    obtain ⟨d, hd, hdopen, hduser, hdkind⟩ := hold hc hopen
    obtain ⟨_, hd', hdopen', hduser', hdkind'⟩ := hold hc' hopen'
    exact ht hd hd' hdopen hdopen' (hduser'.symm.trans (huser.trans hduser))
      (hdkind'.symm.trans (hkind.trans hdkind))

/-- In every run a user has at most one open challenge of a kind. -/
theorem onePerKind_exec (b : Backend) (users : Table String User)
    (sessions : Table String Session) (as : List Call) :
    OnePerKind (exec (step b) (.init users sessions) as).passwordRecovery := by
  refine exec_induction (P := fun s => OnePerKind s.passwordRecovery)
    (fun s a hs => (step_written b s a).onePerKind hs) ?_ as
  intro _ _ c _ hc
  cases hc

/-- A challenge that is there, and can not be completed any more. -/
def Store.Closed (s : Store) (id : String) : Prop :=
  ∃ c, s.passwordRecovery.lookup id = some c ∧ c.isOpen = false

theorem Store.Closed.step (h : s.Closed id) (a : Call) : (step b s a).Closed id := by
  obtain ⟨c, hc, hclosed⟩ := h
  obtain ⟨c', hc', -, -, hopen⟩ := (step_written b s a).keeps hc
  refine ⟨c', hc', eq_false_of_ne_true fun hopen' => ?_⟩
  exact absurd (hopen hopen') (ne_true_of_eq_false hclosed)

/-- A closed challenge is not completed in a run. -/
theorem Store.Closed.notMem_completions (h : s.Closed id) (as : List Call) :
    id ∉ completions b s as := by
  induction as generalizing s with
  | nil => exact List.not_mem_nil
  | cons a _ ih =>
    rw [completions, List.mem_append, not_or]
    refine ⟨fun hmem => ?_, ih (h.step a)⟩
    obtain ⟨c, _, hc, hopen, -⟩ := completes_eq_some (Option.mem_toList.1 hmem)
    obtain ⟨_, hc', hclosed⟩ := h
    cases hc.symm.trans hc'
    exact absurd hopen (ne_true_of_eq_false hclosed)

/-- A completed challenge is closed, and so is every other one that was issued to
    the user and is of its kind. -/
theorem closed_of_completes (hs : OnePerKind s.passwordRecovery) {id' : String} {c c' : Challenge}
    (h : completes b s a = some id) (hc : s.passwordRecovery.lookup id = some c)
    (hc' : s.passwordRecovery.lookup id' = some c') (huser : c'.userID = c.userID)
    (hkind : c'.kind = c.kind) : (step b s a).Closed id' := by
  obtain ⟨d, now, hd, hopen, hstep⟩ := completes_eq_some h
  cases hd.symm.trans hc
  by_cases hid : id' = id
  · refine ⟨{ c with consumedAt := some now }, ?_, rfl⟩
    rw [hstep, hid, lookup_insert]
  · refine ⟨c', ?_, eq_false_of_ne_true fun hopen' => hid (hs hc hc' hopen hopen' huser hkind)⟩
    rw [hstep, lookup_insert_ne hid, hc']

/-- Challenges are completed once each. -/
theorem completions_nodup (hs : OnePerKind s.passwordRecovery) (as : List Call) :
    (completions b s as).Nodup := by
  induction as generalizing s with
  | nil => exact List.nodup_nil
  | cons a as ih =>
    have hrest := ih ((step_written b s a).onePerKind hs)
    rw [completions]
    rcases hid : completes b s a with _ | id
    · exact hrest
    obtain ⟨c, _, hc, -⟩ := completes_eq_some hid
    refine List.nodup_cons.2 ⟨?_, hrest⟩
    exact (closed_of_completes hs hid hc hc rfl rfl).notMem_completions as

/-! ## Recoveries of a run -/

/-- The calls about challenges: all but those of other parts of the program. -/
def Call.isOther : Call → Bool
  | .other .. => true
  | _ => false

/-- A call that completes no challenge sets no password. -/
theorem users_step (ha : a.isOther = false) (h : completes b s a = none) :
    (step b s a).users = s.users := by
  rw [step]
  split
  · next s' hcall =>
    rcases call_cases hcall with ⟨t, -, rfl⟩ | ⟨_, _, _, _, rfl⟩ |
      ⟨users, sessions, rfl, -⟩
    · rfl
    · rw [completes, hcall] at h
      cases h
    · cases ha
  · rfl

/-- What holds of the recoveries of a run from the state `s`. -/
structure Recoveries (b : Backend) (s : Store) (as : List Call) : Prop where
  /-- A challenge is completed at most once. -/
  once : (completions b s as).Nodup
  /-- A password is only set when a challenge is completed. -/
  password : ∀ {xs ys : List Call} {a : Call}, as = xs ++ a :: ys → a.isOther = false →
    completes b (exec (step b) s xs) a = none →
    (exec (step b) s (xs ++ [a])).users = (exec (step b) s xs).users
  /-- No challenge of the same kind that was issued to the user before is completed after. -/
  sameKind : ∀ {xs ys : List Call} {a : Call} {id id' : String} {c c' : Challenge},
    as = xs ++ a :: ys → completes b (exec (step b) s xs) a = some id →
    (exec (step b) s xs).passwordRecovery.lookup id = some c →
    (exec (step b) s xs).passwordRecovery.lookup id' = some c' →
    c'.userID = c.userID → c'.kind = c.kind →
    id' ∉ completions b (exec (step b) s (xs ++ [a])) ys
  /-- A challenge of the other kind stays as it is. -/
  otherKind : ∀ {xs ys : List Call} {a : Call} {id id' : String} {c c' : Challenge},
    as = xs ++ a :: ys → completes b (exec (step b) s xs) a = some id →
    (exec (step b) s xs).passwordRecovery.lookup id = some c →
    (exec (step b) s xs).passwordRecovery.lookup id' = some c' → c'.kind ≠ c.kind →
    (exec (step b) s (xs ++ [a])).passwordRecovery.lookup id' = some c'

/-- In every run of calls of either store, a challenge is completed at most once, and completing it
    closes those of its kind that were issued to the user before. -/
theorem recoveries_run (b : Backend) (users : Table String User)
    (sessions : Table String Session) (as : List Call) :
    Recoveries b (.init users sessions) as where
  once := completions_nodup (onePerKind_exec b users sessions []) as
  password := by
    intro _ _ a _ ha h
    rw [exec_append, exec_cons]
    exact users_step ha h
  sameKind := by
    intro xs ys a _ _ c _ _ h hc hc' huser hkind
    have hone := onePerKind_exec b users sessions xs
    rw [exec_append, exec_cons]
    exact (closed_of_completes hone h hc hc' huser hkind).notMem_completions ys
  otherKind := by
    intro _ _ a id id' c _ _ h hc hc' hkind
    rw [exec_append, exec_cons, exec_nil]
    obtain ⟨d, _, -, -, hstep⟩ := completes_eq_some h
    have hid : id' ≠ id := by
      rintro rfl
      cases hc.symm.trans hc'
      exact hkind rfl
    rw [hstep, lookup_insert_ne hid, hc']

/-! ## The table of users -/

/-- The rows of the database, as this module has them: users as they are read, and
    challenges with all columns. -/
structure Shows (rows : Users.Store) (s : Store) : Prop where
  users : ∀ id, s.users.lookup id = (rows.users.lookup id).map (scanUser id)
  challenges : ∀ id, rows.passwordRecovery.lookup id =
    (s.passwordRecovery.lookup id).map Challenge.toPasswordRecoveryChallenge

/-- A recovery writes the row of the user that is read here. -/
theorem Shows.completePasswordRecovery {rows rows' : Users.Store} (h : Shows rows s) {env : Env}
    {passwordHash : String}
    (hrows : completePasswordRecovery env rows id passwordHash now = .ok rows') :
    ∃ s', Postgres.completePasswordRecovery env s id passwordHash now = .ok s' ∧
      Shows rows' s' := by
  rw [Users.completePasswordRecovery] at hrows
  split at hrows
  · cases hrows
  next row hrow =>
  obtain ⟨hvalid, hrows⟩ := guard_ok.1 hrows
  rw [h.challenges, Option.map_eq_some_iff] at hrow
  obtain ⟨c, hc, rfl⟩ := hrow
  split at hrows
  · cases hrows
  next user huser =>
  cases hrows
  have huser' := h.users c.userID
  rw [huser] at huser'
  simp only [not_or, Option.isSome_iff_ne_none, not_not, not_le] at hvalid
  obtain ⟨hconsumed, hinvalidated, hlt, hlocked⟩ := hvalid
  refine ⟨_, complete_eq_ok.2 ⟨c, _, hc, ?_, hlt, ?_, huser', rfl⟩, ?_, ?_⟩
  · simp [Challenge.isOpen, hconsumed, hinvalidated]
  · cases hl : c.lockedUntil with
    | none => rfl
    | some t => exact decide_eq_false fun hnow => hlocked ⟨t, hl, hnow⟩
  · intro id'
    by_cases hid : id' = c.userID
    · subst hid
      rw [lookup_insert, lookup_insert]
      simp only [Option.map_some, scanUser, normalizeUserRoleFields, normalizedRole]
    · rw [lookup_insert_ne hid, lookup_insert_ne hid, h.users]
  · intro id'
    by_cases hid : id' = id
    · subst hid
      rw [lookup_insert, lookup_insert]
      rfl
    · rw [lookup_insert_ne hid, lookup_insert_ne hid, h.challenges]

end

/-! ## The handlers -/

/-- Comparing a password with a hash (`bcrypt.CompareHashAndPassword`). -/
class Bcrypt where
  agrees : String → String → Bool

/-- What a handler takes from outside: the clock, new identifiers and secrets with their hashes,
    whether the rate limiter lets it go on, and whether its email is sent. -/
structure Outside where
  clock : Clock
  env : Env
  id : String
  token : String
  codeHash : String
  passwordHash : String
  sessionToken : String
  allowed : Bool
  sent : Bool

/-- What the service is set up with. -/
structure Settings where
  resetTTL : Int
  sessionTTL : Int

/-- The body of a request. -/
structure Body where
  inQuery : Bool
  email : String
  token : String
  code : String
  password : String

/-- What is answered. An answer without an error has none. -/
structure Response where
  status : Nat
  error : String
  message : String
  deriving DecidableEq

def passwordRecoveryCodeCooldown : Int := Time.minute
def maxMFAVerificationAttempts : Int := 5
def defaultMFALockoutDuration : Int := 5 * Time.minute
def defaultPasswordResetTTL : Int := 30 * Time.minute
def defaultSessionTTL : Int := 24 * Time.hour

section

variable [Unicode]

def isRootUser (user : User) : Bool :=
  decide (user.level ≤ 0) || equalFold user.role "root" || equalFold user.role "admin"

def isReadOnlyAccount (user : User) : Bool :=
  !isRootUser user && (equalFold (trimSpace user.role) "readonly" ||
    user.groups.any (fun group => equalFold (trimSpace group) "ReadOnly Role") ||
    equalFold (trimSpace user.name) "sandbox" ||
    equalFold user.email "sandbox@svc.plus")

def getUserByEmail (s : Store) (email : String) : Option User :=
  (rows s.users).find? fun user => normalEmail user.email == email

/-- The challenge with the hash of a token. -/
def getPasswordRecoveryChallengeByTokenHash (s : Store) (hash : String) :
    Option (String × Challenge) :=
  (s.passwordRecovery.entries.find? fun e => e.2.kind = .token && e.2.secretHash == hash).map
    fun e => (e.1, e.2)

/-- The newest open code that was sent to an address. -/
def getLatestPasswordRecoveryCode (b : Backend) (s : Store) (email : String) :
    Option (String × Challenge) :=
  let same (e : String) : Bool := match b with
    | .memory => equalFold e email
    | .postgres => toLower e == toLower email
  let codes := s.passwordRecovery.entries.filter fun e =>
    e.2.kind = .code && same e.2.email && e.2.isOpen
  (codes.find? fun e => codes.all fun e' => e'.2.createdAt ≤ e.2.createdAt).map fun e => (e.1, e.2)

def passwordResetTokenHash [Sha256] (token : String) : String := Sha256.hex (trimSpace token)

/-- How long a challenge can be completed. -/
def Settings.ttl (settings : Settings) : Int :=
  if settings.resetTTL ≤ 0 then defaultPasswordResetTTL else settings.resetTTL

/-- The email with the secret of a challenge is sent. The challenge is invalidated
    when it is not. -/
def deliver (b : Backend) (out : Outside) (s : Store) : Store × Bool :=
  if out.sent then (s, true)
  else (step b s (.invalidatePasswordRecoveryChallenge out.id out.clock), false)

section

variable (b : Backend) (settings : Settings) (out : Outside) (s : Store)

/-- A link is stored, and sent. -/
def enqueuePasswordReset [Sha256] (user : User) : Store × Bool :=
  if trimSpace user.email = "" then (s, false) else
  match call b s (.createPasswordRecoveryChallenge
    { id := out.id
      userID := user.id
      email := normalEmail user.email
      kind := .token
      secretHash := passwordResetTokenHash out.token
      expiresAt := out.clock.now + settings.ttl
      createdAt := out.clock }) with
  | .error _ => (s, false)
  | .ok s => deliver b out s

/-- A code is stored, and sent. -/
def enqueuePasswordResetCode (user : User) : Store × Bool :=
  match call b s (.createPasswordRecoveryCodeChallenge
    { id := out.id
      userID := user.id
      email := normalEmail user.email
      kind := .code
      secretHash := out.codeHash
      expiresAt := out.clock.now + settings.ttl
      createdAt := out.clock } passwordRecoveryCodeCooldown) with
  | .error _ => (s, false)
  | .ok s => deliver b out s

variable (body : Body)

def requestPasswordReset [Sha256] : Store × Response :=
  let accepted := ⟨202, "", "if the account exists a reset email will be sent"⟩
  let email := normalEmail body.email
  if body.inQuery then (s, ⟨400, "email_in_query", "email must be sent in the request body"⟩)
  else if email = "" then (s, ⟨400, "email_required", "email is required"⟩)
  else match getUserByEmail s email with
  | none => (s, accepted)
  | some user =>
    if trimSpace user.email = "" ∨ ¬ user.emailVerified then (s, accepted)
    else if isReadOnlyAccount user then
      (s, ⟨403, "read_only_account", "demo account cannot change password"⟩)
    else match enqueuePasswordReset b settings out s user with
      | (s, true) => (s, accepted)
      | (s, false) => (s, ⟨500, "password_reset_failed", "failed to initiate password reset"⟩)

/-- The answer is the same whether there is an account, or the code is sent. -/
def requestPasswordResetCode : Store × Response :=
  let accepted := ⟨202, "", "if the account exists a reset code will be sent"⟩
  let email := normalEmail body.email
  if body.inQuery then (s, ⟨400, "email_in_query", "email must be sent in the request body"⟩)
  else if email = "" then (s, ⟨400, "email_required", "email is required"⟩)
  else if ¬ out.allowed then
    (s, ⟨429, "rate_limited", "too many attempts, please try again later"⟩)
  else match getUserByEmail s email with
  | none => (s, accepted)
  | some user =>
    if ¬ user.emailVerified ∨ trimSpace user.email = "" then (s, accepted)
    else if isReadOnlyAccount user then (s, accepted)
    else ((enqueuePasswordResetCode b settings out s user).1, accepted)

/-- The link is followed: its user gets the new password, and a session. -/
def confirmPasswordReset [Sha256] : Store × Response :=
  let now := out.clock.now
  let invalid := ⟨400, "invalid_token", "reset token is invalid or expired"⟩
  let token := trimSpace body.token
  let password := trimSpace body.password
  if body.inQuery then (s, ⟨400, "credentials_in_query",
    "sensitive credentials must not be sent in the query string"⟩)
  else if token = "" ∨ password = "" then
    (s, ⟨400, "invalid_request", "token and password are required"⟩)
  else if password.utf8ByteSize < 8 then
    (s, ⟨400, "password_too_short", "password must be at least 8 characters"⟩)
  else match getPasswordRecoveryChallengeByTokenHash s (passwordResetTokenHash token) with
  | none => (s, invalid)
  | some (id, c) =>
    if ¬ now < c.expiresAt ∨ c.lockedUntil.any (now < ·) then (s, invalid) else
    match s.users.lookup c.userID with
    | none => (s, ⟨500, "password_reset_failed", "failed to reset password"⟩)
    | some user =>
      let invalidated := step b s (.invalidatePasswordRecoveryChallenge id out.clock)
      if ¬ user.active then (s, ⟨403, "account_suspended", "account is disabled"⟩)
      else if ¬ equalFold (trimSpace user.email) c.email then (invalidated, invalid)
      else if isReadOnlyAccount user then
        (invalidated, ⟨403, "read_only_account", "demo account cannot change password"⟩)
      else match call b s (.completePasswordRecovery out.env id out.passwordHash out.clock) with
      | .error .invalid => (s, invalid)
      | .error _ => (s, ⟨500, "password_reset_failed", "failed to reset password"⟩)
      | .ok s =>
        let ttl := if settings.sessionTTL ≤ 0 then defaultSessionTTL else settings.sessionTTL
        ({ s with sessions := s.sessions.insert out.sessionToken ⟨user.id, now + ttl⟩ },
          ⟨200, "", "password reset successful"⟩)

end

/-- The code is entered. A wrong one is counted. -/
def confirmPasswordResetCode [Bcrypt] (b : Backend) (out : Outside) (s : Store) (body : Body) :
    Store × Response :=
  let now := out.clock.now
  let invalid := ⟨400, "invalid_code", "verification code is invalid or expired"⟩
  let failed := ⟨500, "password_reset_failed", "failed to reset password"⟩
  let email := normalEmail body.email
  let code := trimSpace body.code
  let password := trimSpace body.password
  if body.inQuery then (s, ⟨400, "credentials_in_query",
    "sensitive credentials must not be sent in the query string"⟩)
  else if email = "" ∨ code = "" ∨ password = "" then
    (s, ⟨400, "invalid_request", "email, code and password are required"⟩)
  else if code.toList.length ≠ 6 ∨ ¬ code.toList.all Char.isDigit then
    (s, ⟨400, "invalid_code", "verification code must be 6 digits"⟩)
  else if password.utf8ByteSize < 8 then
    (s, ⟨400, "password_too_short", "password must be at least 8 characters"⟩)
  else if ¬ out.allowed then
    (s, ⟨429, "rate_limited", "too many attempts, please try again later"⟩)
  else match getLatestPasswordRecoveryCode b s email with
  | none => (s, invalid)
  | some (id, c) =>
    let invalidated := step b s (.invalidatePasswordRecoveryChallenge id out.clock)
    if ¬ now < c.expiresAt then (s, ⟨410, "code_expired", "verification code has expired"⟩)
    else if c.lockedUntil.any (now < ·) then (s, invalid)
    else if ¬ Bcrypt.agrees c.secretHash code then
      let recorded := match b with
        | .memory => Memory.recordPasswordRecoveryFailure s id now maxMFAVerificationAttempts
            defaultMFALockoutDuration
        | .postgres => Postgres.recordPasswordRecoveryFailure s id now maxMFAVerificationAttempts
            defaultMFALockoutDuration
      match recorded with
      | .error .invalid => (s, invalid)
      | .error _ => (s, ⟨500, "password_reset_failed",
          "failed to update password reset attempt state"⟩)
      | .ok (s, retryAt) => if retryAt.isZero then (s, invalid)
          else (s, ⟨429, "rate_limited", "too many attempts, please try again later"⟩)
    else match s.users.lookup c.userID with
    | none => (invalidated, invalid)
    | some user =>
      if ¬ equalFold (trimSpace user.email) email then (invalidated, invalid)
      else if isReadOnlyAccount user then
        (invalidated, ⟨403, "read_only_account", "demo account cannot change password"⟩)
      else match call b s (.completePasswordRecovery out.env id out.passwordHash out.clock) with
      | .error .invalid => (s, invalid)
      | .error _ => (s, failed)
      | .ok s => (s, ⟨200, "", "password reset successful"⟩)

/-! ## Handlers make calls -/

/-- The store after some calls. -/
def Made (b : Backend) (s s' : Store) : Prop := ∃ calls, s' = exec (step b) s calls

namespace Made

variable {b : Backend} {s s' : Store}

theorem refl : Made b s s := ⟨[], rfl⟩

theorem step (a : Call) : Made b s (Recovery.step b s a) := ⟨[a], rfl⟩

theorem answer {α : Type} (a : Call) (x : α) : Made b s (Recovery.step b s a, x).1 := .step a

theorem call {a : Call} (h : call b s a = .ok s') : Made b s s' := by
  refine ⟨[a], ?_⟩
  rw [exec_cons, exec_nil, Recovery.step, h]

theorem trans {s'' : Store} (h : Made b s s') (h' : Made b s' s'') : Made b s s'' := by
  obtain ⟨calls, rfl⟩ := h
  obtain ⟨calls', rfl⟩ := h'
  exact ⟨calls ++ calls', (exec_append _ _ _).symm⟩

/-- A handler that asks for one of two things. -/
theorem ite {α : Type} {p : Prop} [Decidable p] {x y : Store × α} (hx : p → Made b s x.1)
    (hy : ¬ p → Made b s y.1) : Made b s (if p then x else y).1 := by
  split_ifs with h
  · exact hx h
  · exact hy h

/-- A handler that may refuse first. -/
theorem guard {α : Type} {p : Prop} [Decidable p] {x : α} {y : Store × α}
    (hy : ¬ p → Made b s y.1) : Made b s (if p then (s, x) else y).1 :=
  .ite (fun _ => .refl) hy

end Made

section

variable (b : Backend) (settings : Settings) (out : Outside) (s : Store)

theorem deliver_made : Made b s (deliver b out s).1 :=
  .guard fun _ => .answer _ _

theorem enqueuePasswordReset_made [Sha256] (user : User) :
    Made b s (enqueuePasswordReset b settings out s user).1 := by
  refine .guard fun _ => ?_
  split
  · exact .refl
  · next h => exact (Made.call h).trans (deliver_made b out _)

theorem enqueuePasswordResetCode_made (user : User) :
    Made b s (enqueuePasswordResetCode b settings out s user).1 := by
  rw [enqueuePasswordResetCode]
  split
  · exact .refl
  · next h => exact (Made.call h).trans (deliver_made b out _)

variable (body : Body)

theorem requestPasswordReset_made [Sha256] :
    Made b s (requestPasswordReset b settings out s body).1 := by
  refine .guard fun _ => .guard fun _ => ?_
  split
  · exact .refl
  next user _ =>
  refine .guard fun _ => .guard fun _ => ?_
  have h := enqueuePasswordReset_made b settings out s user
  split <;> next heq =>
    rw [heq] at h
    exact h

theorem requestPasswordResetCode_made :
    Made b s (requestPasswordResetCode b settings out s body).1 := by
  refine .guard fun _ => .guard fun _ => .guard fun _ => ?_
  split
  · exact .refl
  · exact .guard fun _ => .guard fun _ => enqueuePasswordResetCode_made b settings out s _

theorem confirmPasswordReset_made [Sha256] :
    Made b s (confirmPasswordReset b settings out s body).1 := by
  refine .guard fun _ => .guard fun _ => .guard fun _ => ?_
  split
  · exact .refl
  refine .guard fun _ => ?_
  split
  · exact .refl
  refine .guard fun _ => .ite (fun _ => .answer _ _) fun _ =>
    .ite (fun _ => .answer _ _) fun _ => ?_
  split
  · exact .refl
  · exact .refl
  · next s' h =>
    -- The new session is written by a call of its own.
    exact (Made.call h).trans (.step (.other s'.users (s'.sessions.insert _ _)))

theorem confirmPasswordResetCode_made [Bcrypt] :
    Made b s (confirmPasswordResetCode b out s body).1 := by
  refine .guard fun _ => .guard fun _ => .guard fun _ => .guard fun _ => .guard fun _ => ?_
  split
  · exact .refl
  next id c _ =>
  refine .guard fun _ => .guard fun _ => .ite (fun _ => ?_) fun _ => ?_
  · dsimp only
    split
    · exact .refl
    · exact .refl
    next s' retryAt h =>
    have hcall : call b s (.recordPasswordRecoveryFailure id out.clock
        maxMFAVerificationAttempts defaultMFALockoutDuration) = .ok s' :=
      map_eq_ok.2 ⟨(s', retryAt), h, rfl⟩
    exact .ite (fun _ => .call hcall) fun _ => .call hcall
  · split
    · exact .answer _ _
    refine .ite (fun _ => .answer _ _) fun _ => .ite (fun _ => .answer _ _) fun _ => ?_
    split
    · exact .refl
    · exact .refl
    · next h => exact .call h

end

/-- The four requests. -/
inductive Request
  | passwordReset (body : Body)
  | passwordResetCode (body : Body)
  | confirmPasswordReset (body : Body)
  | confirmPasswordResetCode (body : Body)

variable [Sha256] [Bcrypt] (b : Backend) (settings : Settings)

include b settings

/-- A request is served. -/
def serve (s : Store) (out : Outside) :
    Request → Store × Response
  | .passwordReset body => requestPasswordReset b settings out s body
  | .passwordResetCode body => requestPasswordResetCode b settings out s body
  | .confirmPasswordReset body => Recovery.confirmPasswordReset b settings out s body
  | .confirmPasswordResetCode body => Recovery.confirmPasswordResetCode b out s body

/-- Serving a request is a run of calls: what holds of all runs of calls holds
    whatever requests are served, and however their calls are mixed. -/
theorem serve_made (s : Store) (out : Outside) (request : Request) :
    Made b s (serve b settings s out request).1 := by
  cases request with
  | passwordReset body => exact requestPasswordReset_made b settings out s body
  | passwordResetCode body => exact requestPasswordResetCode_made b settings out s body
  | confirmPasswordReset body => exact confirmPasswordReset_made b settings out s body
  | confirmPasswordResetCode body => exact confirmPasswordResetCode_made b out s body

/-- Whatever requests were served, a user has at most one open challenge of a kind. -/
theorem onePerKind_served (users : Table String User) (sessions : Table String Session)
    (requests : List (Outside × Request)) :
    OnePerKind (exec (fun s r => (serve b settings s r.1 r.2).1) (.init users sessions)
      requests).passwordRecovery := by
  have hmade : Made b (.init users sessions)
      (exec (fun s r => (serve b settings s r.1 r.2).1) (.init users sessions) requests) :=
    exec_induction (fun s r hs => hs.trans (serve_made b settings s r.1 r.2)) .refl requests
  obtain ⟨calls, hcalls⟩ := hmade
  rw [hcalls]
  exact onePerKind_exec b users sessions calls

end

/-! ## A link that works after a code was used -/

namespace Sample

local instance : Unicode := Unicode.ascii
local instance : Sha256 := ⟨fun text => text⟩
local instance : Bcrypt := ⟨fun hash code => hash == code⟩

/-- An account. -/
def user : User := .sample "u" "first" "p"

/-- What a request finds outside. -/
def outside (id passwordHash : String) : Outside where
  clock := ⟨Time.day, by decide⟩
  env := .sample Time.day
  id := id
  token := "secret-token"
  codeHash := "123456"
  passwordHash := passwordHash
  sessionToken := "session"
  allowed := true
  sent := true

def body : Body := ⟨false, "ann@example.com", "secret-token", "123456", "a new password"⟩

/-- A link is asked for, then a code; the code is used, and then the link. -/
def requests : List (Outside × Request) :=
  [ (outside "link" "", .passwordReset body),
    (outside "code" "", .passwordResetCode body),
    (outside "" "second", .confirmPasswordResetCode body),
    (outside "" "third", .confirmPasswordReset body)]

/-- The store after the first requests. -/
def after (b : Backend) (n : Nat) : Store :=
  exec (fun s r => (serve b ⟨0, 0⟩ s r.1 r.2).1)
    (.init (AList.insert "u" user ∅) ∅) (requests.take n)

/-- The user and the kind of a challenge, and whether it is open. -/
def seen (s : Store) (id : String) : Option (String × Kind × Bool) :=
  (s.passwordRecovery.lookup id).map fun c => (c.userID, c.kind, c.isOpen)

/-- The password of the account. -/
def password (s : Store) : Option String := (s.users.lookup "u").map User.passwordHash

/-- In both stores the link, which was issued before the password was recovered
    with the code, recovers it once more. -/
theorem link_survives_code :
    (seen (after .memory 2) "link" = some ("u", .token, true) ∧
      seen (after .memory 2) "code" = some ("u", .code, true) ∧
      seen (after .memory 3) "code" = some ("u", .code, false) ∧
      password (after .memory 3) = some "second" ∧
      password (after .memory 4) = some "third") ∧
    (seen (after .postgres 2) "link" = some ("u", .token, true) ∧
      seen (after .postgres 2) "code" = some ("u", .code, true) ∧
      seen (after .postgres 3) "code" = some ("u", .code, false) ∧
      password (after .postgres 3) = some "second" ∧
      password (after .postgres 4) = some "third") := by
  decide +kernel

end Sample

end Accounts.Recovery

import Accounts.Users.Recovery

/-!
# Recovery codes

A user with a second factor keeps a batch of recovery codes, each of which may
stand for the factor once, when the password is set anew
(`internal/store/mfa_recovery_codes.go`). A new batch takes the place of the one
before. A wrong code is counted against all codes of the batch, and after too
many of them the batch is locked for a while.

Both stores are modelled. They keep the same table, so that a run of calls takes
both through the same states (`step_agree`).

* `oneTime_run`: a code authorises at most once, and no more once it was
  replaced or revoked, has expired or is locked;
* `codes_run`: the stores also answer alike, if no wrong code is counted while
  the batch is locked. Then the store in memory says how long, and the database
  says that there is no code (`Sample.locked_or_invalid`).
-/

namespace Accounts.RecoveryCodes

open Table Except AList List Run Users

/-! ## Codes -/

/-- A recovery code as it is stored. -/
structure Code where
  userID : String
  batchID : String
  codeHash : String
  expiresAt : Time
  failedAttempts : Int
  lockedUntil : Option Time
  createdAt : Time
  consumedAt : Option Time
  revokedAt : Option Time
  deriving DecidableEq

/-- The code was neither consumed nor revoked. -/
def Code.isOpen (c : Code) : Bool := c.consumedAt.isNone && c.revokedAt.isNone

/-- The code is an open one of the user that has not expired. -/
def Code.active (userID : String) (now : Time) (c : Code) : Bool :=
  c.userID == userID && c.isOpen && decide (now < c.expiresAt)

/-- A time the clock shows (`time.Now`), which is after the zero time. -/
structure Clock where
  now : Time
  now_pos : 0 < now

/-- A new code, as the handler makes it. -/
structure NewCode where
  id : String
  userID : String
  batchID : String
  codeHash : String
  expiresAt : Time
  createdAt : Clock

/-- What both stores check of a new code. -/
def NewCode.valid (userID : String) (now : Time) (c : NewCode) : Bool :=
  c.id != "" && c.batchID != "" && c.userID == userID && c.codeHash != "" &&
    decide (now < c.expiresAt)

/-- The code a new one is stored as. -/
def NewCode.code (c : NewCode) : Code where
  userID := c.userID
  batchID := c.batchID
  codeHash := c.codeHash
  expiresAt := c.expiresAt
  failedAttempts := 0
  lockedUntil := none
  createdAt := c.createdAt.now
  consumedAt := none
  revokedAt := none

/-- The users, the recovery codes, and the sessions. -/
structure Store where
  users : Table String User
  mfaRecoveryCodes : Table String Code
  sessions : Table String Recovery.Session

/-- Before any code is issued. -/
def Store.init (users : Table String User) (sessions : Table String Recovery.Session) : Store :=
  ⟨users, ∅, sessions⟩

/-- Why a call is refused. A constraint of the database has a name. -/
inductive CodeError
  | invalid
  | userNotFound
  | constraint (name : String)
  deriving DecidableEq

/-! ## Calls of the stores -/

/-- One of the elements of a list, if there are any. Which one is not known: `n`
    stands for the order of a map, or of the rows of a statement. -/
def pick {α : Type*} (n : Nat) (l : List α) : Option α := l[n % l.length]?

/-- The open codes of a user are revoked. -/
def revokeOpen (time : Option Time) (userID : String) (t : Table String Code) : Table String Code :=
  mapRows (fun _ c => if c.userID = userID ∧ c.isOpen then { c with revokedAt := time } else c) t

section

variable (mark : Time → Option Time)

/-- A wrong code is counted, and the code locked after too many. The time it is
    locked until is stored by `mark`. -/
def Code.fail (now : Time) (maxAttempts : Int) (lockout : Nat) (c : Code) : Code :=
  { c with
    failedAttempts := c.failedAttempts + 1
    lockedUntil := if maxAttempts ≤ c.failedAttempts + 1 then mark (now + lockout)
      else c.lockedUntil }

/-- A wrong code is counted against the active codes of a user that are not locked. -/
def countFailure (locked : Option Time → Bool) (userID : String) (now : Time) (maxAttempts : Int)
    (lockout : Nat) (t : Table String Code) : Table String Code :=
  mapRows (fun _ c => if c.active userID now ∧ locked c.lockedUntil = false
    then c.fail mark now maxAttempts lockout else c) t

end

/-- The user gets a new password and loses all sessions. -/
def Store.setPassword (s : Store) (userID passwordHash : String) (user : User) : Store :=
  { s with
    users := s.users.insert userID { user with passwordHash := passwordHash }
    sessions := Table.filter (fun _ session => session.userID != userID) s.sessions }

/-- The account may be recovered. -/
def recoverable (user : User) : Bool := user.active && user.archivedAt.isNone

namespace Memory

/-- A lock that was never set is the zero time. -/
def locked (now : Time) (lockedUntil : Option Time) : Bool := now < lockedUntil.getD 0

variable (s : Store) (userID : String)

def replaceMFARecoveryCodes (codes : List NewCode) : Except CodeError Store :=
  match codes with
  | [] => .error .invalid
  | first :: _ =>
    let now := first.createdAt.now
    if Text.blank userID then .error .invalid
    else if userID ∉ s.users then .error .userNotFound
    else if ¬ codes.all (·.valid userID now) then .error .invalid
    else
      let rest := revokeOpen (nullForZero now) userID s.mfaRecoveryCodes
      .ok { s with mfaRecoveryCodes := codes.foldl (fun t c => t.insert c.id c.code) rest }

/-- The codes are visited in any order: what is answered is the lock of the last
    one that is locked, or becomes so. -/
def recordMFARecoveryCodeFailure (now : Time) (maxAttempts : Int) (lockout order : Nat) :
    Except CodeError (Store × Time) :=
  let active := (rows s.mfaRecoveryCodes).filter (·.active userID now)
  if active = [] then .error .invalid else
  let locks := active.filterMap fun c =>
    if locked now c.lockedUntil then c.lockedUntil
    else if maxAttempts ≤ c.failedAttempts + 1 then nullForZero (now + lockout)
    else none
  let codes := countFailure nullForZero (locked now) userID now maxAttempts lockout
    s.mfaRecoveryCodes
  .ok ({ s with mfaRecoveryCodes := codes }, (pick order locks).getD 0)

def revokeMFARecoveryCodes (now : Time) : Store :=
  { s with mfaRecoveryCodes := revokeOpen (nullForZero now) userID s.mfaRecoveryCodes }

/-- Without a code (`recoveryCodeID = ""`) the other factor was shown. -/
def completeMFAPasswordReset (recoveryCodeID passwordHash : String) (now : Time) :
    Except CodeError Store :=
  match s.users.lookup userID with
  | none => .error .invalid
  | some user =>
    if ¬ recoverable user then .error .invalid
    else if recoveryCodeID = "" then .ok (s.setPassword userID passwordHash user)
    else match s.mfaRecoveryCodes.lookup recoveryCodeID with
      | none => .error .invalid
      | some c =>
        if ¬ c.active userID now ∨ locked now c.lockedUntil then .error .invalid
        else
          let c' := { c with consumedAt := nullForZero now }
          let s' := { s with mfaRecoveryCodes := s.mfaRecoveryCodes.insert recoveryCodeID c' }
          .ok (s'.setPassword userID passwordHash user)

end Memory

namespace Postgres

/-- A lock that was never set is null. -/
def locked (now : Time) (lockedUntil : Option Time) : Bool := lockedUntil.any fun t => now < t

/-- The new codes are checked and written one by one. -/
def insertCodes (users : Table String User) (userID : String) (now : Time) :
    Table String Code → List NewCode → Except CodeError (Table String Code)
  | t, [] => .ok t
  | t, c :: codes =>
    if ¬ c.valid userID now then .error .invalid
    else if c.id ∈ t then .error (.constraint "mfa_recovery_codes_pkey")
    else if userID ∉ users then .error (.constraint "mfa_recovery_codes_user_uuid_fkey")
    else insertCodes users userID now (t.insert c.id c.code) codes

section

variable (s : Store) (userID : String)

def replaceMFARecoveryCodes (codes : List NewCode) : Except CodeError Store :=
  match codes with
  | [] => .error .invalid
  | first :: _ =>
    let now := first.createdAt.now
    if Text.blank userID then .error .invalid
    else
      let rest := revokeOpen (some now) userID s.mfaRecoveryCodes
      (insertCodes s.users userID now rest codes).map fun t => { s with mfaRecoveryCodes := t }

/-- What is answered is the lock of the first row that was written. -/
def recordMFARecoveryCodeFailure (now : Time) (maxAttempts : Int) (lockout order : Nat) :
    Except CodeError (Store × Time) :=
  let written := (rows s.mfaRecoveryCodes).filter fun c =>
    c.active userID now && !locked now c.lockedUntil
  match pick order (written.map fun c => (c.fail some now maxAttempts lockout).lockedUntil) with
  | none => .error .invalid
  | some lockedUntil =>
    let codes := countFailure some (locked now) userID now maxAttempts lockout s.mfaRecoveryCodes
    .ok ({ s with mfaRecoveryCodes := codes }, lockedUntil.getD 0)

def revokeMFARecoveryCodes (now : Time) : Store :=
  { s with mfaRecoveryCodes := revokeOpen (some now) userID s.mfaRecoveryCodes }

end

/-- The row of a code that may be used is consumed, if there is a code. -/
def consume (t : Table String Code) (userID recoveryCodeID : String) (now : Time) :
    Except CodeError (Table String Code) :=
  if recoveryCodeID = "" then .ok t
  else match t.lookup recoveryCodeID with
    | none => .error .invalid
    | some c =>
      if ¬ c.active userID now ∨ locked now c.lockedUntil then .error .invalid
      else .ok (t.insert recoveryCodeID { c with consumedAt := some now })

/-- The code is consumed first; it is not if the user cannot be recovered, as the
    transaction is rolled back. -/
def completeMFAPasswordReset (s : Store) (userID recoveryCodeID passwordHash : String)
    (now : Time) : Except CodeError Store := do
  let codes ← consume s.mfaRecoveryCodes userID recoveryCodeID now
  match s.users.lookup userID with
  | none => .error .invalid
  | some user =>
    if ¬ recoverable user then .error .invalid
    else
      let s' := { s with mfaRecoveryCodes := codes }
      .ok (s'.setPassword userID passwordHash user)

end Postgres

/-! ## Runs of calls -/

/-- A call of the store. -/
inductive Call
  | replaceMFARecoveryCodes (userID : String) (codes : List NewCode)
  | recordMFARecoveryCodeFailure (userID : String) (clock : Clock) (maxAttempts : Int)
    (lockout : Nat) (order : Nat)
  | revokeMFARecoveryCodes (userID : String) (clock : Clock)
  | completeMFAPasswordReset (userID recoveryCodeID passwordHash : String) (clock : Clock)
  /-- Any other part of the program changes the users and the sessions. -/
  | other (users : Table String User) (sessions : Table String Recovery.Session)

/-- The identifiers of new codes (`uuid.NewString`) are ones that no code has. -/
def Fresh (t : Table String Code) (codes : List NewCode) : Prop :=
  (codes.map (·.id)).Nodup ∧ ∀ c ∈ codes, c.id ∉ t

instance (t : Table String Code) (codes : List NewCode) : Decidable (Fresh t codes) :=
  inferInstanceAs (Decidable (_ ∧ _))

/-- What a call does, and the lock it answers, which is zero if there is none. -/
def call (b : Recovery.Backend) (s : Store) : Call → Except CodeError (Store × Time)
  | .replaceMFARecoveryCodes userID codes =>
    if ¬ Fresh s.mfaRecoveryCodes codes then .error (.constraint "mfa_recovery_codes_pkey")
    else Except.map (·, 0) <| match b with
      | .memory => Memory.replaceMFARecoveryCodes s userID codes
      | .postgres => Postgres.replaceMFARecoveryCodes s userID codes
  | .recordMFARecoveryCodeFailure userID clock maxAttempts lockout order =>
    match b with
    | .memory =>
      Memory.recordMFARecoveryCodeFailure s userID clock.now maxAttempts lockout order
    | .postgres =>
      Postgres.recordMFARecoveryCodeFailure s userID clock.now maxAttempts lockout order
  | .revokeMFARecoveryCodes userID clock => .ok <| (·, 0) <| match b with
    | .memory => Memory.revokeMFARecoveryCodes s userID clock.now
    | .postgres => Postgres.revokeMFARecoveryCodes s userID clock.now
  | .completeMFAPasswordReset userID id passwordHash clock => Except.map (·, 0) <| match b with
    | .memory => Memory.completeMFAPasswordReset s userID id passwordHash clock.now
    | .postgres => Postgres.completeMFAPasswordReset s userID id passwordHash clock.now
  | .other users sessions => .ok ({ s with users := users, sessions := sessions }, 0)

/-- A call that is refused changes nothing. -/
def step (b : Recovery.Backend) (s : Store) (a : Call) : Store :=
  match call b s a with
  | .ok (s', _) => s'
  | .error _ => s

/-- What a caller sees of a call. -/
inductive Answer
  | success
  | lockedUntil (time : Time)
  | invalid
  | failed
  deriving DecidableEq

def Answer.of : Except CodeError (Store × Time) → Answer
  | .ok (_, time) => if time.isZero then .success else .lockedUntil time
  | .error .invalid => .invalid
  | .error _ => .failed

section

variable (b : Recovery.Backend)

/-- The code a call is authorised by. -/
def authorises (s : Store) : Call → Option String
  | .completeMFAPasswordReset userID id passwordHash clock =>
    if id = "" then none else
    match call b s (.completeMFAPasswordReset userID id passwordHash clock) with
    | .ok _ => some id
    | .error _ => none
  | _ => none

/-- The codes that authorise the calls of a run, in order. -/
def authorisations : Store → List Call → List String :=
  collect (step b) (authorises b)

/-- The answers to the calls of a run, in order. -/
def answers : Store → List Call → List Answer :=
  collect (step b) fun s a => some (.of (call b s a))

end

/-! ## The stores keep the same table -/

/-- A time the clock shows, or a later one, is stored as it is. -/
theorem nullForZero_add (clock : Clock) (lockout : Nat) :
    nullForZero (clock.now + lockout) = some (clock.now + lockout) := by
  rw [nullForZero, if_neg]
  simp only [Time.isZero, beq_iff_eq]
  exact (Int.add_pos_of_pos_of_nonneg clock.now_pos (Int.natCast_nonneg lockout)).ne'

theorem nullForZero_now (clock : Clock) : nullForZero clock.now = some clock.now := by
  simpa using nullForZero_add clock 0

/-- The stores agree on what is locked. -/
theorem locked_agree (clock : Clock) : Memory.locked clock.now = Postgres.locked clock.now := by
  funext lockedUntil
  cases lockedUntil with
  | none => simpa [Memory.locked, Postgres.locked] using clock.now_pos.le
  | some => rfl

variable {userID : String} {t : Table String Code}

/-- New codes that are all valid are written; if one of them is not, none is. -/
theorem Postgres.insertCodes_eq {users : Table String User} {now : Time} (huser : userID ∈ users)
    {codes : List NewCode} (hfresh : Fresh t codes) :
    Postgres.insertCodes users userID now t codes =
      if codes.all (·.valid userID now) then .ok (codes.foldl (fun t c => t.insert c.id c.code) t)
      else .error .invalid := by
  induction codes generalizing t with
  | nil => rfl
  | cons c codes ih =>
    obtain ⟨hnodup, hnew⟩ := hfresh
    obtain ⟨hc, hnodup⟩ := nodup_cons.1 hnodup
    rw [Postgres.insertCodes, all_cons, foldl_cons]
    by_cases hvalid : c.valid userID now
    · have hrest : Fresh (t.insert c.id c.code) codes := by
        refine ⟨hnodup, fun c' hc' => ?_⟩
        rw [mem_insert, not_or]
        exact ⟨fun heq => hc (mem_map.2 ⟨c', hc', heq⟩), hnew c' (.tail _ hc')⟩
      rw [if_neg (not_not.2 hvalid), if_neg (hnew c (.head _)), if_neg (not_not.2 huser), ih hrest,
        hvalid, Bool.true_and]
    · rw [eq_false_of_ne_true hvalid]
      rfl

theorem Fresh.revokeOpen {codes : List NewCode} (h : Fresh t codes) (time : Option Time)
    (userID : String) : Fresh (revokeOpen time userID t) codes := by
  refine ⟨h.1, fun c hc => ?_⟩
  rw [RecoveryCodes.revokeOpen, mem_mapRows]
  exact h.2 c hc

variable {s : Store}

/-- A new batch of codes for a user there is. -/
theorem replace_agree {codes : List NewCode} (huser : userID ∈ s.users)
    (hfresh : Fresh s.mfaRecoveryCodes codes) :
    Memory.replaceMFARecoveryCodes s userID codes =
      Postgres.replaceMFARecoveryCodes s userID codes := by
  cases codes with
  | nil => rfl
  | cons first codes =>
    rw [Memory.replaceMFARecoveryCodes, Postgres.replaceMFARecoveryCodes, nullForZero_now]
    simp only [Postgres.insertCodes_eq huser (hfresh.revokeOpen _ _)]
    by_cases hblank : Text.blank userID
    · rw [if_pos hblank, if_pos hblank]
    rw [if_neg hblank, if_neg hblank, if_neg (not_not.2 huser)]
    by_cases hvalid : (first :: codes).all (·.valid userID first.createdAt.now)
    · rw [if_neg (not_not.2 hvalid), if_pos hvalid]
      rfl
    · rw [if_pos hvalid, if_neg hvalid]
      rfl

/-- Codes for a user there is not are refused by both stores. The database checks
    the first code before it finds that the user is missing. -/
theorem replace_unknown {codes : List NewCode} (huser : userID ∉ s.users)
    (hfresh : Fresh s.mfaRecoveryCodes codes) :
    ∃ e e', Memory.replaceMFARecoveryCodes s userID codes = .error e ∧
      Postgres.replaceMFARecoveryCodes s userID codes = .error e' ∧
      ((∀ c ∈ codes.head?, c.valid userID c.createdAt.now) → (e = .invalid ↔ e' = .invalid)) := by
  cases codes with
  | nil => exact ⟨.invalid, .invalid, rfl, rfl, fun _ => Iff.rfl⟩
  | cons first =>
    rw [Memory.replaceMFARecoveryCodes, Postgres.replaceMFARecoveryCodes]
    simp only [Postgres.insertCodes]
    by_cases hblank : Text.blank userID
    · rw [if_pos hblank, if_pos hblank]
      exact ⟨_, _, rfl, rfl, fun _ => Iff.rfl⟩
    have hnew := (hfresh.revokeOpen (some first.createdAt.now) userID).2 first (.head _)
    rw [if_neg hblank, if_neg hblank, if_pos huser, if_neg hnew, if_pos huser]
    by_cases hvalid : first.valid userID first.createdAt.now
    · rw [if_neg (not_not.2 hvalid)]
      exact ⟨_, _, rfl, rfl, fun _ => by simp⟩
    · rw [if_pos hvalid]
      exact ⟨_, _, rfl, rfl, fun hfirst => absurd (hfirst first rfl) hvalid⟩

theorem pick_eq_none_iff {α : Type*} {n : Nat} {l : List α} : pick n l = none ↔ l = [] := by
  rw [pick, List.getElem?_eq_none_iff]
  constructor
  · intro _
    by_contra hne
    exact absurd (Nat.mod_lt n (length_pos_iff.2 hne)) (by omega)
  · rintro rfl
    exact Nat.zero_le _

/-- A wrong code changes nothing if all active codes are locked. -/
theorem countFailure_eq_self {mark : Time → Option Time} {locked : Option Time → Bool}
    {now : Time} {maxAttempts : Int} {lockout : Nat}
    (h : ∀ c ∈ rows t, c.active userID now → locked c.lockedUntil) :
    countFailure mark locked userID now maxAttempts lockout t = t := by
  refine mapRows_eq_self fun id c hc => if_neg ?_
  rintro ⟨hactive, hlocked⟩
  exact absurd (h c (mem_rows_iff.2 ⟨id, hc⟩) hactive) (ne_true_of_eq_false hlocked)

/-- Either store counts a wrong code against the active codes that are not locked. -/
theorem step_record (b : Recovery.Backend) (s : Store) (userID : String) (clock : Clock)
    (maxAttempts : Int) (lockout order : Nat) :
    step b s (.recordMFARecoveryCodeFailure userID clock maxAttempts lockout order) =
      { s with mfaRecoveryCodes := countFailure some (Postgres.locked clock.now) userID clock.now
                 maxAttempts lockout s.mfaRecoveryCodes } := by
  cases b with
  | memory =>
    rw [step, call, Memory.recordMFARecoveryCodeFailure]
    by_cases hnone : (rows s.mfaRecoveryCodes).filter (·.active userID clock.now) = []
    · rw [if_pos hnone, countFailure_eq_self]
      intro c hc hactive
      exact absurd hactive (filter_eq_nil_iff.1 hnone c hc)
    have hfail : Code.fail nullForZero clock.now maxAttempts lockout =
        Code.fail some clock.now maxAttempts lockout := by
      funext c
      rw [Code.fail, Code.fail, nullForZero_add]
    rw [if_neg hnone, countFailure, countFailure, hfail, locked_agree]
  | postgres =>
    rw [step, call, Postgres.recordMFARecoveryCodeFailure]
    cases hpick : pick order _ with
    | none =>
      -- No row is written, so there is no active code that is not locked.
      rw [countFailure_eq_self]
      intro c hc hactive
      have hnone := filter_eq_nil_iff.1 (map_eq_nil_iff.1 (pick_eq_none_iff.1 hpick)) c hc
      simpa [hactive] using hnone
    | some => rfl

theorem call_replace_of_mem {codes : List NewCode} (huser : userID ∈ s.users) :
    call .memory s (.replaceMFARecoveryCodes userID codes) =
      call .postgres s (.replaceMFARecoveryCodes userID codes) := by
  rw [call, call]
  by_cases hfresh : Fresh s.mfaRecoveryCodes codes
  · simp only [replace_agree huser hfresh]
  · rw [if_pos hfresh, if_pos hfresh]

theorem call_revoke (b : Recovery.Backend) (s : Store) (userID : String) (clock : Clock) :
    call b s (.revokeMFARecoveryCodes userID clock) =
      .ok ({ s with mfaRecoveryCodes :=
               revokeOpen (some clock.now) userID s.mfaRecoveryCodes }, 0) := by
  cases b with
  | memory =>
    rw [← nullForZero_now clock]
    rfl
  | postgres => rfl

/-- The stores complete a reset alike, as none of their checks can be told from another. -/
theorem call_complete (s : Store) (userID id passwordHash : String) (clock : Clock) :
    call .memory s (.completeMFAPasswordReset userID id passwordHash clock) =
      call .postgres s (.completeMFAPasswordReset userID id passwordHash clock) := by
  refine congrArg (Except.map _) ?_
  rw [Memory.completeMFAPasswordReset, Postgres.completeMFAPasswordReset, Postgres.consume,
    nullForZero_now, locked_agree]
  by_cases hid : id = ""
  · simp only [hid, if_true]
    rfl
  simp only [hid, if_false]
  rcases s.mfaRecoveryCodes.lookup id with _ | c
  · cases s.users.lookup userID <;> simp [bind, Except.bind]
  by_cases husable : ¬ c.active userID clock.now ∨ Postgres.locked clock.now c.lockedUntil
  · simp only [if_pos husable]
    cases s.users.lookup userID <;> simp [bind, Except.bind]
  · simp only [if_neg husable]
    rfl

/-- The stores go through the same states. -/
theorem step_agree : step .memory = step .postgres := by
  funext s a
  cases a with
  | replaceMFARecoveryCodes userID codes =>
    by_cases huser : userID ∈ s.users
    · rw [step, step, call_replace_of_mem huser]
    · by_cases hfresh : Fresh s.mfaRecoveryCodes codes
      · obtain ⟨e, _, he, he', -⟩ := replace_unknown huser hfresh
        simp only [step, call, if_neg (not_not.2 hfresh), he, he', Except.map]
      · simp only [step, call, if_pos hfresh]
  | recordMFARecoveryCodeFailure =>
    rw [step_record, step_record]
  | revokeMFARecoveryCodes => rw [step, step, call_revoke, call_revoke]
  | completeMFAPasswordReset => rw [step, step, call_complete]
  | other => rfl

/-! ## What a call does to the codes -/

variable {b : Recovery.Backend}

/-- A new batch was stored: the open codes of the user are revoked. -/
theorem call_replace_ok {codes : List NewCode} {r : Store × Time}
    (h : call b s (.replaceMFARecoveryCodes userID codes) = .ok r) :
    Fresh s.mfaRecoveryCodes codes ∧ ∃ time, r.1.mfaRecoveryCodes =
      codes.foldl (fun t c => t.insert c.id c.code)
        (revokeOpen (some time) userID s.mfaRecoveryCodes) := by
  have hfresh : Fresh s.mfaRecoveryCodes codes :=
    not_not.1 (guard_ok.1 h).1
  refine ⟨hfresh, ?_⟩
  have hmemory : call .memory s (.replaceMFARecoveryCodes userID codes) = .ok r := by
    rcases b with _ | _
    · exact h
    by_cases huser : userID ∈ s.users
    · rw [call_replace_of_mem huser, h]
    · obtain ⟨e, _, -, he', -⟩ := replace_unknown huser hfresh
      simp [call, hfresh, he', Except.map] at h
  obtain ⟨_, hs', rfl⟩ := map_eq_ok.1 (guard_ok.1 hmemory).2
  cases codes with
  | nil => cases hs'
  | cons first =>
    simp only [Memory.replaceMFARecoveryCodes, guard_ok] at hs'
    obtain ⟨-, -, -, hs'⟩ := hs'
    cases hs'
    exact ⟨first.createdAt.now, by rw [nullForZero_now]⟩

variable {id : String}

/-- A reset that succeeds consumes its code, if it has one. -/
theorem call_complete_ok {passwordHash : String} {clock : Clock} {r : Store × Time}
    (h : call b s (.completeMFAPasswordReset userID id passwordHash clock) = .ok r) :
    if id = "" then r.1.mfaRecoveryCodes = s.mfaRecoveryCodes
    else ∃ c, s.mfaRecoveryCodes.lookup id = some c ∧ c.active userID clock.now ∧
      Postgres.locked clock.now c.lockedUntil = false ∧
      r.1.mfaRecoveryCodes =
        s.mfaRecoveryCodes.insert id { c with consumedAt := some clock.now } := by
  have hpostgres :
      call .postgres s (.completeMFAPasswordReset userID id passwordHash clock) = .ok r := by
    cases b with
    | memory => rw [← call_complete, h]
    | postgres => exact h
  obtain ⟨s', hs', rfl⟩ := map_eq_ok.1 hpostgres
  obtain ⟨codes, hcodes, hs'⟩ := bind_eq_ok.1 hs'
  -- Setting the password leaves the codes as they are.
  have hs'codes : s'.mfaRecoveryCodes = codes := by
    split at hs'
    · cases hs'
    obtain ⟨-, hs'⟩ := guard_ok.1 hs'
    cases hs'
    rfl
  rw [hs'codes]
  by_cases hid : id = ""
  · rw [Postgres.consume, if_pos hid] at hcodes
    rw [if_pos hid]
    cases hcodes
    rfl
  rw [Postgres.consume, if_neg hid] at hcodes
  rw [if_neg hid]
  split at hcodes
  · cases hcodes
  next c hc =>
  obtain ⟨husable, hcodes⟩ := guard_ok.1 hcodes
  rw [not_or, not_not] at husable
  cases hcodes
  exact ⟨c, hc, husable.1, eq_false_of_ne_true husable.2, rfl⟩

/-- What can happen to the codes: a batch is replaced, a wrong code is counted, the
    codes of a user are revoked, or an open code is consumed. -/
inductive Written (t : Table String Code) : Table String Code → Prop
  | same : Written t t
  | replaced {codes : List NewCode} {userID : String} {time : Time} (hfresh : Fresh t codes) :
    Written t (codes.foldl (fun t c => t.insert c.id c.code) (revokeOpen (some time) userID t))
  | failed {mark : Time → Option Time} {locked : Option Time → Bool} {userID : String}
    {now : Time} {maxAttempts : Int} {lockout : Nat} :
    Written t (countFailure mark locked userID now maxAttempts lockout t)
  | revoked {userID : String} {time : Time} : Written t (revokeOpen (some time) userID t)
  | consumed {id : String} {c : Code} {time : Time} (hc : t.lookup id = some c) :
    Written t (t.insert id { c with consumedAt := some time })

theorem step_written (b : Recovery.Backend) (s : Store) (a : Call) :
    Written s.mfaRecoveryCodes (step b s a).mfaRecoveryCodes := by
  cases a with
  | replaceMFARecoveryCodes =>
    rw [step]
    split
    · next s' time h =>
      obtain ⟨hfresh, time, hcodes⟩ := call_replace_ok h
      rw [hcodes]
      exact .replaced hfresh
    · exact .same
  | recordMFARecoveryCodeFailure =>
    rw [step_record]
    exact .failed
  | revokeMFARecoveryCodes =>
    rw [step, call_revoke]
    exact .revoked
  | completeMFAPasswordReset =>
    rw [step]
    split
    · next s' time h =>
      have hcodes := call_complete_ok h
      split_ifs at hcodes
      · rw [hcodes]
        exact .same
      · obtain ⟨c, hc, -, -, hcodes⟩ := hcodes
        rw [hcodes]
        exact .consumed hc
    · exact .same
  | other => exact .same

/-- The new codes leave the others. -/
theorem lookup_foldl_insert {codes : List NewCode} (h : ∀ c ∈ codes, c.id ≠ id) :
    (codes.foldl (fun t c => t.insert c.id c.code) t).lookup id = t.lookup id := by
  induction codes generalizing t with
  | nil => rfl
  | cons c _ ih =>
    rw [foldl_cons, ih fun c' hc' => h c' (.tail _ hc'),
      lookup_insert_ne (h c (.head _)).symm]

theorem Fresh.ne {codes : List NewCode} (h : Fresh t codes) (hid : id ∈ t) :
    ∀ c ∈ codes, c.id ≠ id := by
  rintro c hc rfl
  exact h.2 c hc hid

/-- A code whose user's codes are revoked is not open, and others are as before. -/
theorem lookup_revokeOpen {c : Code} (hc : t.lookup id = some c) (time : Time) (userID : String) :
    ∃ c', (revokeOpen (some time) userID t).lookup id = some c' ∧ c'.userID = c.userID ∧
      (c'.isOpen → c.isOpen ∧ c.userID ≠ userID) := by
  rw [revokeOpen, lookup_mapRows, hc]
  refine ⟨_, rfl, ?_⟩
  dsimp only
  split_ifs with hopen
  · exact ⟨rfl, fun hrevoked => by simp [Code.isOpen] at hrevoked⟩
  · exact ⟨rfl, fun hc' => ⟨hc', fun huser => hopen ⟨huser, hc'⟩⟩⟩

/-- A code stays one of its user, and is not opened again. -/
theorem Written.keeps {t' : Table String Code} (h : Written t t') {c : Code}
    (hc : t.lookup id = some c) :
    ∃ c', t'.lookup id = some c' ∧ c'.userID = c.userID ∧ (c'.isOpen → c.isOpen) := by
  cases h with
  | same => exact ⟨c, hc, rfl, fun hopen => hopen⟩
  | @replaced codes userID time hfresh =>
    obtain ⟨c', hc', huser, hopen⟩ := lookup_revokeOpen hc time userID
    rw [lookup_foldl_insert (hfresh.ne (mem_of_lookup hc))]
    exact ⟨c', hc', huser, fun h => (hopen h).1⟩
  | failed =>
    rw [countFailure, lookup_mapRows, hc]
    refine ⟨_, rfl, ?_⟩
    dsimp only
    split_ifs
    · exact ⟨rfl, fun hopen => hopen⟩
    · exact ⟨rfl, fun hopen => hopen⟩
  | @revoked userID time =>
    obtain ⟨c', hc', huser, hopen⟩ := lookup_revokeOpen hc time userID
    exact ⟨c', hc', huser, fun h => (hopen h).1⟩
  | @consumed id' c₀ time hc₀ =>
    by_cases hid : id = id'
    · subst hid
      cases hc₀.symm.trans hc
      exact ⟨_, lookup_insert _, rfl, fun hopen => by simp [Code.isOpen] at hopen⟩
    · exact ⟨c, by rw [lookup_insert_ne hid, hc], rfl, fun hopen => hopen⟩

/-! ## A code is used once -/

/-- The code was consumed, replaced or revoked. -/
def Store.Closed (s : Store) (id : String) : Prop :=
  ∃ c, s.mfaRecoveryCodes.lookup id = some c ∧ ¬ c.isOpen

theorem closed_step (b : Recovery.Backend) (s : Store) (a : Call) (id : String)
    (h : s.Closed id) : (step b s a).Closed id := by
  obtain ⟨c, hc, hclosed⟩ := h
  obtain ⟨c', hc', -, hopen⟩ := (step_written b s a).keeps hc
  exact ⟨c', hc', fun h => hclosed (hopen h)⟩

/-- A reset that a code authorises: the code was active and not locked, and is consumed. -/
theorem authorises_eq_some {a : Call} (h : authorises b s a = some id) :
    ∃ userID passwordHash clock c, a = .completeMFAPasswordReset userID id passwordHash clock ∧
      s.mfaRecoveryCodes.lookup id = some c ∧ c.active userID clock.now ∧
      Postgres.locked clock.now c.lockedUntil = false ∧
      (step b s a).mfaRecoveryCodes =
        s.mfaRecoveryCodes.insert id { c with consumedAt := some clock.now } := by
  cases a with
  | completeMFAPasswordReset userID _ passwordHash clock =>
    rw [authorises] at h
    split_ifs at h with hid
    split at h
    · next r hr =>
      cases h
      have hcodes := call_complete_ok hr
      rw [if_neg hid] at hcodes
      obtain ⟨c, hc, hactive, hlocked, hcodes⟩ := hcodes
      exact ⟨userID, passwordHash, clock, c, rfl, hc, hactive, hlocked, by rw [step, hr, hcodes]⟩
    · cases h
  | _ => cases h

theorem not_closed_of_authorises (b : Recovery.Backend) (s : Store) (a : Call) (id : String)
    (h : authorises b s a = some id) : ¬ s.Closed id := by
  obtain ⟨_, _, _, c, -, hc, hactive, -⟩ := authorises_eq_some h
  rintro ⟨_, hc', hclosed⟩
  cases hc.symm.trans hc'
  rw [Code.active, Bool.and_eq_true, Bool.and_eq_true] at hactive
  exact hclosed hactive.1.2

theorem closed_of_authorises (b : Recovery.Backend) (s : Store) (a : Call) (id : String)
    (h : authorises b s a = some id) : (step b s a).Closed id := by
  obtain ⟨_, _, clock, c, -, -, -, -, hcodes⟩ := authorises_eq_some h
  refine ⟨{ c with consumedAt := some clock.now }, ?_, by simp [Code.isOpen]⟩
  rw [hcodes, lookup_insert]

/-- The user whose codes a call replaces or revokes. -/
def Call.closes : Call → Option String
  | .replaceMFARecoveryCodes userID _ => some userID
  | .revokeMFARecoveryCodes userID _ => some userID
  | _ => none

/-- What the codes of a run may be used for: each of them authorises at most once
    (`once`); it does not after a call that replaced or revoked it (`closed`), nor
    when it has expired or is locked (`active`). -/
structure OneTime (b : Recovery.Backend) (s : Store) (as : List Call) : Prop where
  once : (authorisations b s as).Nodup
  closed : ∀ ⦃xs a ys userID id c r⦄, as = xs ++ a :: ys → a.closes = some userID →
    call b (exec (step b) s xs) a = .ok r →
    (exec (step b) s xs).mfaRecoveryCodes.lookup id = some c → c.userID = userID →
    id ∉ authorisations b (exec (step b) s (xs ++ [a])) ys
  active : ∀ ⦃xs a ys id⦄, as = xs ++ a :: ys → authorises b (exec (step b) s xs) a = some id →
    ∃ userID passwordHash clock c, a = .completeMFAPasswordReset userID id passwordHash clock ∧
      (exec (step b) s xs).mfaRecoveryCodes.lookup id = some c ∧ c.userID = userID ∧
      clock.now < c.expiresAt ∧ ∀ time ∈ c.lockedUntil, time ≤ clock.now

theorem oneTime_run (b : Recovery.Backend) (s : Store) (as : List Call) : OneTime b s as where
  once := collect_nodup (closed_step b) (not_closed_of_authorises b) (closed_of_authorises b)
    s as
  closed xs a ys userID id c r _ ha hr hc huser := by
    refine notMem_collect (closed_step b) (not_closed_of_authorises b) ys ?_
    rw [exec_append, exec_cons, exec_nil]
    -- The codes of the user that were there are closed.
    cases a with
    | replaceMFARecoveryCodes =>
      cases ha
      obtain ⟨hfresh, time, hcodes⟩ := call_replace_ok hr
      obtain ⟨c', hc', -, hopen⟩ := lookup_revokeOpen hc time userID
      refine ⟨c', ?_, fun h => (hopen h).2 huser⟩
      rw [step, hr, hcodes, lookup_foldl_insert (hfresh.ne (mem_of_lookup hc)), hc']
    | revokeMFARecoveryCodes _ clock =>
      cases ha
      obtain ⟨c', hc', -, hopen⟩ := lookup_revokeOpen hc clock.now userID
      refine ⟨c', ?_, fun h => (hopen h).2 huser⟩
      rw [step, call_revoke, hc']
    | _ => cases ha
  active xs a ys id _ h := by
    obtain ⟨userID, passwordHash, clock, c, ha, hc, hactive, hlocked, -⟩ := authorises_eq_some h
    simp only [Code.active, Bool.and_eq_true, beq_iff_eq, decide_eq_true_eq] at hactive
    refine ⟨userID, passwordHash, clock, c, ha, hc, hactive.1.1, hactive.2, fun time htime => ?_⟩
    rw [Postgres.locked, htime] at hlocked
    simpa using hlocked

/-! ## The stores answer alike -/

/-- The active codes of the user are not locked, and a wrong code brings all of
    them to the limit, or none of them: then none was locked before. -/
def Even (t : Table String Code) (userID : String) (now : Time) (maxAttempts : Int) : Prop :=
  let active := (rows t).filter (·.active userID now)
  (∀ c ∈ active, Postgres.locked now c.lockedUntil = false) ∧
  ((∀ c ∈ active, maxAttempts ≤ c.failedAttempts + 1) ∨
    ∀ c ∈ active, ¬ maxAttempts ≤ c.failedAttempts + 1 ∧ c.lockedUntil = none)

instance (t : Table String Code) (userID : String) (now : Time) (maxAttempts : Int) :
    Decidable (Even t userID now maxAttempts) :=
  inferInstanceAs (Decidable (_ ∧ (_ ∨ _)))

/-- Codes are stored for a user there is (or the first of them is valid, so that
    the database finds the user missing), and a wrong code is counted evenly. -/
def Clear (s : Store) : Call → Prop
  | .replaceMFARecoveryCodes userID codes =>
    userID ∈ s.users ∨ ∀ c ∈ codes.head?, c.valid userID c.createdAt.now
  | .recordMFARecoveryCodeFailure userID clock maxAttempts _ _ =>
    Even s.mfaRecoveryCodes userID clock.now maxAttempts
  | _ => True

instance (s : Store) : (a : Call) → Decidable (Clear s a)
  | .replaceMFARecoveryCodes _ _ => inferInstanceAs (Decidable (_ ∨ _))
  | .recordMFARecoveryCodeFailure _ _ _ _ _ => inferInstanceAs (Decidable (Even _ _ _ _))
  | .revokeMFARecoveryCodes _ _ => .isTrue trivial
  | .completeMFAPasswordReset _ _ _ _ => .isTrue trivial
  | .other _ _ => .isTrue trivial

/-- An element of a list whose elements are all one. -/
theorem pick_map_const {α β : Type*} {n : Nat} {l : List α} {y : β} (hne : l ≠ []) :
    pick n (l.map fun _ => y) = some y := by
  cases hpick : pick n (l.map fun _ => y) with
  | none => exact absurd (map_eq_nil_iff.1 (pick_eq_none_iff.1 hpick)) hne
  | some =>
    obtain ⟨-, -, rfl⟩ := mem_map.1 (mem_of_getElem? hpick)
    rfl

/-- Where a wrong code is counted evenly, the stores answer with the same lock. -/
theorem answer_record {clock : Clock} {maxAttempts : Int} {lockout order : Nat}
    (h : Even s.mfaRecoveryCodes userID clock.now maxAttempts) :
    Answer.of (Memory.recordMFARecoveryCodeFailure s userID clock.now maxAttempts lockout order) =
    Answer.of (Postgres.recordMFARecoveryCodeFailure s userID clock.now maxAttempts lockout
      order) := by
  obtain ⟨hunlocked, hlimit⟩ := h
  rw [Memory.recordMFARecoveryCodeFailure, Postgres.recordMFARecoveryCodeFailure]
  simp only [locked_agree, nullForZero_add]
  -- As none of the active codes is locked, all of them are counted.
  have hall : (rows s.mfaRecoveryCodes).filter (fun c =>
      c.active userID clock.now && !Postgres.locked clock.now c.lockedUntil) =
      (rows s.mfaRecoveryCodes).filter (·.active userID clock.now) := by
    refine filter_congr fun c hc => ?_
    cases hactive : c.active userID clock.now with
    | false => rfl
    | true => rw [hunlocked c (mem_filter.2 ⟨hc, hactive⟩), Bool.not_false, Bool.and_true]
  rw [hall]
  generalize (rows s.mfaRecoveryCodes).filter (·.active userID clock.now) = codes at *
  by_cases hnone : codes = []
  · rw [hnone]
    rfl
  rw [if_neg hnone]
  rcases hlimit with hlimit | hlimit
  · -- All of them are locked now, for the same time.
    have hmemory : (codes.filterMap fun c =>
        if Postgres.locked clock.now c.lockedUntil then c.lockedUntil
        else if maxAttempts ≤ c.failedAttempts + 1 then some (clock.now + ↑lockout)
        else none) = codes.map fun _ => clock.now + lockout := by
      rw [← filterMap_eq_map]
      refine filterMap_congr fun c hc => ?_
      rw [hunlocked c hc, if_neg Bool.false_ne_true, if_pos (hlimit c hc), Function.comp_apply]
    have hpostgres : (codes.map fun c =>
        (c.fail some clock.now maxAttempts lockout).lockedUntil) =
          codes.map fun _ => some (clock.now + ↑lockout) :=
      map_congr_left fun c hc => by rw [Code.fail, if_pos (hlimit c hc)]
    simp only [hmemory, hpostgres, pick_map_const hnone, Option.getD_some, Answer.of]
  · -- None of them is.
    have hmemory : (codes.filterMap fun c =>
        if Postgres.locked clock.now c.lockedUntil then c.lockedUntil
        else if maxAttempts ≤ c.failedAttempts + 1 then some (clock.now + ↑lockout)
        else none) = [] := by
      refine filterMap_eq_nil_iff.2 fun c hc => ?_
      rw [hunlocked c hc, if_neg Bool.false_ne_true, if_neg (hlimit c hc).1]
    have hpostgres : (codes.map fun c =>
        (c.fail some clock.now maxAttempts lockout).lockedUntil) = codes.map fun _ => none :=
      map_congr_left fun c hc => by rw [Code.fail, if_neg (hlimit c hc).1, (hlimit c hc).2]
    simp only [hmemory, hpostgres, pick_eq_none_iff.2, pick_map_const hnone, Option.getD_none,
      Answer.of]

/-- The stores answer a clear call alike. -/
theorem answer_agree {a : Call} (h : Clear s a) :
    Answer.of (call .memory s a) = Answer.of (call .postgres s a) := by
  cases a with
  | replaceMFARecoveryCodes userID codes =>
    by_cases huser : userID ∈ s.users
    · rw [call_replace_of_mem huser]
    by_cases hfresh : Fresh s.mfaRecoveryCodes codes
    · obtain ⟨e, e', he, he', hiff⟩ := replace_unknown huser hfresh
      have hkind := hiff (h.resolve_left huser)
      simp only [call, if_neg (not_not.2 hfresh), he, he', Except.map]
      cases e <;> cases e' <;> first | rfl | simp at hkind
    · simp only [call, if_pos hfresh]
  | recordMFARecoveryCodeFailure => exact answer_record h
  | revokeMFARecoveryCodes => rw [call_revoke, call_revoke]
  | completeMFAPasswordReset => rw [call_complete]
  | other => rfl

theorem answers_agree {as : List Call} (h : Run.Guarded (step .memory) Clear s as) :
    answers .memory s as = answers .postgres s as := by
  induction as generalizing s with
  | nil => simp only [answers, collect]
  | cons a _ ih =>
    have htail := ih h.2
    simp only [answers, collect, answer_agree h.1] at htail ⊢
    rw [htail, step_agree]

/-- Along every run of calls that are clear, the codes are used as they may be in
    either store, and the stores answer alike. -/
theorem codes_run {s : Store} {as : List Call} (h : Run.Guarded (step .memory) Clear s as) :
    OneTime .memory s as ∧ OneTime .postgres s as ∧ answers .memory s as = answers .postgres s as :=
  ⟨oneTime_run .memory s as, oneTime_run .postgres s as, answers_agree h⟩

/-! ## Where the answers differ -/

namespace Sample

/-- A batch of two codes. -/
def codes : List NewCode :=
  [ ⟨"c₁", "u", "b", "hash₁", 100, ⟨1, by decide⟩⟩,
    ⟨"c₂", "u", "b", "hash₂", 100, ⟨1, by decide⟩⟩]

/-- The codes are issued, one is used, and two wrong codes are counted, the second
    of which locks the other code until the time 33. -/
def counted : List Call :=
  [ .replaceMFARecoveryCodes "u" codes,
    .completeMFAPasswordReset "u" "c₁" "second" ⟨2, by decide⟩,
    .recordMFARecoveryCodeFailure "u" ⟨3, by decide⟩ 2 30 0,
    .recordMFARecoveryCodeFailure "u" ⟨3, by decide⟩ 2 30 0]

def store : Store := .init (AList.insert "u" Recovery.Sample.user ∅) ∅

theorem codes_run_sample : Run.Guarded (step .memory) Clear store counted ∧
    answers .memory store counted = [.success, .success, .success, .lockedUntil 33] ∧
    authorisations .memory store counted = ["c₁"] ∧
    OneTime .memory store counted ∧ OneTime .postgres store counted ∧
      answers .memory store counted = answers .postgres store counted := by
  have hclear : Run.Guarded (step .memory) Clear store counted := by decide +kernel
  exact ⟨hclear, by decide +kernel, by decide +kernel, codes_run hclear⟩

/-- One more wrong code is counted while the code is locked: the store in memory
    answers with the lock, and the database that there is no code. -/
theorem locked_or_invalid :
    let calls := counted ++ [.recordMFARecoveryCodeFailure "u" ⟨4, by decide⟩ 2 30 0]
    exec (step .memory) store calls = exec (step .postgres) store calls ∧
    answers .memory store calls = [.success, .success, .success, .lockedUntil 33, .lockedUntil 33] ∧
    answers .postgres store calls = [.success, .success, .success, .lockedUntil 33, .invalid] := by
  refine ⟨by rw [step_agree], ?_, ?_⟩ <;> decide +kernel

end Sample

end Accounts.RecoveryCodes

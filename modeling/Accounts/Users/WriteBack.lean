import Accounts.Base.Run
import Accounts.Users.Store

/-!
# Whole users written back

The handlers and sweeps that read a user, change one aspect of it and write it
back with `updateUser` (`api/account_lifecycle.go`, `api/subscription_validity.go`,
`api/entitlements.go`): they record its activity, archive it, or move it to the
Free plan. Each holds a *copy* of the user between its read and its write, and
may go on to write the copy again. Between any two of its calls, others may take
any number of steps (`System`).

A write-back writes every column, so it *reverts* (`Reverts`) what a password
recovery, a reset of the second factor or a deactivation has written, when the
copy was read before: `staleCopy_reverts`. This is the only way: when no copy
with the earlier value is held at the moment of a recovery, reset or
deactivation (`NoOldCopy`), none is ever written back
(`not_reverts_of_noOldCopy`).
-/

namespace Accounts.Users

open Table Text AList Option Env

/-! ## The handlers -/

section

variable [Unicode]

section

variable (env : Env) (s : Store) (user : User)

/-- Writing a changed copy back: the store, and the copy as it is left. -/
def writeBack : Store × User :=
  match updateUser env s user with
  | (user, .ok s') => (s', user)
  | (user, .error _) => (s, user)

/-- Recording that a user is active, at most once a day. -/
def touchUserActivity : Store × User :=
  if ¬ user.active then (s, user)
  else if ∃ t ∈ user.lastActiveAt, env.now - t < 24 * Time.hour then (s, user)
  else writeBack env s { user with lastActiveAt := some env.now }

end

/-- The access of a user to networks, as far as the archival reads it. -/
structure NetworkAccess where
  mode : String
  allowed : Bool

def freeAccountArchiveAfter : Int := 100 * 24 * Time.hour

/-- Archiving a user of the Free plan who was not active for a long time. What
    the user has access to is read from other tables. -/
def archiveInactiveFreeUser (env : Env) (access : Except String NetworkAccess) (s : Store)
    (user : User) : Store × User :=
  if ¬ user.active ∨ monthlyQuotaGroup user ≠ monthlyFreeQuotaLimitGroup then (s, user)
  else if (userLastActivity user).isZero ∨
      env.now - userLastActivity user < freeAccountArchiveAfter then (s, user)
  else match access with
    | .error _ => (s, user)
    | .ok access =>
      if access.mode = "dedicated" ∧ access.allowed then (s, user)
      else writeBack env s { user with active := false, archivedAt := some env.now }

/-- The write of `reconcileSubscriptionAccessAt`; whether the downgrade is due
    is read from other tables. -/
def reconcileSubscriptionAccess (env : Env) (due : Bool) (s : Store) (user : User) : Store × User :=
  if due ∧ monthlyQuotaGroup user ≠ monthlyFreeQuotaLimitGroup then
    writeBack env s { user with
      groups := freePlanGroups
        [monthlyFreeQuotaLimitGroup, monthlyPlusQuotaLimitGroup, monthlyUnlimitedBetaQuotaGroup,
          "segment:subscribed", "segment:monthly", "segment:yearly"] user.groups }
  else (s, user)

/-- The write of `downgradeToFreePlan` to the user it has read. -/
def downgradeToFreePlan (env : Env) (s : Store) (user : User) : Store × User :=
  writeBack env s { user with
    groups := freePlanGroups
      [monthlyFreeQuotaLimitGroup, monthlyPlusQuotaLimitGroup, monthlyUnlimitedBetaQuotaGroup,
        subscriptionListedGroup, "segment:subscribed", "segment:monthly", "segment:yearly",
        "segment:subscription:monthly", "segment:subscription:yearly"] user.groups }

/-! ## The system -/

/-- The tables, and the copies of users that handlers and sweeps hold. -/
structure System where
  store : Store
  copies : Table Nat User

/-- What happens next. -/
inductive Action
  /-- A handler reads a user. -/
  | read (w : Nat) (id : String)
  /-- A handler changes its copy, and writes it back. -/
  | touchUserActivity (w : Nat) (env : Env)
  | archiveInactiveFreeUser (w : Nat) (env : Env) (access : Except String NetworkAccess)
  | reconcileSubscriptionAccess (w : Nat) (env : Env) (due : Bool)
  | downgradeToFreePlan (w : Nat) (env : Env)
  /-- A handler returns, or stops. -/
  | done (w : Nat)
  /-- A password is recovered. -/
  | completePasswordRecovery (env : Env) (challengeID passwordHash : String) (now : Time)
  /-- The reset of a second factor is decided. -/
  | decideMFAResetRequest (env : Env) (id actorID decision reason : String) (now : Time)
  /-- An administrator activates or deactivates a user. -/
  | setUserActiveWithAudit (env : Env) (id : String) (active : Bool) (actor : String)
  /-- Any other part of the program changes the tables. -/
  | other (store : Store)

/-- The actions that write a copy back. -/
def Action.isWriteBack : Action → Bool
  | .touchUserActivity .. | .archiveInactiveFreeUser .. | .reconcileSubscriptionAccess ..
  | .downgradeToFreePlan .. => true
  | _ => false

namespace System

/-- A handler goes on with its copy. -/
def withCopy (sys : System) (w : Nat) (f : Store → User → Store × User) : System :=
  match sys.copies.lookup w with
  | none => sys
  | some user =>
    let (store, user) := f sys.store user
    { store := store, copies := sys.copies.insert w user }

/-- A call of the store: nothing changes when it fails. -/
def call (sys : System) (result : Except UserError Store) : System :=
  match result with
  | .ok store => { sys with store := store }
  | .error _ => sys

/-- A step of the system. -/
def step [Sha256] (sys : System) : Action → System
  | .read w id => match getUserByID sys.store id with
    | .ok user => { sys with copies := sys.copies.insert w user }
    | .error _ => sys
  | .touchUserActivity w env => sys.withCopy w (touchUserActivity env)
  | .archiveInactiveFreeUser w env access =>
    sys.withCopy w (archiveInactiveFreeUser env access)
  | .reconcileSubscriptionAccess w env due =>
    sys.withCopy w (reconcileSubscriptionAccess env due)
  | .downgradeToFreePlan w env => sys.withCopy w (downgradeToFreePlan env)
  | .done w => { sys with copies := sys.copies.erase w }
  | .completePasswordRecovery env challengeID passwordHash now =>
    sys.call (completePasswordRecovery env sys.store challengeID passwordHash now)
  | .decideMFAResetRequest env id actorID decision reason now =>
    sys.call (decideMFAResetRequest env sys.store id actorID decision reason now)
  | .setUserActiveWithAudit env id active actor =>
    sys.call (setUserActiveWithAudit env sys.store id active actor)
  | .other store => { sys with store := store }

end System

end

/-! ## What must not be reverted -/

/-- What recoveries, resets and deactivations write. -/
inductive Field
  | password
  | factor
  | active
  deriving DecidableEq

/-- A value of a field. -/
inductive Value
  | password (hash : String)
  | factor (secret : String) (enabled : Bool) (issuedAt confirmedAt : Time)
  | active (active : Bool)
  deriving DecidableEq

/-- The value of a field in a row, as it is read. -/
def UserRow.value (row : UserRow) : Field → Value
  | .password => .password row.password
  | .factor => .factor (trimSpace (row.mfaTOTPSecret.getD "")) row.mfaEnabled
      (row.mfaSecretIssuedAt.getD 0) (row.mfaConfirmedAt.getD 0)
  | .active => .active row.active

/-- The value of a field in the copy of a user. -/
def copyValue (user : User) : Field → Value
  | .password => .password user.passwordHash
  | .factor => .factor (trimSpace user.mfaTOTPSecret) user.mfaEnabled user.mfaSecretIssuedAt
      user.mfaConfirmedAt
  | .active => .active user.active

/-- The value of a field of a user in the table. -/
def System.value (sys : System) (field : Field) (id : String) : Option Value :=
  (sys.store.users.lookup id).map (UserRow.value · field)

/-- What an action recovers, resets or deactivates: the field, and the user. -/
def Action.target (s : Store) : Action → Option (Field × String)
  | .completePasswordRecovery _ challengeID _ _ =>
    (s.passwordRecovery.lookup challengeID).map fun challenge => (.password, challenge.userID)
  | .decideMFAResetRequest _ id _ decision _ _ =>
    if decision = "approved" then (s.mfaResetRequests.lookup id).map fun r => (.factor, r.userID)
    else none
  | .setUserActiveWithAudit _ id active _ => if active then none else some (.active, id)
  | _ => none

section

variable [Unicode] [Sha256]

/-- A recovery, reset or deactivation `a` is reverted by the write-back `b`: what
    it wrote was still there, and is replaced by the value it had before. -/
def Reverts (sys : System) (a : Action) (between : List Action) (b : Action) : Prop :=
  b.isWriteBack ∧ ∃ field id old new, a.target sys.store = some (field, id) ∧
    sys.value field id = some old ∧ old ≠ new ∧
    Run.Always System.step (fun sys => sys.value field id = some new) (sys.step a) between ∧
    (Run.exec System.step (sys.step a) (between ++ [b])).value field id = some old

/-- A recovery, reset or deactivation happens when nobody holds a copy of the
    user with the value it replaces. -/
def NoOldCopy (sys : System) (a : Action) : Prop :=
  ∀ t ∈ a.target sys.store, (sys.step a).value t.1 t.2 = sys.value t.1 t.2 ∨
    ∀ user ∈ rows sys.copies, user.id = t.2 → sys.value t.1 t.2 ≠ some (copyValue user t.1)

instance (sys : System) (a : Action) : Decidable (NoOldCopy sys a) :=
  inferInstanceAs (Decidable (∀ t ∈ a.target sys.store, _ ∨ _))

/-! ## What the handlers leave in their copies -/

section

omit [Sha256]

@[simp] theorem copyValue_normalizeUserRoleFields (user : User) (field : Field) :
    copyValue (normalizeUserRoleFields user) field = copyValue user field := by
  cases field <;> simp only [normalizeUserRoleFields, copyValue]

@[simp] theorem copyValue_preparedUser (env : Env) (user : User) (field : Field) :
    copyValue (preparedUser env user) field = copyValue user field := by
  rw [preparedUser, copyValue_normalizeUserRoleFields]
  cases field <;> simp only [copyValue]

@[simp] theorem id_preparedUser (env : Env) (user : User) : (preparedUser env user).id = user.id := by
  simp only [preparedUser, normalizeUserRoleFields]

/-- What is read is what is stored. -/
@[simp] theorem copyValue_scanUser (id : String) (row : UserRow) (field : Field) :
    copyValue (scanUser id row) field = row.value field := by
  rw [scanUser, copyValue_normalizeUserRoleFields]
  cases field <;> simp only [copyValue, UserRow.value, trimSpace_idem]

/-- What is written is what the copy has. -/
@[simp] theorem value_writtenRow (env : Env) (user : User) (row : UserRow) (field : Field) :
    (writtenRow env user row).value field = copyValue user field := by
  have hsecret : trimSpace ((nullForEmpty user.mfaTOTPSecret).getD "") =
      trimSpace user.mfaTOTPSecret := by
    unfold nullForEmpty
    split_ifs with h
    · rw [h]
      rfl
    · rfl
  have htime : ∀ t : Time, (nullForZero t).getD 0 = t := by
    intro t
    unfold nullForZero
    split_ifs with h
    · exact (eq_of_beq h).symm
    · rfl
  cases field <;> simp only [writtenRow, UserRow.value, copyValue, hsecret, htime]

end

/-- What a handler does with its copy: it keeps the values, but may make the user
    inactive, and stores what it has when it writes. -/
structure Handled (s : Store) (user : User) (r : Store × User) : Prop where
  id_eq : r.2.id = user.id
  value : ∀ field, copyValue r.2 field = copyValue user field ∨ copyValue r.2 field = .active false
  stored : r.1 = s ∨ ∃ row, r.1 = { s with users := s.users.insert user.id row } ∧
    ∀ field, row.value field = copyValue r.2 field

namespace Handled

variable {s : Store} {user : User}

omit [Unicode] [Sha256] in
theorem unchanged : Handled s user (s, user) := ⟨rfl, fun _ => .inl rfl, .inl rfl⟩

omit [Sha256]

/-- Writing a copy that was changed elsewhere, or made inactive. -/
theorem writeBack (env : Env) {user' : User} (hid : user'.id = user.id)
    (hvalue : ∀ field, copyValue user' field = copyValue user field ∨
      copyValue user' field = .active false) : Handled s user (writeBack env s user') := by
  -- A call that fails leaves a copy that is prepared, at most.
  have hprepared : ∀ field, copyValue (preparedUser env user') field = copyValue user field ∨
      copyValue (preparedUser env user') field = .active false := by
    intro field
    rw [copyValue_preparedUser]
    exact hvalue field
  have hfailed : Handled s user (s, preparedUser env user') :=
    ⟨(id_preparedUser env user').trans hid, hprepared, .inl rfl⟩
  simp only [Users.writeBack, updateUser]
  split_ifs with hblank
  · exact ⟨hid, hvalue, .inl rfl⟩
  rcases hrow : s.users.lookup (preparedUser env user').id with _ | row
  · exact hfailed
  have hsaved : ∀ field, copyValue (savedUser (writtenRow env (preparedUser env user') row)
      (preparedUser env user')) field = copyValue (preparedUser env user') field := by
    intro field
    cases field <;> simp only [savedUser, copyValue]
  dsimp only
  split_ifs with hname hemail
  · exact hfailed
  · exact hfailed
  refine ⟨hfailed.id_eq, fun field => ?_, .inr ⟨writtenRow env (preparedUser env user') row, ?_,
    fun field => ?_⟩⟩
  · rw [hsaved]
    exact hprepared field
  · rw [id_preparedUser, hid]
  · rw [value_writtenRow, hsaved]

variable (env : Env)

include env

theorem touchUserActivity : Handled s user (touchUserActivity env s user) := by
  unfold Users.touchUserActivity
  split_ifs
  · exact unchanged
  · exact .writeBack env rfl fun field => .inl (by cases field <;> rfl)
  · exact unchanged

theorem archiveInactiveFreeUser (access : Except String NetworkAccess) :
    Handled s user (archiveInactiveFreeUser env access s user) := by
  unfold Users.archiveInactiveFreeUser
  split_ifs
  · exact unchanged
  · exact unchanged
  rcases access with e | access
  · exact unchanged
  dsimp only
  split_ifs
  · exact unchanged
  · refine .writeBack env rfl fun field => ?_
    cases field with
    | password | factor => exact .inl rfl
    | active => exact .inr rfl

theorem downgradeToFreePlan : Handled s user (downgradeToFreePlan env s user) :=
  .writeBack env rfl fun field => .inl (by cases field <;> rfl)

theorem reconcileSubscriptionAccess (due : Bool) :
    Handled s user (reconcileSubscriptionAccess env due s user) := by
  unfold Users.reconcileSubscriptionAccess
  split_ifs
  · exact .writeBack env rfl fun field => .inl (by cases field <;> rfl)
  · exact unchanged

end Handled

/-! ## No copy with the earlier value -/

omit [Unicode] [Sha256] in
/-- A call of the store leaves the copies alone. -/
@[simp] theorem copies_call (sys : System) (result : Except UserError Store) :
    (sys.call result).copies = sys.copies := by
  cases result <;> rfl

/-- No copy of the user has the value in the field. -/
def System.Without (sys : System) (field : Field) (id : String) (old : Value) : Prop :=
  ∀ w user, sys.copies.lookup w = some user → user.id = id → copyValue user field ≠ old

namespace System.Without

variable {sys : System} {field : Field} {id : String} {old new : Value}

omit [Unicode] [Sha256] in
/-- A handler goes on with its copy. -/
theorem withCopy (h : sys.Without field id old) (hactive : old ≠ .active false) {w : Nat}
    {f : Store → User → Store × User} (hf : ∀ s user, Handled s user (f s user)) :
    (sys.withCopy w f).Without field id old := by
  unfold System.withCopy
  rcases hw : sys.copies.lookup w with _ | user
  · exact h
  intro v user' hv hid
  rcases lookup_insert_iff.1 hv with ⟨-, rfl⟩ | ⟨-, hold⟩
  · have hhandled := hf sys.store user
    rcases hhandled.value field with hvalue | hvalue
    · rw [hvalue]
      exact h w user hw (hhandled.id_eq.symm.trans hid)
    · rw [hvalue]
      exact hactive.symm
  · exact h v user' hold hid

variable (h : sys.Without field id old) (hactive : old ≠ .active false)
  (hvalue : sys.value field id = some new) (hne : old ≠ new)
include h hactive hvalue hne

/-- While the value is another one, no copy with the old value is made. -/
theorem step (a : Action) : (sys.step a).Without field id old := by
  cases a with
  | read w id' =>
    rcases hrow : sys.store.users.lookup id' with _ | row
    · simpa only [System.step, getUserByID, hrow] using h
    simp only [System.step, getUserByID, hrow]
    intro v user hv hid
    rcases lookup_insert_iff.1 hv with ⟨-, rfl⟩ | ⟨-, hold⟩
    · have hid' : id' = id := by simpa [scanUser, normalizeUserRoleFields] using hid
      subst hid'
      rw [System.value, hrow] at hvalue
      rw [copyValue_scanUser]
      exact fun he => hne (he.symm.trans (some.inj hvalue))
    · exact h v user hold hid
  | touchUserActivity w env =>
    exact h.withCopy hactive (f := touchUserActivity env) fun _ _ => .touchUserActivity env
  | archiveInactiveFreeUser w env access =>
    exact h.withCopy hactive (f := archiveInactiveFreeUser env access)
      fun _ _ => .archiveInactiveFreeUser env access
  | reconcileSubscriptionAccess w env due =>
    exact h.withCopy hactive (f := reconcileSubscriptionAccess env due)
      fun _ _ => .reconcileSubscriptionAccess env due
  | downgradeToFreePlan w env =>
    exact h.withCopy hactive (f := downgradeToFreePlan env) fun _ _ => .downgradeToFreePlan env
  | done w =>
    intro v user hv hid
    by_cases he : v = w
    · subst he
      simp [System.step] at hv
    · exact h v user ((lookup_erase_ne he).symm.trans hv) hid
  | completePasswordRecovery | decideMFAResetRequest | setUserActiveWithAudit =>
    intro v user hv
    exact h v user ((congrArg (lookup v) (copies_call sys _)).symm.trans hv)
  | other => exact h

omit [Unicode] [Sha256] in
/-- A handler that finds another value does not store the old one. -/
theorem value_withCopy_ne {w : Nat} {f : Store → User → Store × User}
    (hf : ∀ s user, Handled s user (f s user)) : (sys.withCopy w f).value field id ≠ some old := by
  have hkept : sys.value field id ≠ some old := by
    rw [hvalue]
    exact fun he => hne (some.inj he).symm
  unfold System.withCopy
  rcases hw : sys.copies.lookup w with _ | user
  · exact hkept
  have hhandled := hf sys.store user
  rcases hhandled.stored with hsame | ⟨_, hrow, hstored⟩
  · simpa only [System.value, hsame] using hkept
  by_cases hid : user.id = id
  · subst hid
    simp only [System.value, hrow, lookup_insert, map_some, hstored, ne_eq,
      some.injEq]
    rcases hhandled.value field with hsame | hinactive
    · rw [hsame]
      exact h w user hw rfl
    · rw [hinactive]
      exact hactive.symm
  · simpa only [System.value, hrow, lookup_insert_ne (Ne.symm hid)] using hkept

/-- A write-back that finds another value does not store the old one. -/
theorem value_ne_of_isWriteBack {b : Action} (hb : b.isWriteBack = true) :
    (sys.step b).value field id ≠ some old := by
  cases b with
  | touchUserActivity w env =>
    exact h.value_withCopy_ne hactive hvalue hne (f := touchUserActivity env)
      fun _ _ => .touchUserActivity env
  | archiveInactiveFreeUser w env access =>
    exact h.value_withCopy_ne hactive hvalue hne (f := archiveInactiveFreeUser env access)
      fun _ _ => .archiveInactiveFreeUser env access
  | reconcileSubscriptionAccess w env due =>
    exact h.value_withCopy_ne hactive hvalue hne (f := reconcileSubscriptionAccess env due)
      fun _ _ => .reconcileSubscriptionAccess env due
  | downgradeToFreePlan w env =>
    exact h.value_withCopy_ne hactive hvalue hne (f := downgradeToFreePlan env)
      fun _ _ => .downgradeToFreePlan env
  | _ => cases hb

end System.Without

/-- What a recovery, reset or deactivation replaces is not the inactive flag. -/
theorem old_ne_inactive {sys : System} {a : Action} {field : Field} {id : String}
    {old new : Value} (ha : a.target sys.store = some (field, id))
    (hold : sys.value field id = some old) (hnew : (sys.step a).value field id = some new)
    (hne : old ≠ new) : old ≠ .active false := by
  rintro rfl
  obtain ⟨row, hrow, hrowvalue⟩ := map_eq_some_iff.1 hold
  -- Only a deactivation is about the flag, and it leaves an inactive user alone.
  cases field with
  | password | factor => cases hrowvalue
  | active =>
    have hinactive : row.active = false := by injection hrowvalue
    cases a with
    | completePasswordRecovery =>
      obtain ⟨_, -, he⟩ := map_eq_some_iff.1 ha
      cases he
    | decideMFAResetRequest =>
      simp only [Action.target] at ha
      split_ifs at ha
      obtain ⟨_, -, he⟩ := map_eq_some_iff.1 ha
      cases he
    | setUserActiveWithAudit _ _ active actor =>
      cases active with
      | true => cases ha
      | false =>
        cases ha
        refine hne (some.inj (hold.symm.trans (Eq.trans ?_ hnew)))
        by_cases hactor : trimSpace actor = ""
        · simp [System.step, System.call, setUserActiveWithAudit, hactor]
        · simp [System.step, System.call, setUserActiveWithAudit, hactor, hrow, hinactive]
    | _ => cases ha

/-- When no recovery, reset or deactivation of a run happens while somebody holds a copy with the
    value it replaces, none of them is reverted by a write-back. -/
theorem not_reverts_of_noOldCopy {sys : System} {as : List Action}
    (h : Run.Guarded System.step NoOldCopy sys as) {before between after : List Action}
    {a b : Action} (hsplit : as = before ++ a :: (between ++ b :: after)) :
    ¬ Reverts (Run.exec System.step sys before) a between b := by
  subst hsplit
  have hguard := (Run.Guarded.append_iff.1 h).2.1
  generalize Run.exec System.step sys before = sys at hguard
  rintro ⟨hb, field, id, old, _, ha, hold, hne, halways, hreverted⟩
  have hactive := old_ne_inactive ha hold halways.first hne
  have hwithout : (sys.step a).Without field id old := by
    rcases hguard _ ha with hsame | hnone
    · exact absurd (some.inj (hold.symm.trans (hsame.symm.trans halways.first))) hne
    -- A recovery, reset or deactivation leaves the copies alone.
    have hcopies : (sys.step a).copies = sys.copies := by
      cases a with
      | completePasswordRecovery | decideMFAResetRequest | setUserActiveWithAudit =>
        exact copies_call sys _
      | _ => cases ha
    intro w user hw hid he
    rw [hcopies] at hw
    exact hnone user (mem_rows_iff.2 ⟨w, hw⟩) hid (he ▸ hold)
  have hlast : (Run.exec System.step (sys.step a) between).Without field id old :=
    halways.exec_induction (Q := fun sys => sys.Without field id old)
      (fun sys a hvalue hsys => hsys.step hactive hvalue hne a) hwithout
  rw [Run.exec_append] at hreverted
  exact hlast.value_ne_of_isWriteBack hactive halways.last hne hb hreverted

end

section

local instance : Unicode := Unicode.ascii
local instance : Sha256 := ⟨id⟩

/-- A user with a second factor and an administrator, with a challenge and a
    request for the user. -/
def sampleSystem : System where
  store :=
    { users := (∅ : Table String UserRow)
        |>.insert "root" ⟨"root", some "root@example.com", some 1, "root-hash", some "ROOT", true,
          some 1, some 1, 1, 1, 0, 0, "root", [], [], true, "p0", none, none, none, some 1, none⟩
        |>.insert "ann" ⟨"ann", some "ann@example.com", some 1, "old-hash", some "SECRET", true,
          some 1, some 1, 1, 1, 0, 20, "user", [], [], true, "p1", none, none, none, none, none⟩
      passwordRecovery := (∅ : Table String PasswordRecoveryChallenge).insert "challenge"
        ⟨"ann", 100, none, none, none⟩
      mfaResetRequests := (∅ : Table String MFAResetRequest).insert "request"
        ⟨"ann", "ann@example.com", "SECRET", .pendingReview, "", 100⟩ }
  copies := ∅

/-- A copy that is read after a recovery, when the one read before is no longer held. -/
theorem freshCopy_not_reverts : ¬ Reverts (Run.exec System.step sampleSystem
        [.read 0 "ann", .touchUserActivity 0 (sample 10), .done 0])
      (.completePasswordRecovery (sample 20) "challenge" "new-hash" 20) [.read 1 "ann"]
      (.touchUserActivity 1 (sample (10 + Time.day))) := by
  have hguarded : Run.Guarded System.step NoOldCopy sampleSystem
      [.read 0 "ann", .touchUserActivity 0 (sample 10), .done 0,
        .completePasswordRecovery (sample 20) "challenge" "new-hash" 20, .read 1 "ann",
        .touchUserActivity 1 (sample (10 + Time.day))] := by decide +kernel
  exact not_reverts_of_noOldCopy hguarded rfl

/-- A handler has read the user when the password is recovered, the factor is
    reset, or the user is deactivated; then it records the activity. -/
theorem staleCopy_reverts : Reverts (sampleSystem.step (.read 0 "ann"))
        (.completePasswordRecovery (sample 20) "challenge" "new-hash" 20) []
        (.touchUserActivity 0 (sample 30)) ∧
      Reverts (sampleSystem.step (.read 0 "ann"))
        (.decideMFAResetRequest (sample 20) "request" "root" "approved" "lost phone" 20) []
        (.touchUserActivity 0 (sample 30)) ∧
      Reverts (sampleSystem.step (.read 0 "ann"))
        (.setUserActiveWithAudit (sample 20) "ann" false "root") []
        (.touchUserActivity 0 (sample 30)) := by
  refine ⟨⟨rfl, .password, "ann", .password "old-hash", .password "new-hash", ?_⟩,
    ⟨rfl, .factor, "ann", .factor "SECRET" true 1 1, .factor "" false 0 0, ?_⟩,
    ⟨rfl, .active, "ann", .active true, .active false, ?_⟩⟩
  all_goals decide +kernel

end

end Accounts.Users

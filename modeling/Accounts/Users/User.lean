import Accounts.Base.World

/-!
# Users

The record of a user, and what is read off it (`internal/store/store.go`): the
normal form of its role and groups, its plan, which is one of its groups, and
its last activity.
-/

namespace Accounts

open Text List

/-- A user, as the program holds it. Times that are not known are zero, or
    absent where the program has a pointer. -/
structure User where
  id : String
  name : String
  email : String
  level : Int
  role : String
  groups : List String
  permissions : List String
  emailVerified : Bool
  passwordHash : String
  mfaTOTPSecret : String
  mfaEnabled : Bool
  mfaSecretIssuedAt : Time
  mfaConfirmedAt : Time
  createdAt : Time
  updatedAt : Time
  active : Bool
  proxyUUID : String
  proxyUUIDExpiresAt : Option Time
  subscriptionValidFrom : Option Time
  subscriptionValidUntil : Option Time
  lastActiveAt : Option Time
  archivedAt : Option Time
  deriving DecidableEq

/-- A user without a second factor, for examples. -/
def User.sample (id passwordHash proxyUUID : String) : User where
  id := id
  name := "ann"
  email := "ann@example.com"
  level := 20
  role := "user"
  groups := []
  permissions := []
  emailVerified := true
  passwordHash := passwordHash
  mfaTOTPSecret := ""
  mfaEnabled := false
  mfaSecretIssuedAt := 0
  mfaConfirmedAt := 0
  createdAt := 1
  updatedAt := 1
  active := true
  proxyUUID := proxyUUID
  proxyUUIDExpiresAt := none
  subscriptionValidFrom := none
  subscriptionValidUntil := none
  lastActiveAt := none
  archivedAt := none

/-! ## Groups -/

def monthlyFreeQuotaLimitGroup : String := "segment:quota:free-3gb"
def monthlyPlusQuotaLimitGroup : String := "segment:quota:plus-20gb"
def monthlyUnlimitedBetaQuotaGroup : String := "segment:quota:unlimited-beta"
def subscriptionListedGroup : String := "segment:subscription:listed"

/-- The groups that stand for a monthly plan. -/
def monthlyQuotaGroups : List String :=
  [monthlyUnlimitedBetaQuotaGroup, monthlyPlusQuotaLimitGroup, monthlyFreeQuotaLimitGroup]

/-- The plan of a user: the first of its groups that stands for one. -/
def monthlyQuotaGroup (user : User) : String :=
  (user.groups.findSome? fun group =>
    monthlyQuotaGroups.find? fun known => trimSpace group == known).getD ""

/-- Texts without white space around them, none of them empty or twice. -/
def normalizeStringSlice (values : List String) : List String :=
  values.foldl (fun result value =>
    let trimmed := trimSpace value
    if trimmed = "" ∨ trimmed ∈ result then result else result ++ [trimmed]) []

/-- The groups of a user in normal form. -/
def normalizeGroups (values : List String) : List String := normalizeStringSlice values

/-- The groups of a user who is moved to the Free plan; `dropped` are the
    groups that are given up. -/
def freePlanGroups (dropped groups : List String) : List String :=
  normalizeGroups (groups.filter (· ∉ dropped) ++ [monthlyFreeQuotaLimitGroup, "segment:free"])

/-! ## Normal forms -/

theorem mem_normalizeStringSlice {values : List String} {x : String} :
    x ∈ normalizeStringSlice values ↔ x ≠ "" ∧ ∃ v ∈ values, trimSpace v = x := by
  -- The texts that were taken so far are kept.
  suffices h : ∀ result : List String, x ∈ values.foldl (fun result value =>
      let trimmed := trimSpace value
      if trimmed = "" ∨ trimmed ∈ result then result else result ++ [trimmed]) result ↔
        x ∈ result ∨ (x ≠ "" ∧ ∃ v ∈ values, trimSpace v = x) from
    (h []).trans (or_iff_right not_mem_nil)
  induction values with
  | nil => simp
  | cons =>
    intro _
    rw [foldl_cons]
    simp only [mem_cons, exists_eq_or_imp]
    split_ifs with hskip
    · rcases hskip with hempty | hmem
      · grind
      · grind
    · grind

/-- No text is taken twice. -/
theorem nodup_normalizeStringSlice (values : List String) : (normalizeStringSlice values).Nodup := by
  suffices h : ∀ result : List String, result.Nodup → (values.foldl (fun result value =>
      let trimmed := trimSpace value
      if trimmed = "" ∨ trimmed ∈ result then result else result ++ [trimmed]) result).Nodup from
    h [] nodup_nil
  induction values with
  | nil => exact fun _ => id
  | cons _ _ ih =>
    intro _ hresult
    refine ih _ ?_
    dsimp only
    split_ifs with hskip
    · exact hresult
    · exact nodup_append.2 ⟨hresult, pairwise_singleton _ _, by grind⟩

/-- Texts in normal form stay as they are. -/
theorem normalizeStringSlice_eq_self {values : List String} (hnodup : values.Nodup)
    (htrimmed : ∀ x ∈ values, trimSpace x = x ∧ x ≠ "") :
    normalizeStringSlice values = values := by
  suffices h : ∀ result : List String, (∀ x ∈ values, x ∉ result) →
      values.foldl (fun result value =>
      let trimmed := trimSpace value
      if trimmed = "" ∨ trimmed ∈ result then result else result ++ [trimmed]) result =
        result ++ values from h [] (by simp)
  induction values with
  | nil => simp
  | cons value _ ih =>
    intro result hresult
    obtain ⟨htrim, hne⟩ := htrimmed value mem_cons_self
    rw [nodup_cons] at hnodup
    have hnew : ¬ (value = "" ∨ value ∈ result) :=
      not_or.2 ⟨hne, hresult value mem_cons_self⟩
    rw [foldl_cons, htrim, if_neg hnew,
      ih hnodup.2 (fun x hx => htrimmed x (mem_cons_of_mem _ hx)), append_assoc]
    · rfl
    · grind

@[simp] theorem normalizeStringSlice_idem (values : List String) :
    normalizeStringSlice (normalizeStringSlice values) = normalizeStringSlice values := by
  refine normalizeStringSlice_eq_self (nodup_normalizeStringSlice values) fun x hx => ?_
  obtain ⟨hne, v, -, rfl⟩ := mem_normalizeStringSlice.1 hx
  exact ⟨trimSpace_idem v, hne⟩

/-- The plan of a user is the Free one if their groups have it, and no other. -/
theorem monthlyQuotaGroup_eq_free {user : User} (hfree : monthlyFreeQuotaLimitGroup ∈ user.groups)
    (hother : ∀ g ∈ user.groups, trimSpace g ≠ monthlyPlusQuotaLimitGroup ∧
      trimSpace g ≠ monthlyUnlimitedBetaQuotaGroup) :
    monthlyQuotaGroup user = monthlyFreeQuotaLimitGroup := by
  rw [monthlyQuotaGroup]
  cases h : user.groups.findSome? fun group =>
      monthlyQuotaGroups.find? fun known => trimSpace group == known with
  | none =>
    have hnone := findSome?_eq_none_iff.1 h _ hfree
    revert hnone
    decide
  | some known =>
    obtain ⟨g, hg, hknown⟩ := exists_of_findSome?_eq_some h
    have htrim : trimSpace g = known := by simpa using find?_some hknown
    have hmem := mem_of_find?_eq_some hknown
    obtain ⟨hplus, hbeta⟩ := hother g hg
    rw [htrim] at hplus hbeta
    simpa [monthlyQuotaGroups, hplus, hbeta] using hmem

/-- Who is moved to the Free plan is on it, if the other plans are among the groups that are
    given up. -/
theorem monthlyQuotaGroup_freePlanGroups {dropped groups : List String} {user : User}
    (hgroups : user.groups = freePlanGroups dropped groups)
    (hplus : monthlyPlusQuotaLimitGroup ∈ dropped) (hbeta : monthlyUnlimitedBetaQuotaGroup ∈ dropped)
    (htrimmed : ∀ g ∈ groups, trimSpace g = g) :
    monthlyQuotaGroup user = monthlyFreeQuotaLimitGroup := by
  refine monthlyQuotaGroup_eq_free ?_ fun g hg => ?_
  · rw [hgroups, freePlanGroups, normalizeGroups, mem_normalizeStringSlice]
    exact ⟨by decide, monthlyFreeQuotaLimitGroup, by simp, by decide⟩
  rw [hgroups, freePlanGroups, normalizeGroups, mem_normalizeStringSlice] at hg
  obtain ⟨-, v, hv, rfl⟩ := hg
  rw [trimSpace_idem]
  rcases mem_append.1 hv with hv | hv
  · obtain ⟨hv, hkept⟩ := mem_filter.1 hv
    rw [htrimmed v hv]
    rw [decide_eq_true_eq] at hkept
    exact ⟨fun h => hkept (h ▸ hplus), fun h => hkept (h ▸ hbeta)⟩
  · rcases mem_cons.1 hv with rfl | hv
    · decide
    · rw [mem_singleton.1 hv]
      decide

/-! ## Roles -/

def roleToLevel : String → Option Int
  | "root" => some 0
  | "admin" => some 0
  | "operator" => some 10
  | "user" => some 20
  | "readonly" => some 20
  | _ => none

def levelToRole : Int → Option String
  | 0 => some "root"
  | 10 => some "operator"
  | 20 => some "user"
  | _ => none

section

variable [Unicode]

def isRootRole (role : String) : Bool := toLower (trimSpace role) == "root"

/-- The role and the level of a user, in agreement. -/
def normalizedRole (user : User) : String × Int :=
  let role := toLower (trimSpace user.role)
  match roleToLevel role with
  | some level => (role, level)
  | none => match levelToRole user.level with
    | some role => (role, user.level)
    | none => ("user", 20)

/-- The role and the level of a user in agreement, its groups and permissions in normal form. -/
def normalizeUserRoleFields (user : User) : User :=
  { user with
    role := (normalizedRole user).1
    level := (normalizedRole user).2
    groups := normalizeStringSlice user.groups
    permissions := normalizeStringSlice user.permissions }

end

/-! ## Activity -/

/-- When a user was last active, as far as it is known. -/
def userLastActivity (user : User) : Time :=
  match user.lastActiveAt with
  | some t => t
  | none => if ¬ user.updatedAt.isZero then user.updatedAt else user.createdAt

end Accounts

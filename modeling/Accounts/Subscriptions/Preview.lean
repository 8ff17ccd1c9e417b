import Accounts.Subscriptions.Changes

/-!
# Previews

Before an action is reserved, its price is shown: the caller reads the lifecycle of the
account (`getSubscriptionLifecycle`), checks the action on it, and quotes the version it
read in the request. The version counts the *transitions* of the account: what is newly
reserved, what ends, and the reviews of refunds.

* `preview_iff`: what a reservation newly accepts passes the check of the preview, except a
  renewal while a refund is under review. The preview knows of the review, the reservation
  looks for it only before an upgrade or a downgrade;
* `version_exec`: every transition adds one to the version;
* `previewed`: what is newly accepted on a previewed version saw no transition since the
  preview, and no upgrade or downgrade is open while a refund is under review.
-/

namespace Accounts.Lifecycle

open Finance Table Run

section

variable [Unicode]

/-! ## The check of a preview -/

variable {s s' : Store} {env : Env} {userID key action : String} {request : RawMessage}
  {op : FinanceOperation}

/-- The actions that change a plan. -/
def changesPlan (action : String) : Bool :=
  action == "upgrade" || action == "downgrade" || action == "renewal"

section

variable {v : SubscriptionLifecycle} {now : Time}

omit [Unicode] in
/-- What the check of a change asks for. -/
theorem checkSubscriptionAction_change (h : changesPlan action) :
    checkSubscriptionAction v action now = .ok () ↔
      v.operationID = "" ∧ v.refundReviewPending = false ∧ v.pendingPlanID = "" ∧
        v.cooldownUntil.any (now < ·) = false := by
  have hsubscribe : action ≠ "subscribe" := by
    rintro rfl
    exact absurd h (by decide)
  rw [changesPlan] at h
  simp only [checkSubscriptionAction, h, hsubscribe, Except.guard_ok, false_or, if_true,
    ne_eq, not_not, not_false_eq_true, and_true, true_and, Bool.not_eq_true]

omit [Unicode] in
/-- The check of another action does not look at the mark of a review. -/
theorem checkSubscriptionAction_review {pending : Bool} (h : changesPlan action = false) :
    checkSubscriptionAction { v with accountID := userID, refundReviewPending := pending } action
      now = checkSubscriptionAction v action now := by
  rw [changesPlan] at h
  by_cases haction : action = "subscribe"
  · simp only [checkSubscriptionAction, haction, ne_eq, not_true_eq_false, and_false, if_false]
    rfl
  · simp only [checkSubscriptionAction, h, haction, Bool.false_eq_true, or_self, if_false]

end

/-- Only a purchase is an action under another name. -/
theorem lifecycleAction_cases (action : String) (request : RawMessage) :
    lifecycleAction action request = action ∨ action = "purchase" ∧
      (lifecycleAction action request = "upgrade" ∨
        lifecycleAction action request = "subscribe") := by
  by_cases haction : action = "purchase"
  · refine .inr ⟨haction, ?_⟩
    rw [lifecycleAction, if_neg (not_not.2 haction)]
    dsimp only
    split_ifs
    · exact .inl rfl
    · exact .inr rfl
  · rw [lifecycleAction, if_pos haction]
    exact .inl rfl

/-- What a reservation newly accepts is refused by the check of the preview exactly if it is
    a renewal, and a refund of the account is under review. -/
theorem preview_iff (hnew : (s.financeOperationKeys.lookup key).getD "" = "")
    (h : reserveSubscriptionAction env s userID key action request = .ok (s', op)) :
    (∃ v, s.getSubscriptionLifecycle userID = .ok v ∧
      checkSubscriptionAction v (lifecycleAction action request) env.now = .ok ()) ↔
    ¬ (action = "renewal" ∧ (rows s.financeOperations).any (refundReviewPending · userID)) := by
  rcases reserveSubscriptionAction_cases h with ⟨hne, -⟩ | ⟨-, huser, -, hcheck, hreview, -⟩
  · exact absurd hnew hne
  simp only [Store.getSubscriptionLifecycle, huser, not_true_eq_false, if_false,
    Except.ok.injEq, exists_eq_left']
  by_cases hrenewal : action = "renewal"
  · -- The reservation does not look for a review.
    subst hrenewal
    have haction : lifecycleAction "renewal" request = "renewal" := if_pos (by decide)
    rw [haction] at hcheck ⊢
    rw [checkSubscriptionAction_change (by decide)] at hcheck ⊢
    obtain ⟨hname, -, hplan, hcooldown⟩ := hcheck
    simp only [true_and, Bool.not_eq_true]
    exact ⟨fun hpreview => hpreview.2.1, fun hnone => ⟨hname, hnone, hplan, hcooldown⟩⟩
  · refine iff_of_true ?_ fun hboth => hrenewal hboth.1
    cases hchange : changesPlan (lifecycleAction action request) with
    | false =>
      rw [checkSubscriptionAction_review hchange]
      exact hcheck
    | true =>
      have hnone : (rows s.financeOperations).any (refundReviewPending · userID) = false := by
        apply hreview
        simp only [changesPlan, Bool.or_eq_true, beq_iff_eq] at hchange
        rcases lifecycleAction_cases action request with haction | ⟨-, haction | haction⟩
        · rw [haction] at hchange ⊢
          exact hchange.resolve_right hrenewal
        · exact .inl haction
        · rw [haction] at hchange
          exact absurd hchange (by decide)
      rw [checkSubscriptionAction_change hchange] at hcheck ⊢
      exact ⟨hcheck.1, hnone, hcheck.2.2⟩

/-! ## The version counts the transitions -/

/-- A transition of the lifecycle of an account. -/
inductive Transition
  | reservation
  | completion
  | review
  deriving DecidableEq

/-- The transition of the account that a call is: what is there already is not reserved (or
    ended) again. -/
def transition (userID : String) (s : Store) (a : Action) : Option Transition :=
  match a.call s, a.ending s with
  | .error _, _ => none
  | .ok _, some e =>
    if e.userID = userID ∧ (s.financeOperations.lookup e.id).any unfinished then some .completion
    else none
  | .ok _, none => match a with
    | .reserveSubscriptionAction _ user key _ _ =>
      if user = userID ∧ (s.financeOperationKeys.lookup key).getD "" = "" then some .reservation
      else none
    | .createSubscriptionRefundReview _ op _ =>
      if op.targetID = userID ∧ (s.financeOperationKeys.lookup op.idempotencyKey).getD "" = ""
      then some .review else none
    | _ => none

/-- The transitions of the account in a run, in order. -/
def transitions (userID : String) : Store → List Action → List Transition :=
  collect step (transition userID)

/-- The version that a request quotes, if it quotes one. -/
def quotedVersion (request : RawMessage) : Option Int64 :=
  let assign (_ : String) (v : Json) (old : Option Int64) : Option Int64 × Bool := match v with
    | .null => (none, true)
    | v => match v.assignInt64 (old.getD 0) with
      | (value, true) => (some value, true)
      | (_, false) => (old, false)
  (request.decode ["stateVersion"] assign none).join

/-- The version that a call carries. -/
def Action.quotes : Action → Option Int64
  | .reserveSubscriptionAction _ _ _ _ request => quotedVersion request
  | .createSubscriptionRefundReview _ _ expectedVersion => some expectedVersion
  | _ => none

variable {a : Action}

omit [Unicode] in
/-- The versions after a lifecycle was written that is a version further. -/
theorem version_insert {v : SubscriptionLifecycle} {user : String}
    (h : s'.subscriptionLifecycles = s.subscriptionLifecycles.insert user v)
    (hv : v.version = (s.lifecycle user).version + 1) :
    (s'.lifecycle userID).version =
      (s.lifecycle userID).version + if user = userID then 1 else 0 := by
  rw [lifecycle_insert h]
  by_cases huser : user = userID
  · rw [if_pos huser, if_pos huser.symm, hv, huser]
  · rw [if_neg huser, if_neg (Ne.symm huser), Int64.add_zero]

/-- A transition adds one to the version of its account. -/
theorem version_step (userID : String) (s : Store) (a : Action) :
    ((step s a).lifecycle userID).version =
      (s.lifecycle userID).version + if (transition userID s a).isSome then 1 else 0 := by
  unfold step transition
  rcases hcall : a.call s with e | s'
  · exact (Int64.add_zero _).symm
  change (s'.lifecycle userID).version = _
  cases effect_of_call hcall with
  | repeats eq known ended =>
    rw [eq]
    cases he : a.ending s with
    | some e =>
      cases hop : s.financeOperations.lookup e.id with
      | none => simp [hop]
      | some op => simp [hop, ended e he op hop]
    | none =>
      cases a with
      | reserveSubscriptionAction | createSubscriptionRefundReview => simp [known _ rfl]
      | _ => exact (Int64.add_zero _).symm
  | @reserves _ user key _ _ h =>
    have hnew : (s.financeOperationKeys.lookup key).getD "" = "" := h.records.newKey
    rw [version_insert h.lifecycles rfl]
    by_cases huser : user = userID <;> simp [Action.ending, hnew, huser]
  | @ends _ e _ he h =>
    obtain ⟨v, hv, hlifecycles⟩ := h.lifecycle
    rw [he, version_insert hlifecycles (finishLifecycle_ok hv).2.1]
    by_cases huser : e.userID = userID <;> simp [h.row, h.unfinished, huser]
  | progresses _ _ _ eq =>
    rw [eq]
    exact (Int64.add_zero _).symm
  | @reviews _ op _ _ hrecords hlifecycles =>
    have hnew : (s.financeOperationKeys.lookup op.idempotencyKey).getD "" = "" :=
      hrecords.newKey
    rw [version_insert hlifecycles rfl]
    by_cases huser : op.targetID = userID <;> simp [Action.ending, hnew, huser]

/-- The version counts the transitions, in the arithmetic of 64 bits. -/
theorem version_exec (userID : String) (s : Store) (as : List Action) :
    ((exec step s as).lifecycle userID).version =
      (s.lifecycle userID).version + Int64.ofNat (transitions userID s as).length := by
  induction as generalizing s with
  | nil => exact (Int64.add_zero _).symm
  | cons a _ ih =>
    rw [exec_cons, ih, version_step, transitions, collect, List.length_append,
      Int64.ofNat_add, ← Int64.add_assoc]
    cases transition userID s a <;> rfl

/-- Two versions of a run are equal if nothing happened in between (or so much that the
    version went all around). -/
theorem transitions_of_version_eq {as : List Action}
    (h : ((exec step s as).lifecycle userID).version = (s.lifecycle userID).version) :
    transitions userID s as = [] ∨ 2 ^ 64 ≤ (transitions userID s as).length := by
  rw [version_exec, Int64.add_eq_left] at h
  rcases Nat.lt_or_ge (transitions userID s as).length (2 ^ 64) with hlt | hge
  · left
    have hlength : (transitions userID s as).length % 2 ^ 64 = 0 :=
      congrArg (fun x : Int64 => x.toBitVec.toNat) h
    rw [Nat.mod_eq_of_lt hlt] at hlength
    exact List.length_eq_zero_iff.1 hlength
  · exact .inr hge

/-- What a request quotes is compared with the version. -/
theorem version_eq_of_check {version quoted : Int64}
    (h : checkLifecyclePreviewVersion request version = .ok ())
    (hquoted : quotedVersion request = some quoted) : version = quoted := by
  have hdecode := Option.join_eq_some_iff.1 hquoted
  unfold checkLifecyclePreviewVersion at h
  split at h
  · cases hdecode
  dsimp only at h
  split at h
  · next hnone => cases hdecode.symm.trans hnone
  · next hsome =>
    cases hdecode.symm.trans hsome
    rw [Except.guard_ok, Option.any_some, bne_iff_ne, not_not] at h
    exact h.1.symm

/-- What is newly accepted on a version is of this version. -/
theorem version_eq_of_quotes {quoted : Int64} (h : (transition userID s a).isSome)
    (hquoted : a.quotes = some quoted) : (s.lifecycle userID).version = quoted := by
  unfold transition at h
  rcases hcall : a.call s with e | s'
  · simp [hcall] at h
  cases a with
  | reserveSubscriptionAction =>
    simp only [hcall, Action.ending, Option.isSome_ite] at h
    obtain ⟨rfl, hnew⟩ := h
    cases effect_of_call hcall with
    | repeats _ known => exact absurd hnew (known _ rfl)
    | reserves h => exact version_eq_of_check h.version hquoted
    | ends he => cases he
  | createSubscriptionRefundReview =>
    simp only [hcall, Action.ending, Option.isSome_ite] at h
    obtain ⟨rfl, hnew⟩ := h
    cases effect_of_call hcall with
    | repeats _ known => exact absurd hnew (known _ rfl)
    | reviews _ _ _ _ _ hversion => exact hversion.trans (Option.some_inj.1 hquoted)
    | ends he => cases he
  | _ => cases hquoted

/-! ## Reviews and changes exclude each other -/

/-- An upgrade (also as a purchase) or a downgrade. -/
def switchesPlan (op : FinanceOperation) : Bool :=
  isChange op && op.operationType != "subscription_renewal"

/-- An upgrade or a downgrade of the account is open. -/
def Store.Switching (s : Store) (userID : String) : Prop :=
  ∃ id op, s.financeOperations.lookup id = some op ∧ Reserved op userID ∧ switchesPlan op

/-- A refund of the account is under review. -/
def Store.Reviewing (s : Store) (userID : String) : Prop :=
  ∃ id op, s.financeOperations.lookup id = some op ∧ refundReviewPending op userID

/-- A new upgrade or downgrade passed the check for reviews. -/
theorem not_reviewing_of_switchesPlan {user : String}
    (hreview : (lifecycleAction action request = "upgrade" ∨ action = "downgrade") →
      (rows s.financeOperations).any (refundReviewPending · userID) = false)
    (h : switchesPlan (actionOperation env user key action request)) : ¬ s.Reviewing userID := by
  rintro ⟨id, op, hop, hpending⟩
  rw [switchesPlan, Bool.and_eq_true, bne_iff_ne] at h
  refine List.any_eq_false.1 (hreview ?_) op (mem_rows_iff.2 ⟨id, hop⟩) hpending
  rcases lifecycleAction_cases action request with haction | ⟨-, haction | haction⟩
  · rcases action_of_isChange h.1 with hchange | hchange | hchange
    · exact .inl hchange
    · exact .inr (haction.symm.trans hchange)
    · cases haction.symm.trans hchange
      exact absurd rfl h.2
  · exact .inl haction
  · have hchange := action_of_isChange h.1
    rw [haction] at hchange
    exact absurd hchange (by decide)

/-- While a refund of an account is under review, no upgrade or downgrade of it is open. -/
def Store.Exclusive (s : Store) : Prop := ∀ userID, s.Switching userID → ¬ s.Reviewing userID

omit [Unicode] in
/-- An operation that was there before, or the one that is written. -/
theorem exists_insert {id : String} {P : FinanceOperation → Prop}
    (h : s'.financeOperations = s.financeOperations.insert id op)
    (hs : ∃ id op, s'.financeOperations.lookup id = some op ∧ P op) :
    (∃ id op, s.financeOperations.lookup id = some op ∧ P op) ∨ P op := by
  obtain ⟨id', op', hop', hp⟩ := hs
  rw [h, lookup_insert_iff] at hop'
  rcases hop' with ⟨-, rfl⟩ | ⟨-, hop'⟩
  · exact .inr hp
  · exact .inl ⟨id', op', hop', hp⟩

omit [Unicode] in
/-- What is under review. -/
theorem refundReviewPending_iff : refundReviewPending op userID ↔
    op.operationType = "refund_review" ∧ op.targetID = userID ∧ op.targetType = "account" ∧
      unfinished op := by
  simp only [refundReviewPending, Bool.and_eq_true, beq_iff_eq, and_assoc]

/-- Every call keeps the two apart. -/
theorem Store.Exclusive.effect (hs : s.Exclusive) (hg : s.Gated) (h : Effect s s' a) :
    s'.Exclusive := by
  intro userID hswitching hreviewing
  cases h with
  | repeats eq => exact hs userID (eq ▸ hswitching) (eq ▸ hreviewing)
  | @reserves env user key action request h =>
    have hbefore : s.Reviewing userID := by
      refine (exists_insert h.records.operations hreviewing).resolve_right fun hreview => ?_
      exact not_reserved_review (refundReviewPending_iff.1 hreview).1
        (reserved_actionOperation env user key action request)
    rcases exists_insert h.records.operations hswitching with hswitching | ⟨hop, hswitches⟩
    · exact hs userID hswitching hbefore
    · cases hop.targetID
      exact not_reviewing_of_switchesPlan h.review hswitches hbefore
  | @ends _ e op _ h =>
    have hfinished := unfinished_finished e op
    refine hs userID ((exists_insert h.operations hswitching).resolve_right fun hnew => ?_)
      ((exists_insert h.operations hreviewing).resolve_right fun hnew => ?_)
    · cases hfinished.symm.trans hnew.1.unfinished
    · cases hfinished.symm.trans (refundReviewPending_iff.1 hnew).2.2.2
  | @progresses _ id _ _ op hop htype hunfinished eq =>
    subst eq
    have hbefore : s.Reviewing userID := by
      refine (exists_insert rfl hreviewing).resolve_right fun hreview => ?_
      exact absurd (htype.symm.trans (refundReviewPending_iff.1 hreview).1) (by decide)
    rcases exists_insert rfl hswitching with hswitching | ⟨hreserved, hswitches⟩
    · exact hs userID hswitching hbefore
    · have hreserved : Reserved op userID :=
        ⟨hreserved.isAction, hreserved.targetType, hreserved.targetID, hunfinished⟩
      exact hs userID ⟨id, op, hop, hreserved, hswitches⟩ hbefore
  | @reviews env op _ htype hrecords _ _ hfree =>
    have hreview : (reviewOperation env op).operationType = "refund_review" := htype
    have hbefore : s.Switching userID :=
      (exists_insert hrecords.operations hswitching).resolve_right fun hnew =>
        not_reserved_review hreview hnew.1
    rcases exists_insert hrecords.operations hreviewing with hreviewing | hreview
    · exact hs userID hbefore hreviewing
    · -- A review is only recorded when the state names no action.
      obtain rfl : op.targetID = userID := (refundReviewPending_iff.1 hreview).2.1
      obtain ⟨id, _, hop', hreserved, -⟩ := hbefore
      exact (hg.keyed hop').2 ((hg.names hop' hreserved).symm.trans hfree)

/-- From a store without open actions, after any calls: a transition of an account raises
    its version, unless that is the greatest number there is; what is newly accepted and
    carries the version of an earlier moment (when it was previewed) saw no transition since,
    or at least `2 ^ 64` of them; and no upgrade or downgrade of the account is open while a
    refund is under review. -/
theorem previewed (hs : s.Untouched) (before since : List Action) (a : Action) (userID : String) :
    let shown := exec step s before
    let now := exec step shown since
    ((transition userID now a).isSome → (now.lifecycle userID).version ≠ Int64.maxValue →
      (now.lifecycle userID).version < ((step now a).lifecycle userID).version) ∧
    ((transition userID now a).isSome → a.quotes = some (shown.lifecycle userID).version →
      transitions userID shown since = [] ∨ 2 ^ 64 ≤ (transitions userID shown since).length) ∧
    ¬ (now.Switching userID ∧ now.Reviewing userID) := by
  intro _ now
  refine ⟨fun ha hmax => ?_, fun ha hquotes => ?_, fun hboth => ?_⟩
  · rw [version_step, if_pos ha]
    exact Int64.lt_add_one hmax
  · exact transitions_of_version_eq (version_eq_of_quotes ha hquotes)
  have hnow : now.Gated ∧ now.Exclusive := by
    have hstart : s.Exclusive := by
      rintro user ⟨_, _, hop, hreserved, -⟩
      exact absurd hreserved (hs.none hop)
    rw [show now = exec step s (before ++ since) from (exec_append ..).symm]
    refine exec_induction (P := fun s : Store => s.Gated ∧ s.Exclusive) (fun s a h => ?_)
      ⟨hs.gated, hstart⟩ _
    rcases effect_step s a with heq | heffect
    · rw [heq]
      exact h
    · exact ⟨heffect.gated h.1, h.2.effect h.1 heffect⟩
  exact hnow.2 userID hboth.1 hboth.2

end

/-! ## A review and a renewal -/

namespace Quoted

open Scheduled

local instance unicode : Unicode := .ascii

/-- A store with an account that has reached a version. -/
def store (version : Int64) : Store :=
  { byID := ["ann"], subscriptionLifecycles := AList.insert "ann" { version := version } ∅ }

theorem store_untouched (version : Int64) : (store version).Untouched := by
  refine ⟨nofun, nofun, fun userID => ?_⟩
  rw [lifecycle_insert (s := { byID := [] }) rfl]
  split_ifs <;> rfl

/-- A request for the review of a refund. -/
def review : FinanceOperation :=
  { actionOperation (env 1 first) "ann" "subscription-refund-review:ann" "" .empty with
    operationType := "refund_review" }

/-- A refund is under review. -/
def reviewed : Store :=
  step (store 0) (.createSubscriptionRefundReview (env 1 first) review 0)

theorem preview_iff_sample :
    (reserveSubscriptionAction (env 2 second) reviewed "ann" "cancel-1" "cancel" .empty).isOk ∧
    ∃ v, reviewed.getSubscriptionLifecycle "ann" = .ok v ∧
      checkSubscriptionAction v (lifecycleAction "cancel" .empty) (env 2 second).now = .ok () := by
  have hok : (reserveSubscriptionAction (env 2 second) reviewed "ann" "cancel-1" "cancel"
      .empty).isOk := by
    decide +kernel
  refine ⟨hok, ?_⟩
  cases h : reserveSubscriptionAction (env 2 second) reviewed "ann" "cancel-1" "cancel" .empty with
  | error =>
    rw [h] at hok
    cases hok
  | ok => exact (preview_iff (by decide +kernel) h).2 (by decide +kernel)

/-- The refund is under review, so that the preview of a renewal is refused. It is reserved
    all the same. -/
theorem renewal_under_review : (reviewed.getSubscriptionLifecycle "ann").bind
        (checkSubscriptionAction · (lifecycleAction "renewal" .empty) (env 2 second).now) =
      .error .changePending ∧
    (reviewed.financeOperationKeys.lookup "renewal-1").getD "" = "" ∧
    (reserveSubscriptionAction (env 2 second) reviewed "ann" "renewal-1" "renewal"
      .empty).map (·.2.operationType) = .ok "subscription_renewal" := by
  decide +kernel

/-- A cancellation that quotes the version it was previewed with. -/
def cancel : Action :=
  .reserveSubscriptionAction (env 1 first) "ann" "cancel-1" "cancel"
    (.doc (.object [("stateVersion", .number { integer := 0 })]))

/-- A cancellation that quotes none. -/
def unversioned : Action :=
  .reserveSubscriptionAction (env 1 first) "ann" "cancel-1" "cancel" .empty

/-- The end of the cancellation. -/
def finish : Action :=
  .finishSubscriptionAction (env 1 first) "ann" "op-1" "sub_1" .empty true "" none

/-- A cancellation after that, which quotes the version from after a review was asked for. -/
def cancelAgain : Action :=
  .reserveSubscriptionAction (env 3 third) "ann" "cancel-2" "cancel"
    (.doc (.object [("stateVersion", .number { integer := 3 })]))

/-- It is previewed while a refund is under review. In between the first cancellation is asked
    for again, which is no transition. -/
theorem previewed_sample :
    let shown := exec step (store 0)
      [cancel, finish, .createSubscriptionRefundReview (env 2 second) review 2]
    let now := exec step shown [cancel]
    (transition "ann" now cancelAgain = some .reservation ∧
      cancelAgain.quotes = some (shown.lifecycle "ann").version) ∧
    (now.lifecycle "ann").version < ((step now cancelAgain).lifecycle "ann").version ∧
    (transitions "ann" shown [cancel] = [] ∨ 2 ^ 64 ≤ (transitions "ann" shown [cancel]).length) ∧
    ¬ (now.Switching "ann" ∧ now.Reviewing "ann") := by
  intro shown now
  have hnow : transition "ann" now cancelAgain = some .reservation ∧
      cancelAgain.quotes = some (shown.lifecycle "ann").version := by
    decide +kernel
  obtain ⟨hversion, htransitions, hexclusive⟩ := previewed (store_untouched 0)
    [cancel, finish, .createSubscriptionRefundReview (env 2 second) review 2] [cancel] cancelAgain
    "ann"
  have hsome : (transition "ann" now cancelAgain).isSome := by
    rw [hnow.1]
    rfl
  exact ⟨hnow, hversion hsome (by decide +kernel), htransitions hsome hnow.2, hexclusive⟩

/-- The cancellation is asked for again after its end: the call carries the version from
    before two transitions, and is answered with the operation that is there. And the
    greatest version is followed by the least. -/
theorem repeated_and_wrapped : ((cancel.call (exec step (store 0) [cancel, finish])).isOk ∧
      cancel.quotes = some ((store 0).lifecycle "ann").version ∧
      transitions "ann" (store 0) [cancel, finish] = [.reservation, .completion]) ∧
    (store Int64.maxValue).Untouched ∧
      transition "ann" (store Int64.maxValue) unversioned = some .reservation ∧
      ((step (store Int64.maxValue) unversioned).lifecycle "ann").version <
        ((store Int64.maxValue).lifecycle "ann").version :=
  ⟨by decide +kernel, store_untouched _, by decide +kernel, by decide +kernel⟩

end Quoted

end Accounts.Lifecycle

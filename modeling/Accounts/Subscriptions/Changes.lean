import Accounts.Subscriptions.Lifecycle

/-!
# Changes of a plan

A renewal, an upgrade (also as a purchase) or a downgrade that the provider
confirmed is a *change*: its time is kept in the lifecycle state, and for thirty
days no other change can be reserved (`checkSubscriptionAction`). A downgrade or a
cancellation takes effect at the end of the paid term; the plan that will be there
then, and the time, are kept as well, and no plan can be bought while they are.

* `marks_step`: only a confirmed action writes this part of the state;
* `changes_spaced`: between a change and the reservation of a later one there are
  thirty days, whatever else happens in between;
* `admitted_iff`: when no action is open, a purchase is admitted exactly if the
  last downgrade or cancellation left no plan. Nothing looks at the time at which
  the plan takes effect, so that after a cancellation no plan can be bought any
  more (`Scheduled.never_again`);
* `finish_again`: an action that was ended can be ended again in the same way, which
  changes nothing, also after other calls.
-/

namespace Accounts.Lifecycle

open Finance Table List Option Run SubscriptionLifecycle

section

variable [Unicode]

/-! ## What ends an action -/

/-- The action of the account that a call ends as confirmed, and how. -/
def confirms (userID : String) (s : Store) (a : Action) : Option (FinanceOperation × Ending) :=
  match a.ending s, a.call s with
  | some e, .ok _ =>
    if e.userID = userID ∧ e.confirmed then
      ((s.financeOperations.lookup e.id).filter unfinished).map fun op => (op, e)
    else none
  | _, _ => none

/-- A change of the plan. -/
def isChange (op : FinanceOperation) : Bool :=
  op.operationType == "subscription_renewal" || op.operationType == "subscription_upgrade" ||
    op.operationType == "subscription_downgrade" ||
    op.operationType == "subscription_purchase" &&
      lifecycleAction "purchase" op.request == "upgrade"

/-- An action that takes effect later. -/
def isPlanned (op : FinanceOperation) : Bool :=
  op.operationType == "subscription_downgrade" || op.operationType == "subscription_cancel"

/-- What a state keeps of the changes: the time of the last one, and the plan to come. -/
def SubscriptionLifecycle.marks (v : SubscriptionLifecycle) : Option Time × String × Option Time :=
  (v.lastChangeAt, v.pendingPlanID, v.effectiveAt)

/-! ## What a call does to the marks -/

variable {s s' : Store} {userID : String} {v : SubscriptionLifecycle}

section

variable (h : s'.subscriptionLifecycles = s.subscriptionLifecycles.insert userID v)

include h

omit [Unicode] in
/-- One of the lifecycles is written. -/
theorem marks_insert (user : String) :
    (s'.lifecycle user).marks = if user = userID then v.marks else (s.lifecycle user).marks := by
  rw [lifecycle_insert h]
  split_ifs <;> rfl

omit [Unicode] in
/-- A lifecycle is written that has the marks of the one before. -/
theorem marks_insert_self (hv : v.marks = (s.lifecycle userID).marks) (user : String) :
    (s'.lifecycle user).marks = (s.lifecycle user).marks := by
  rw [marks_insert h]
  split_ifs with heq
  · rw [hv, heq]
  · rfl

end

variable {op : FinanceOperation}

/-- The state after the end of the action it named. -/
theorem finishLifecycle_ok {v' : SubscriptionLifecycle} {confirmed : Bool} {pendingPlan : String}
    {effectiveAt : Option Time} {now : Time}
    (h : finishLifecycle v op confirmed pendingPlan effectiveAt now = .ok v') :
    v.operationID = op.id ∧ v'.version = v.version + 1 ∧ v'.marks =
      ( if confirmed && isChange op then some now else v.lastChangeAt,
        if confirmed && isPlanned op then pendingPlan else v.pendingPlanID,
        if confirmed && isPlanned op then effectiveAt else v.effectiveAt) := by
  simp only [finishLifecycle, Except.guard_ok] at h
  obtain ⟨hid, -, -, h⟩ := h
  cases h
  exact ⟨not_not.1 hid, rfl, rfl⟩

variable {a : Action} {e : Ending}

/-- The marks of an account are written when one of its actions is confirmed, which
    its state named. -/
theorem marks_step (userID : String) (s : Store) (a : Action) :
    ((step s a).lifecycle userID).marks = match confirms userID s a with
      | none => (s.lifecycle userID).marks
      | some (op, e) =>
        ( if isChange op then some e.env.now else (s.lifecycle userID).lastChangeAt,
          if isPlanned op then e.pendingPlan else (s.lifecycle userID).pendingPlanID,
          if isPlanned op then e.effectiveAt else (s.lifecycle userID).effectiveAt) := by
  cases hcall : a.call s with
  | error =>
    have hnone : confirms userID s a = none := by
      rw [confirms, hcall]
      cases a.ending s <;> rfl
    rw [hnone, step, hcall]
    rfl
  | ok s' =>
    rw [show step s a = s' by rw [step, hcall]; rfl, confirms, hcall]
    cases effect_of_call hcall with
    | repeats eq _ ended =>
      rw [eq]
      rcases he : a.ending s with _ | e
      · rfl
      cases hop : s.financeOperations.lookup e.id with
      | none => simp [hop]
      | some op => simp [hop, Option.filter, ended e he op hop]
    | reserves h => exact marks_insert_self h.lifecycles rfl userID
    | progresses _ _ _ eq =>
      rw [eq]
      rfl
    | reviews _ _ hlifecycles => exact marks_insert_self hlifecycles rfl userID
    | @ends _ e op he h =>
      obtain ⟨v, hv, hlifecycles⟩ := h.lifecycle
      rw [he, marks_insert hlifecycles, (finishLifecycle_ok hv).2.2]
      by_cases huser : userID = e.userID
      · cases hconfirmed : e.confirmed <;>
          simp [huser, hconfirmed, h.row, Option.filter, h.unfinished, marks]
      · simp [huser, Ne.symm huser]

/-- The clock of a call. -/
def Action.now : Action → Time
  | .reserveSubscriptionAction env _ _ _ _ => env.now
  | .finishSubscriptionAction env _ _ _ _ _ _ _ => env.now
  | .updateSubscriptionPurchase env _ _ _ _ => env.now
  | .createSubscriptionRefundReview env _ _ => env.now

theorem now_of_ending (h : a.ending s = some e) : e.env.now = a.now := by
  cases a with
  | finishSubscriptionAction => cases h; rfl
  | updateSubscriptionPurchase =>
    rw [Action.ending] at h
    split_ifs at h
    cases h
    rfl
  | _ => cases h

/-! ## Changes are spaced -/

/-- A change: when it was reserved, and when it was confirmed. -/
structure Change where
  reservedAt : Time
  confirmedAt : Time

/-- The change of the account that a call confirms. -/
def change (userID : String) (s : Store) (a : Action) : Option Change :=
  (confirms userID s a).bind fun (op, e) =>
    if isChange op then some ⟨op.createdAt, e.env.now⟩ else none

/-- The changes of the account in a run, in order. -/
def changes (userID : String) : Store → List Action → List Change :=
  collect step (change userID)

/-- An open change was reserved thirty days after the last one. -/
def Store.Paced (s : Store) : Prop :=
  ∀ ⦃id op userID⦄, s.financeOperations.lookup id = some op → Reserved op userID → isChange op →
    ∀ t ∈ (s.lifecycle userID).lastChangeAt, t + subscriptionChangeCooldown ≤ op.createdAt

/-- The time of the last change is kept by a call that confirms no change. -/
theorem lastChangeAt_step (h : change userID s a = none) :
    ((step s a).lifecycle userID).lastChangeAt = (s.lifecycle userID).lastChangeAt := by
  have hmarks := congrArg Prod.fst (marks_step userID s a)
  rw [change] at h
  cases hconfirms : confirms userID s a with
  | none =>
    rw [hconfirms] at hmarks
    exact hmarks
  | some =>
    rw [hconfirms] at hmarks h
    simp only [bind_some] at h
    split_ifs at h with hchange
    simpa [marks, hchange] using hmarks

/-- A change that is confirmed is the last one then. It was open. -/
theorem change_eq_some {c : Change} (hs : s.Gated) (h : change userID s a = some c) :
    (∃ id op, s.financeOperations.lookup id = some op ∧ Reserved op userID ∧ isChange op ∧
      op.createdAt = c.reservedAt) ∧ c.confirmedAt = a.now ∧
      ((step s a).lifecycle userID).lastChangeAt = some a.now := by
  have hmarks := congrArg Prod.fst (marks_step userID s a)
  obtain ⟨⟨op, e⟩, hconfirms, hchange⟩ := bind_eq_some_iff.1 h
  dsimp only at hchange
  split_ifs at hchange with hop
  cases hchange
  rw [hconfirms] at hmarks
  simp only [hop, if_true] at hmarks
  -- The action that is confirmed has no outcome yet.
  rw [confirms] at hconfirms
  split at hconfirms
  swap
  · cases hconfirms
  next e' s' he hcall =>
  split_ifs at hconfirms with hconfirmed
  obtain ⟨op', hop', heq⟩ := map_eq_some_iff.1 hconfirms
  cases heq
  obtain ⟨hlookup, hunfinished⟩ := filter_eq_some_iff.1 hop'
  obtain ⟨_, hop₁, ⟨hfinished, -⟩ | hends⟩ :=
    finishSubscriptionAction_cases e (call_of_ending he hcall)
  all_goals cases hlookup.symm.trans hop₁
  · cases hfinished.symm.trans hunfinished
  obtain ⟨v, hv, -⟩ := hends.lifecycle
  have hnamed : (s.lifecycle userID).operationID = op.id := hconfirmed.1 ▸ (finishLifecycle_ok hv).1
  have hnow := now_of_ending he
  -- The state named the operation, so it is an action of the account.
  have hid := hs.keyed hlookup
  obtain ⟨op', hop', hreserved⟩ := hs.named (hnamed.trans_ne (hid.1.trans_ne hid.2))
  rw [hnamed, hid.1, hlookup] at hop'
  cases hop'
  exact ⟨⟨e.id, op, hlookup, hreserved, hop, rfl⟩, hnow, hnow ▸ hmarks⟩

variable {action : String}

omit [Unicode] in
/-- A change passes its check thirty days after the last one. -/
theorem le_of_checkSubscriptionAction {now : Time}
    (h : checkSubscriptionAction v action now = .ok ())
    (haction : action = "upgrade" ∨ action = "downgrade" ∨ action = "renewal") :
    ∀ t ∈ v.lastChangeAt, t + subscriptionChangeCooldown ≤ now := by
  have hchange : (action == "upgrade" || action == "downgrade" || action == "renewal") = true := by
    rcases haction with rfl | rfl | rfl <;> rfl
  simp only [checkSubscriptionAction, hchange, or_true, if_true, Except.guard_ok,
    true_and] at h
  intro t ht
  have huntil := h.2.2.2.1
  rw [cooldownUntil, ht, map_some] at huntil
  simpa using huntil

/-- The operation of an action is a change if it was reserved as one. -/
theorem action_of_isChange {env : Env} {key : String} {request : RawMessage}
    (h : isChange (actionOperation env userID key action request)) :
    lifecycleAction action request = "upgrade" ∨ lifecycleAction action request = "downgrade" ∨
      lifecycleAction action request = "renewal" := by
  have htype : ∀ other, "subscription_" ++ action = "subscription_" ++ other ↔ action = other :=
    fun other => String.append_right_inj "subscription_"
  simp only [isChange, actionOperation, Bool.or_eq_true, Bool.and_eq_true, beq_iff_eq] at h
  rcases h with ((h | h) | h) | ⟨h, hupgrade⟩
  · obtain rfl := (htype "renewal").1 h
    exact .inr (.inr rfl)
  · obtain rfl := (htype "upgrade").1 h
    exact .inl rfl
  · obtain rfl := (htype "downgrade").1 h
    exact .inr (.inl rfl)
  obtain rfl := (htype "purchase").1 h
  -- What a purchase is does not depend on how its request is stored.
  cases request with
  | empty => exact .inl hupgrade
  | _ => exact .inl hupgrade

omit [Unicode] in
theorem lastChangeAt_of_marks {v' : SubscriptionLifecycle} (h : v.marks = v'.marks) :
    v.lastChangeAt = v'.lastChangeAt :=
  congrArg Prod.fst h

section

variable (hs : s.Paced) (hg : s.Gated)

include hs hg

/-- A call keeps the distance: a new change passed its check, and when an action ends, the
    other open changes are of other accounts. -/
theorem Store.Paced.effect (h : Effect s s' a) : s'.Paced := by
  intro _ _ userID hop hreserved hchange t ht
  cases h with
  | repeats eq => exact hs (eq ▸ hop) hreserved hchange t (eq ▸ ht)
  | reserves h =>
    rw [lastChangeAt_of_marks (marks_insert_self h.lifecycles rfl userID)] at ht
    rw [h.records.operations, lookup_insert_iff] at hop
    rcases hop with ⟨-, rfl⟩ | ⟨-, hop⟩
    · cases hreserved.targetID
      exact le_of_checkSubscriptionAction h.check (action_of_isChange hchange) t ht
    · exact hs hop hreserved hchange t ht
  | @ends _ e op' _ h =>
    rw [h.operations, lookup_insert_iff] at hop
    rcases hop with ⟨-, rfl⟩ | ⟨hne, hop⟩
    · cases (unfinished_finished e op').symm.trans hreserved.unfinished
    obtain ⟨v, hv, hlifecycles⟩ := h.lifecycle
    have huser : userID ≠ e.userID := by
      rintro rfl
      have hnamed := (finishLifecycle_ok hv).1
      rw [hg.names hop hreserved, (hg.keyed h.row).1] at hnamed
      exact hne hnamed
    have hmarks := marks_insert hlifecycles userID
    rw [if_neg huser] at hmarks
    exact hs hop hreserved hchange t (lastChangeAt_of_marks hmarks ▸ ht)
  | progresses hop' _ hunfinished eq =>
    subst eq
    rcases lookup_insert_iff.1 hop with ⟨-, rfl⟩ | ⟨-, hop⟩
    · -- What is known of the purchase changes, but not what it is.
      exact hs hop' ⟨hreserved.isAction, hreserved.targetType, hreserved.targetID, hunfinished⟩
        hchange t ht
    · exact hs hop hreserved hchange t ht
  | reviews htype hrecords hlifecycles =>
    rw [lastChangeAt_of_marks (marks_insert_self hlifecycles rfl userID)] at ht
    rw [hrecords.operations, lookup_insert_iff] at hop
    rcases hop with ⟨-, rfl⟩ | ⟨-, hop⟩
    · exact absurd hreserved (not_reserved_review htype)
    · exact hs hop hreserved hchange t ht

theorem Store.Paced.step (a : Action) : (step s a).Paced := by
  rcases effect_step s a with heq | heffect
  · rw [heq]
    exact hs
  · exact hs.effect hg heffect

/-- The changes of a run were reserved thirty days after the last one before it. -/
theorem reservedAt_changes {as : List Action} (hclock : (as.map Action.now).Pairwise (· ≤ ·))
    {t : Time} (ht : t ∈ (s.lifecycle userID).lastChangeAt) (hle : ∀ a ∈ as, t ≤ a.now) :
    ∀ c ∈ changes userID s as, t + subscriptionChangeCooldown ≤ c.reservedAt := by
  induction as generalizing s t with
  | nil => exact fun c hc => absurd hc not_mem_nil
  | cons a _ ih =>
    obtain ⟨hfirst, hclock⟩ := pairwise_cons.1 hclock
    intro c hc
    rw [changes, collect, mem_append] at hc
    cases hchange : change userID s a with
    | none =>
      rw [hchange] at hc
      refine ih (hs.step hg a) (hg.step a) hclock ?_ (fun b hb => hle b (.tail _ hb)) c
        (hc.resolve_left not_mem_nil)
      rw [lastChangeAt_step hchange]
      exact ht
    | some =>
      obtain ⟨⟨_, _, hop, hreserved, hischange, hreservedAt⟩, -, hlast⟩ :=
        change_eq_some hg hchange
      rw [hchange, mem_toList, some_inj] at hc
      rcases hc with rfl | hc
      · exact hreservedAt ▸ hs hop hreserved hischange t ht
      -- Later changes keep their distance to this one, which is not before `t`.
      have hlater := ih (hs.step hg a) (hg.step a) hclock (t := a.now) hlast
        (fun b hb => hfirst _ (List.mem_map_of_mem hb)) c hc
      have hnow := hle a (.head _)
      exact le_trans (Int.add_le_add_right hnow _) hlater

end

/-- Along every run with a clock that does not go back, a change is reserved at least
    thirty days after every change that was confirmed before it. -/
theorem changes_spaced {s : Store} (hs : s.Untouched) {as : List Action}
    (hclock : (as.map Action.now).Pairwise (· ≤ ·)) (userID : String) :
    (changes userID s as).Pairwise fun c c' =>
      c.confirmedAt + subscriptionChangeCooldown ≤ c'.reservedAt := by
  have hg : s.Gated := hs.gated
  have hp : s.Paced := fun id op userID hop h => absurd h (hs.none hop)
  clear hs
  induction as generalizing s with
  | nil => exact .nil
  | cons a _ ih =>
    obtain ⟨hfirst, hclock⟩ := pairwise_cons.1 hclock
    have htail := ih hclock (hg.step a) (hp.step hg a)
    rw [changes, collect]
    rcases hchange : change userID s a with _ | c
    · exact htail
    obtain ⟨-, hconfirmed, hlast⟩ := change_eq_some hg hchange
    refine pairwise_cons.2 ⟨?_, htail⟩
    rw [hconfirmed]
    exact reservedAt_changes (hp.step hg a) (hg.step a) hclock hlast
      fun b hb => hfirst _ (List.mem_map_of_mem hb)

/-! ## What is planned -/

/-- The plan, with its time, that a confirmed downgrade or cancellation of the account leaves. -/
def plan (userID : String) (s : Store) (a : Action) : Option (String × Option Time) :=
  (confirms userID s a).bind fun (op, e) =>
    if isPlanned op then some (e.pendingPlan, e.effectiveAt) else none

/-- The plans that the downgrades and cancellations of a run leave, in order. -/
def plans (userID : String) : Store → List Action → List (String × Option Time) :=
  collect step (plan userID)

/-- The state keeps the plan of the last downgrade or cancellation. -/
theorem pending_exec (userID : String) (s : Store) (as : List Action) :
    (((exec step s as).lifecycle userID).pendingPlanID,
      ((exec step s as).lifecycle userID).effectiveAt) =
    (plans userID s as).getLast?.getD
      ((s.lifecycle userID).pendingPlanID, (s.lifecycle userID).effectiveAt) := by
  refine eq_getLast_collect (f := fun s =>
    ((s.lifecycle userID).pendingPlanID, (s.lifecycle userID).effectiveAt)) (fun s a => ?_) s as
  refine (congrArg Prod.snd (marks_step userID s a)).trans ?_
  rw [plan]
  cases confirms userID s a with
  | none => rfl
  | some =>
    simp only [bind_some]
    split_ifs <;> rfl

omit [Unicode] in
/-- A purchase is an action of its account. -/
theorem reserved_of_purchasePending (h : purchasePending op userID) : Reserved op userID := by
  simp only [purchasePending, Bool.and_eq_true, beq_iff_eq] at h
  obtain ⟨⟨⟨htype, htarget⟩, htargetType⟩, hunfinished⟩ := h
  exact ⟨by rw [htype]; decide, htargetType, htarget, hunfinished⟩

/-- What a reservation of a new subscription (or of a purchase that is no upgrade) has to
    meet apart from the state: the account is there, the key and the identifier are new,
    and the request is of the version of the state. -/
structure NewSubscription (s : Store) (env : Env) (userID key action : String)
    (request : RawMessage) : Prop where
  user : s.byID.contains userID
  key_ne : key ≠ ""
  key_new : (s.financeOperationKeys.lookup key).getD "" = ""
  version : checkLifecyclePreviewVersion request (s.lifecycle userID).version = .ok ()
  fresh : env.uuid.val ∉ s.financeOperations
  subscribes : lifecycleAction action request = "subscribe"

/-- When no action is open, a new subscription is admitted if there is no plan. -/
theorem reserve_iff {env : Env} {key : String} {request : RawMessage}
    (h : NewSubscription s env userID key action request) (hg : s.Gated)
    (hopen : ∀ id op, s.financeOperations.lookup id = some op → ¬ Reserved op userID) :
    (∃ r, reserveSubscriptionAction env s userID key action request = .ok r) ↔
      (s.lifecycle userID).pendingPlanID = "" := by
  have hfree : (s.lifecycle userID).operationID = "" := by
    by_contra hne
    obtain ⟨op, hop, hreserved⟩ := hg.named hne
    exact hopen _ op hop hreserved
  have hpurchase : (rows s.financeOperations).any (purchasePending · userID) = false := by
    refine List.any_eq_false.2 fun op hmem hpending => ?_
    obtain ⟨id, hop⟩ := mem_rows_iff.1 hmem
    exact hopen id op hop (reserved_of_purchasePending hpending)
  have haction : action ≠ "downgrade" := by
    rintro rfl
    have hsubscribes := h.subscribes
    rw [lifecycleAction, if_pos (by decide)] at hsubscribes
    exact absurd hsubscribes (by decide)
  rw [reserveSubscriptionAction, if_neg (not_not.2 h.user), if_neg h.key_ne]
  simp only [h.key_new, ne_eq, not_true_eq_false, if_false, h.version, h.subscribes]
  by_cases hplan : (s.lifecycle userID).pendingPlanID = ""
  · simp [checkSubscriptionAction, hfree, hplan, hpurchase, haction, h.fresh]
  · simp [checkSubscriptionAction, hfree, hplan]

/-- In every history, when no action of the account is open, a new subscription is
    admitted exactly if the last downgrade or cancellation left no plan. -/
theorem admitted_iff {byID : List String} {as : List Action} {env : Env}
    {userID key action : String} {request : RawMessage}
    (h : NewSubscription (exec step { byID := byID } as) env userID key action request)
    (hopen : ∀ id op, (exec step { byID := byID } as).financeOperations.lookup id = some op →
      ¬ Reserved op userID) :
    (∃ r, reserveSubscriptionAction env (exec step { byID := byID } as) userID key action
        request = .ok r) ↔
      ∀ p ∈ (plans userID { byID := byID } as).getLast?, p.1 = "" := by
  have hg : (exec step { byID := byID } as).Gated :=
    exec_induction (P := Store.Gated) (fun _ a hs => hs.step a) (Store.untouched byID).gated as
  rw [reserve_iff h hg hopen]
  have hpending := congrArg Prod.fst (pending_exec userID { byID := byID } as)
  dsimp only at hpending
  rw [hpending]
  cases (plans userID { byID := byID } as).getLast? with
  | none => exact iff_of_true rfl nofun
  | some => simp

/-! ## Finishing again -/

/-- The call that ends an action. -/
def Ending.call (e : Ending) : Action :=
  .finishSubscriptionAction e.env e.userID e.id e.providerID e.response e.confirmed e.pendingPlan
    e.effectiveAt

/-- The operation has the outcome that the call gives, with the same response. -/
structure Ending.Repeats (e : Ending) (op : FinanceOperation) : Prop where
  targetID : op.targetID = e.userID
  targetType : op.targetType = "account"
  reference : op.providerOperationID ≠ "" → op.providerOperationID = e.providerID
  finished : unfinished op = false
  outcome : (op.status == .succeeded) = e.confirmed
  response : jsonEqual op.response (financeJSON e.response) = true

/-- A call for an outcome that is there is accepted, and changes nothing. -/
theorem call_of_repeats (hop : s.financeOperations.lookup e.id = some op) (h : e.Repeats op) :
    e.call.call s = .ok s := by
  rw [Ending.call, Action.call, finishSubscriptionAction, hop]
  simpa [h.targetID, h.targetType, h.finished, h.outcome, h.response] using h.reference

/-- After a call for the end of an action, the outcome is there, if the response can be
    decoded. -/
theorem repeats_of_call (h : e.call.call s = .ok s')
    (hdecodes : (financeJSON e.response).toAny.isSome) :
    ∃ op, s'.financeOperations.lookup e.id = some op ∧ e.Repeats op := by
  rw [Ending.call, Action.call, finishSubscriptionAction] at h
  split at h
  · cases h
  next op hop =>
  simp only [Except.guard_ok, not_or, not_and, not_not] at h
  obtain ⟨⟨htarget, htype⟩, hreference, h⟩ := h
  by_cases hunfinished : unfinished op = true
  · rw [if_neg (not_not.2 hunfinished)] at h
    split at h
    · cases h
    cases h
    refine ⟨_, AList.lookup_insert _, htarget, htype, fun _ => rfl, ?_, ?_, ?_⟩
    · exact unfinished_finished e op
    · cases e.confirmed <;> rfl
    · rw [finishedOperation, jsonEqual_self, hdecodes]
  · rw [if_pos hunfinished] at h
    simp only [Except.guard_ok, Except.ok.injEq, not_or, not_not] at h
    obtain ⟨⟨houtcome, hequal⟩, rfl⟩ := h
    exact ⟨op, hop, htarget, htype, hreference, by simpa using hunfinished, by simpa using houtcome,
      hequal⟩

/-- An operation with an outcome is not written any more. -/
theorem lookup_step_of_finished {id : String} (hop : s.financeOperations.lookup id = some op)
    (hfinished : unfinished op = false) (a : Action) :
    (step s a).financeOperations.lookup id = some op := by
  -- Another operation is written: a fresh one, or one without an outcome.
  have hother : ∀ {id' op'}, id' ∉ s.financeOperations ∨
      (∃ old, s.financeOperations.lookup id' = some old ∧ unfinished old = true) →
      (s.financeOperations.insert id' op').lookup id = some op := by
    intro id' op' hid'
    refine lookup_insert_iff.2 (.inr ⟨?_, hop⟩)
    rintro rfl
    rcases hid' with hfresh | ⟨old, hold, hunfinished⟩
    · exact hfresh (AList.lookup_isSome.1 (by rw [hop]; rfl))
    · cases hop.symm.trans hold
      cases hfinished.symm.trans hunfinished
  rcases effect_step s a with heq | heffect
  · rwa [heq]
  cases heffect with
  | repeats eq => rwa [eq]
  | reserves h => exact h.records.operations ▸ hother (.inl h.records.fresh)
  | ends _ h => exact h.operations ▸ hother (.inr ⟨_, h.row, h.unfinished⟩)
  | progresses hrow _ hunfinished eq => exact eq ▸ hother (.inr ⟨_, hrow, hunfinished⟩)
  | reviews _ hrecords => exact hrecords.operations ▸ hother (.inl hrecords.fresh)

end

/-! ## A cancellation -/

namespace Scheduled

local instance : Unicode := .ascii

/-- A call on a day, with a fresh identifier. -/
def env (day : Nat) (uuid : Uuid) : Env := { Env.sample (day * Time.day) with uuid := uuid }

def first : Uuid := ⟨"op-1", by decide, by decide⟩
def second : Uuid := ⟨"op-2", by decide, by decide⟩
def third : Uuid := ⟨"op-3", by decide, by decide⟩
def fourth : Uuid := ⟨"op-4", by decide, by decide⟩

/-- An upgrade on the first day, and a cancellation that takes effect on day 10. -/
def calls : List Action :=
  [ .reserveSubscriptionAction (env 1 first) "ann" "upgrade-1" "upgrade" .empty,
    .finishSubscriptionAction (env 1 first) "ann" "op-1" "in_1" .empty true "" none,
    .reserveSubscriptionAction (env 2 second) "ann" "cancel-1" "cancel" .empty,
    .finishSubscriptionAction (env 2 second) "ann" "op-2" "sub_1" .empty true "FREE"
      (some (10 * Time.day))]

/-- An upgrade, and a renewal that is refused first and reserved thirty days later. -/
def renewed : List Action :=
  calls.take 2 ++
    [ .reserveSubscriptionAction (env 30 second) "ann" "renewal-1" "renewal" .empty,
      .reserveSubscriptionAction (env 31 third) "ann" "renewal-2" "renewal" .empty,
      .finishSubscriptionAction (env 31 third) "ann" "op-3" "sub_1" .empty true "" none]

theorem changes_spaced_sample :
    (changes "ann" { byID := ["ann"] } renewed).map (fun c => (c.confirmedAt, c.reservedAt)) =
      [(Time.day, Time.day), (31 * Time.day, 31 * Time.day)] ∧
    (changes "ann" { byID := ["ann"] } renewed).Pairwise fun c c' =>
      c.confirmedAt + subscriptionChangeCooldown ≤ c'.reservedAt :=
  ⟨by decide +kernel, changes_spaced (Store.untouched _) (by decide +kernel) "ann"⟩

/-- When all operations are finished, no action is open. -/
theorem not_reserved_of_all {s : Store} {userID : String}
    (h : (rows s.financeOperations).all fun op => !unfinished op) :
    ∀ id op, s.financeOperations.lookup id = some op → ¬ Reserved op userID := by
  intro id op hop hreserved
  have hfinished := List.all_eq_true.1 h op (mem_rows_iff.2 ⟨id, hop⟩)
  simp [hreserved.unfinished] at hfinished

/-- A cancellation after the other, which leaves no plan. -/
def recancelled : List Action :=
  calls ++
    [ .reserveSubscriptionAction (env 3 third) "ann" "cancel-2" "cancel" .empty,
      .finishSubscriptionAction (env 3 third) "ann" "op-3" "sub_1" .empty true "" none]

/-- A subscription on day 40 is refused after the cancellation, and admitted after the
    second one. -/
theorem admitted_iff_sample :
    plans "ann" { byID := ["ann"] } calls = [("FREE", some (10 * Time.day))] ∧
    (¬ ∃ r, reserveSubscriptionAction (env 40 fourth) (exec step { byID := ["ann"] } calls) "ann"
      "sub-2" "subscribe" .empty = .ok r) ∧
    ∃ r, reserveSubscriptionAction (env 40 fourth) (exec step { byID := ["ann"] } recancelled)
      "ann" "sub-2" "subscribe" .empty = .ok r := by
  have hplans : plans "ann" { byID := ["ann"] } calls = [("FREE", some (10 * Time.day))] := by
    decide +kernel
  have hlast : plans "ann" { byID := ["ann"] } recancelled =
      [("FREE", some (10 * Time.day)), ("", none)] := by
    decide +kernel
  refine ⟨hplans, (admitted_iff ?_ (not_reserved_of_all (by decide +kernel))).not.2 ?_,
    (admitted_iff ?_ (not_reserved_of_all (by decide +kernel))).2 ?_⟩
  · constructor <;> decide +kernel
  · rw [hplans]
    decide
  · constructor <;> decide +kernel
  · rw [hlast]
    decide

/-- All operations are finished, and the cancellation took effect on day 10. On day
    100 a subscription is refused for a pending change, and so is every other one that
    is ever asked for. -/
theorem never_again : let s := exec step { byID := ["ann"] } calls
    (rows s.financeOperations).all (fun op => !unfinished op) ∧
    (s.lifecycle "ann").effectiveAt = some (10 * Time.day) ∧
    (reserveSubscriptionAction (env 100 third) s "ann" "sub-2" "subscribe" .empty).map (·.2.id) =
      .error .changePending ∧
    ∀ env key action request, NewSubscription s env "ann" key action request →
      ¬ ∃ r, reserveSubscriptionAction env s "ann" key action request = .ok r := by
  intro s
  have hfinished : (rows s.financeOperations).all (fun op => !unfinished op) := by
    decide +kernel
  refine ⟨hfinished, by decide +kernel, by decide +kernel, fun env key action request h => ?_⟩
  have hg : s.Gated :=
    exec_induction (P := Store.Gated) (fun _ a hs => hs.step a) (Store.untouched ["ann"]).gated
      calls
  rw [reserve_iff h hg (not_reserved_of_all hfinished)]
  decide +kernel

/-- The upgrade was not submitted. -/
def unsubmitted : Ending := ⟨env 2 first, "ann", "op-1", "", .empty, false, "", none⟩

end Scheduled

end Accounts.Lifecycle

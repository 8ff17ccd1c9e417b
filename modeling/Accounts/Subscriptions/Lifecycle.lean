import Accounts.Base.Check
import Accounts.Base.Run
import Accounts.Finance.Ledger

/-!
# The lifecycle of subscriptions

Whatever changes the subscription of an account at the payment provider (a purchase, a
renewal, a cancellation, a refund) is an *action*. It is reserved before the provider is
called, as an operation of the ledger, and finished when the outcome is known
(`internal/store/subscription_lifecycle.go`, `subscription_purchase.go`,
`subscription_refund_review.go`). The lifecycle state of the account names the action
that is reserved; as long as it does, no other one can be.

The state and the operations are two records, which four calls change. Along every run of
these calls, they agree (`oneAction_exec`): the state names the unfinished action of the
account, if there is one, and there is never a second.

A call holds the lock of the store, so it is one step. A fresh identifier is not one of an
operation that is there.
-/

namespace Accounts.Lifecycle

open Finance Except AList Table

/-! ## Records -/

/-- The lifecycle of the subscriptions of an account. It survives the subscriptions at the
    provider. -/
structure SubscriptionLifecycle where
  accountID : String := ""
  version : Int64 := 0
  lastChangeAt : Option Time := none
  /-- The action that is reserved. -/
  operationID : String := ""
  pendingPlanID : String := ""
  effectiveAt : Option Time := none
  /-- It is computed when the state is read, and not stored. -/
  refundReviewPending : Bool := false

/-- What happened to an operation. -/
inductive EventType
  | attemptStarted
  | attemptFinished
  | reviewRequested
  deriving DecidableEq

/-- An entry of the history of an operation. -/
structure Event where
  id : String
  operationID : String
  attempt : Int
  eventType : EventType
  status : OperationStatus
  providerOperationID : String := ""
  payload : RawMessage
  occurredAt : Time

/-- The accounts, the operations with their keys and histories, and the lifecycles. -/
structure Store where
  byID : List String
  financeOperations : Table String FinanceOperation := ∅
  financeOperationKeys : Table String String := ∅
  financeOperationEvents : Table String (List Event) := ∅
  subscriptionLifecycles : Table String SubscriptionLifecycle := ∅

/-- Why a call is refused. -/
inductive LifecycleError
  | userNotFound
  | idempotencyConflict
  | recordNotFound
  | operationInProgress
  | cooldown
  | stateConflict
  | changePending
  /-- An identifier that is not fresh. -/
  | duplicateID
  /-- A nil dereference: the call does not return. -/
  | panicked
  deriving DecidableEq

/-! ## Operations -/

section

variable (op : FinanceOperation)

/-- The operation has no outcome yet. -/
def unfinished : Bool :=
  op.status != .succeeded && op.status != .failed

/-- A purchase of the account that has no outcome yet. -/
def purchasePending (userID : String) : Bool :=
  op.operationType == "subscription_purchase" && op.targetID == userID &&
    op.targetType == "account" && unfinished op

/-- A review of a refund of the account that has no outcome yet. -/
def refundReviewPending (userID : String) : Bool :=
  op.operationType == "refund_review" && op.targetID == userID &&
    op.targetType == "account" && unfinished op

end

namespace Store

section

variable (s : Store) (userID : String)

/-- The lifecycle of an account, as it is stored. -/
def lifecycle : SubscriptionLifecycle :=
  (s.subscriptionLifecycles.lookup userID).getD {}

/-- The lifecycle of an account (`GetSubscriptionLifecycle`). -/
def getSubscriptionLifecycle : Except LifecycleError SubscriptionLifecycle :=
  if ¬ s.byID.contains userID then .error .userNotFound else
  .ok { s.lifecycle userID with
    accountID := userID
    refundReviewPending := (rows s.financeOperations).any (refundReviewPending · userID) }

/-- The purchase of an account that has no outcome yet. -/
def pendingSubscriptionPurchase : Option FinanceOperation :=
  (rows s.financeOperations).find? (purchasePending · userID)

end

/-- Appending to the history of an operation. -/
def appendEvent (s : Store) (id : String) (event : Event) : Store :=
  { s with
    financeOperationEvents := s.financeOperationEvents.insert id
      ((s.financeOperationEvents.lookup id).getD [] ++ [event]) }

end Store

/-- The time in which the plan cannot be changed again. -/
def subscriptionChangeCooldown : Int := 30 * 24 * Time.hour

/-- The end of that time. -/
def SubscriptionLifecycle.cooldownUntil (v : SubscriptionLifecycle) : Option Time :=
  v.lastChangeAt.map (· + subscriptionChangeCooldown)

/-- Whether an action may be reserved. -/
def checkSubscriptionAction (v : SubscriptionLifecycle) (action : String) (now : Time) :
    Except LifecycleError Unit :=
  if v.operationID ≠ "" then .error .operationInProgress else
  let change := action == "upgrade" || action == "downgrade" || action == "renewal"
  if action = "subscribe" ∨ change then
    if v.refundReviewPending ∧ action ≠ "subscribe" then .error .changePending else
    if v.pendingPlanID ≠ "" then .error .changePending else
    if change ∧ v.cooldownUntil.any (now < ·) then .error .cooldown else .ok ()
  else if action = "cancel" ∨ action = "refund_execute" then .ok ()
  else .error .stateConflict

section

variable [Unicode]

/-- The version in a request is the version of the state. -/
def checkLifecyclePreviewVersion (request : RawMessage) (version : Int64) :
    Except LifecycleError Unit :=
  let assign (_ : String) (v : Json) (old : Option Int64) : Option Int64 × Bool := match v with
    | .null => (none, true)
    | v => match v.assignInt64 (old.getD 0) with
      | (value, true) => (some value, true)
      | (_, false) => (old, false)
  match request with
  | .empty => .ok ()
  | request => match request.decode ["stateVersion"] assign none with
    | none => .error .stateConflict
    | some quoted => if quoted.any (· != version) then .error .stateConflict else .ok ()

/-- A purchase is an upgrade if its request says so. -/
def lifecycleAction (action : String) (request : RawMessage) : String :=
  if action ≠ "purchase" then action else
  let assign (_ : String) (v : Json) (old : String) : String × Bool := v.assignString old
  if request.decode ["action"] assign "" = some "upgrade" then "upgrade" else "subscribe"

/-- The outcome that a receipt names. What cannot be decoded is passed over. -/
def receiptOutcome (response : RawMessage) : String :=
  let assign (_ : String) (v : Json) (old : String) : String × Bool := v.assignString old
  match response with
  | .doc (.object members) => (Json.decodeMembers ["outcome"] assign ("", true) members).1
  | _ => ""

end

/-- The operation of an action. -/
def actionOperation (env : Env) (userID key action : String) (request : RawMessage) :
    FinanceOperation where
  id := env.uuid.val
  idempotencyKey := key
  operationType := "subscription_" ++ action
  targetType := "account"
  targetID := userID
  provider := "stripe"
  providerOperationID := ""
  status := .inProgress
  attemptCount := 1
  nextAttemptAt := none
  lastError := ""
  request := financeJSON request
  response := financeJSON .empty
  createdAt := env.now
  updatedAt := env.now

/-- The operation is the one of the action. -/
def sameAction (op : FinanceOperation) (userID key action : String) (request : RawMessage) : Bool :=
  op.idempotencyKey == key && op.targetID == userID && op.targetType == "account" &&
    op.operationType == "subscription_" ++ action && jsonEqual op.request (financeJSON request)

/-! ## Calls -/

section

variable [Unicode]

/-- Reserving an action. A repeated call returns the operation that is there. -/
def reserveSubscriptionAction (env : Env) (s : Store) (userID key action : String)
    (request : RawMessage) : Except LifecycleError (Store × FinanceOperation) :=
  if ¬ s.byID.contains userID then .error .userNotFound else
  if key = "" then .error .idempotencyConflict else
  let id := (s.financeOperationKeys.lookup key).getD ""
  if id ≠ "" then
    match s.financeOperations.lookup id with
    | none => .error .idempotencyConflict
    | some op =>
      if ¬ sameAction op userID key action request then .error .idempotencyConflict else
      .ok (s, { op with request := financeJSON op.request, response := financeJSON op.response })
  else
  let v := s.lifecycle userID
  match checkLifecyclePreviewVersion request v.version with
  | .error e => .error e
  | .ok () =>
    match checkSubscriptionAction v (lifecycleAction action request) env.now with
    | .error e => .error e
    | .ok () =>
      -- Operations from before there were lifecycles are looked for, too.
      if (rows s.financeOperations).any (purchasePending · userID) then
        .error .operationInProgress else
      if (lifecycleAction action request = "upgrade" ∨ action = "downgrade") ∧
          (rows s.financeOperations).any (refundReviewPending · userID) then
        .error .changePending else
      if env.uuid.val ∈ s.financeOperations then .error .duplicateID else
      let op := actionOperation env userID key action request
      .ok ({ s with
        financeOperations := s.financeOperations.insert op.id op
        financeOperationKeys := s.financeOperationKeys.insert key op.id
        subscriptionLifecycles := s.subscriptionLifecycles.insert userID
          { v with accountID := userID, operationID := op.id, version := v.version + 1 }
        }.appendEvent op.id
          { id := env.eventUUID.val
            operationID := op.id
            attempt := 1
            eventType := .attemptStarted
            status := op.status
            payload := financeJSON op.request
            occurredAt := op.createdAt }, op)

/-- The state after an action has ended. `confirmed` is a success that the provider has
    proved; what is not confirmed was never submitted. -/
def finishLifecycle (v : SubscriptionLifecycle) (op : FinanceOperation) (confirmed : Bool)
    (pendingPlan : String) (effectiveAt : Option Time) (now : Time) :
    Except LifecycleError SubscriptionLifecycle :=
  if v.operationID ≠ op.id then .error .stateConflict else
  if (pendingPlan == "") != effectiveAt.isNone then .error .stateConflict else
  if ¬ confirmed ∧ pendingPlan ≠ "" then .error .stateConflict else
  let changed := op.operationType == "subscription_renewal" ||
    op.operationType == "subscription_upgrade" || op.operationType == "subscription_downgrade" ||
    op.operationType == "subscription_purchase" && lifecycleAction "purchase" op.request == "upgrade"
  let planned := op.operationType == "subscription_downgrade" ||
    op.operationType == "subscription_cancel"
  .ok { v with
    lastChangeAt := if confirmed && changed then some now else v.lastChangeAt
    pendingPlanID := if confirmed && planned then pendingPlan else v.pendingPlanID
    effectiveAt := if confirmed && planned then effectiveAt else v.effectiveAt
    operationID := ""
    version := v.version + 1 }

/-- An operation with its outcome. -/
def finishedOperation (op : FinanceOperation) (now : Time) (providerID : String)
    (response : RawMessage) (confirmed : Bool) : FinanceOperation :=
  { op with
    status := if confirmed then .succeeded else .failed
    providerOperationID := providerID
    response := financeJSON response
    updatedAt := now }

variable (env : Env) (s : Store)

/-- Finishing an action. A repeated call has to give the outcome that is there. -/
def finishSubscriptionAction (userID id providerID : String) (response : RawMessage)
    (confirmed : Bool) (pendingPlan : String) (effectiveAt : Option Time) :
    Except LifecycleError Store :=
  match s.financeOperations.lookup id with
  | none => .error .recordNotFound
  | some op =>
    if op.targetID ≠ userID ∨ op.targetType ≠ "account" then .error .recordNotFound else
    if op.providerOperationID ≠ "" ∧ op.providerOperationID ≠ providerID then
      .error .idempotencyConflict else
    if ¬ unfinished op then
      if (op.status == .succeeded) != confirmed ∨
          ¬ jsonEqual op.response (financeJSON response) then .error .idempotencyConflict
      else .ok s
    else
    match finishLifecycle (s.lifecycle userID) op confirmed pendingPlan effectiveAt env.now with
    | .error e => .error e
    | .ok v =>
      let finished := finishedOperation op env.now providerID response confirmed
      .ok ({ s with
        financeOperations := s.financeOperations.insert id finished
        subscriptionLifecycles := s.subscriptionLifecycles.insert userID v }.appendEvent id
          { id := env.eventUUID.val
            operationID := id
            attempt := op.attemptCount
            eventType := .attemptFinished
            status := finished.status
            providerOperationID := providerID
            payload := financeJSON response
            occurredAt := env.now })

/-- What is known of a purchase after a call of the provider. With `complete`, it is
    finished, as a success if the receipt says that it was confirmed. -/
def updateSubscriptionPurchase (id providerID : String) (response : RawMessage) (complete : Bool) :
    Except LifecycleError Store :=
  if complete then
    let userID := ((s.financeOperations.lookup id).map (·.targetID)).getD ""
    if userID = "" then .error .recordNotFound else
    finishSubscriptionAction env s userID id providerID response
      (receiptOutcome response == "webhook_confirmed") "" none
  else
  match s.financeOperations.lookup id with
  | none => .error .recordNotFound
  | some op =>
    if op.operationType ≠ "subscription_purchase" then .error .recordNotFound else
    if op.providerOperationID ≠ "" ∧ op.providerOperationID ≠ providerID then
      .error .idempotencyConflict else
    if ¬ unfinished op then .ok s else
    .ok { s with
      financeOperations := s.financeOperations.insert id { op with
          providerOperationID := providerID
          response := financeJSON response
          status := .reconciliationRequired
          updatedAt := env.now } }

end

/-- A request for the review of a refund. -/
def validReview (op : FinanceOperation) : Bool :=
  op.operationType == "refund_review" && op.targetType == "account" && op.targetID != "" &&
    op.provider == "stripe" &&
    op.idempotencyKey == "subscription-refund-review:" ++ op.targetID

/-- Recording a request for the review of a refund. It is not an action: the state does not
    name it. -/
def createSubscriptionRefundReview (env : Env) (s : Store) (op : FinanceOperation)
    (expectedVersion : Int64) : Except LifecycleError (Store × FinanceOperation) :=
  if ¬ validReview op then .error .idempotencyConflict else
  if ¬ s.byID.contains op.targetID then .error .userNotFound else
  let id := (s.financeOperationKeys.lookup op.idempotencyKey).getD ""
  if id ≠ "" then
    match s.financeOperations.lookup id with
    | none => .error .panicked
    | some saved => .ok (s, { saved with request := financeJSON saved.request })
  else
  let v := s.lifecycle op.targetID
  if v.operationID ≠ "" ∨ v.version ≠ expectedVersion then .error .stateConflict else
  if (rows s.financeOperations).any (purchasePending · op.targetID) then
    .error .operationInProgress else
  if env.uuid.val ∈ s.financeOperations then .error .duplicateID else
  let copy := { op with
    id := env.uuid.val
    request := financeJSON op.request
    response := financeJSON .empty
    status := .inProgress
    attemptCount := 1
    createdAt := env.now
    updatedAt := env.now }
  .ok ({ s with
    financeOperations := s.financeOperations.insert copy.id copy
    financeOperationKeys := s.financeOperationKeys.insert copy.idempotencyKey copy.id
    subscriptionLifecycles := s.subscriptionLifecycles.insert op.targetID
      { v with accountID := op.targetID, version := v.version + 1 } }.appendEvent copy.id
        { id := env.eventUUID.val
          operationID := copy.id
          attempt := 1
          eventType := .reviewRequested
          status := copy.status
          payload := financeJSON copy.request
          occurredAt := env.now }, copy)

/-! ## Runs -/

/-- A call, with what it reads from outside. -/
inductive Action
  | reserveSubscriptionAction (env : Env) (userID key action : String) (request : RawMessage)
  | finishSubscriptionAction (env : Env) (userID id providerID : String) (response : RawMessage)
      (confirmed : Bool) (pendingPlan : String) (effectiveAt : Option Time)
  | updateSubscriptionPurchase (env : Env) (id providerID : String) (response : RawMessage)
      (complete : Bool)
  | createSubscriptionRefundReview (env : Env) (op : FinanceOperation) (expectedVersion : Int64)

section

variable [Unicode]

/-- A call on the store. -/
def Action.call (s : Store) : Action → Except LifecycleError Store
  | .reserveSubscriptionAction env userID key action request =>
    (Lifecycle.reserveSubscriptionAction env s userID key action request).map Prod.fst
  | .finishSubscriptionAction env userID id providerID response confirmed pendingPlan effectiveAt =>
    Lifecycle.finishSubscriptionAction env s userID id providerID response confirmed pendingPlan
      effectiveAt
  | .updateSubscriptionPurchase env id providerID response complete =>
    Lifecycle.updateSubscriptionPurchase env s id providerID response complete
  | .createSubscriptionRefundReview env op expectedVersion =>
    (Lifecycle.createSubscriptionRefundReview env s op expectedVersion).map Prod.fst

/-- A call that is refused changes nothing. -/
def step (s : Store) (a : Action) : Store := (a.call s).toOption.getD s

end

/-! ## The state and the operations -/

/-- An action of an account that has no outcome yet. -/
structure Reserved (op : FinanceOperation) (userID : String) : Prop where
  isAction : Text.hasPrefix op.operationType "subscription_" = true
  targetType : op.targetType = "account"
  targetID : op.targetID = userID
  unfinished : unfinished op = true

/-- The account has at most one action that has no outcome. Its state names an operation
    exactly if there is such an action, and then names this one. -/
structure Store.OneAction (s : Store) (userID : String) : Prop where
  unique : ∀ {id id' op op'}, s.financeOperations.lookup id = some op → Reserved op userID →
    s.financeOperations.lookup id' = some op' → Reserved op' userID → id = id'
  named : (s.lifecycle userID).operationID ≠ "" ↔
    ∃ id op, s.financeOperations.lookup id = some op ∧ Reserved op userID
  names : ∀ {id op}, s.financeOperations.lookup id = some op → Reserved op userID →
    (s.lifecycle userID).operationID = id

/-! ## What calls write -/

/-- A new operation is recorded, under a fresh identifier and a new key. -/
structure Records (s s' : Store) (op : FinanceOperation) : Prop where
  fresh : op.id ∉ s.financeOperations
  id_ne : op.id ≠ ""
  newKey : (s.financeOperationKeys.lookup op.idempotencyKey).getD "" = ""
  operations : s'.financeOperations = s.financeOperations.insert op.id op
  keys : s'.financeOperationKeys = s.financeOperationKeys.insert op.idempotencyKey op.id

/-- The lifecycles after one of them was written. -/
theorem lifecycle_insert {s s' : Store} {userID : String} {v : SubscriptionLifecycle}
    (h : s'.subscriptionLifecycles = s.subscriptionLifecycles.insert userID v) (user : String) :
    s'.lifecycle user = if user = userID then v else s.lifecycle user := by
  rw [Store.lifecycle, Store.lifecycle, h]
  split_ifs with heq
  · rw [heq, lookup_insert]
    rfl
  · rw [lookup_insert_ne heq]

variable {action : String}

section

variable [Unicode]

/-- A new action is recorded, after its checks, and the state of the account names it. -/
structure Reserves (env : Env) (s s' : Store) (userID key action : String)
    (request : RawMessage) : Prop where
  user : s.byID.contains userID = true
  version : checkLifecyclePreviewVersion request (s.lifecycle userID).version = .ok ()
  check : checkSubscriptionAction (s.lifecycle userID) (lifecycleAction action request) env.now =
    .ok ()
  review : (lifecycleAction action request = "upgrade" ∨ action = "downgrade") →
    (rows s.financeOperations).any (refundReviewPending · userID) = false
  records : Records s s' (actionOperation env userID key action request)
  lifecycles : s'.subscriptionLifecycles = s.subscriptionLifecycles.insert userID
    { s.lifecycle userID with
      accountID := userID
      operationID := env.uuid.val
      version := (s.lifecycle userID).version + 1 }
  events : s'.financeOperationEvents = (s.appendEvent env.uuid.val
    { id := env.eventUUID.val
      operationID := env.uuid.val
      attempt := 1
      eventType := .attemptStarted
      status := .inProgress
      payload := financeJSON (financeJSON request)
      occurredAt := env.now }).financeOperationEvents

/-- What an action is ended with. -/
structure Ending where
  env : Env
  userID : String
  id : String
  providerID : String
  response : RawMessage
  confirmed : Bool
  pendingPlan : String
  effectiveAt : Option Time

/-- The operation of an action after its end. -/
def Ending.finished (e : Ending) (op : FinanceOperation) : FinanceOperation :=
  finishedOperation op e.env.now e.providerID e.response e.confirmed

/-- An action that had no outcome is ended. -/
structure Ends (e : Ending) (s s' : Store) (op : FinanceOperation) : Prop where
  row : s.financeOperations.lookup e.id = some op
  unfinished : unfinished op = true
  reference : op.providerOperationID ≠ "" → op.providerOperationID = e.providerID
  operations : s'.financeOperations = s.financeOperations.insert e.id (e.finished op)
  keys : s'.financeOperationKeys = s.financeOperationKeys
  lifecycle : ∃ v, finishLifecycle (s.lifecycle e.userID) op e.confirmed e.pendingPlan
      e.effectiveAt e.env.now = .ok v ∧
    s'.subscriptionLifecycles = s.subscriptionLifecycles.insert e.userID v
  events : s'.financeOperationEvents = (s.appendEvent e.id
    { id := e.env.eventUUID.val
      operationID := e.id
      attempt := op.attemptCount
      eventType := .attemptFinished
      status := (e.finished op).status
      providerOperationID := e.providerID
      payload := financeJSON e.response
      occurredAt := e.env.now }).financeOperationEvents

/-- An operation that is not finished, after a call of the provider. -/
def progressed (op : FinanceOperation) (now : Time) (providerID : String) (response : RawMessage) :
    FinanceOperation :=
  { op with
    providerOperationID := providerID
    response := financeJSON response
    status := .reconciliationRequired
    updatedAt := now }

/-- The operation of a review. -/
def reviewOperation (env : Env) (op : FinanceOperation) : FinanceOperation :=
  { op with
    id := env.uuid.val
    request := financeJSON op.request
    response := financeJSON .empty
    status := .inProgress
    attemptCount := 1
    createdAt := env.now
    updatedAt := env.now }

/-- The end of an action that a call is for. A purchase is ended through its receipt. -/
def Action.ending (s : Store) : Action → Option Ending
  | .finishSubscriptionAction env userID id providerID response confirmed pendingPlan effectiveAt =>
    some ⟨env, userID, id, providerID, response, confirmed, pendingPlan, effectiveAt⟩
  | .updateSubscriptionPurchase env id providerID response complete =>
    if complete then
      some ⟨env, ((s.financeOperations.lookup id).map (·.targetID)).getD "", id, providerID,
        response, receiptOutcome response == "webhook_confirmed", "", none⟩
    else none
  | _ => none

/-- The key of the operation that a call asks for. -/
def Action.key : Action → Option String
  | .reserveSubscriptionAction _ _ key _ _ => some key
  | .createSubscriptionRefundReview _ op _ => some op.idempotencyKey
  | _ => none

/-- What an accepted call does. -/
inductive Effect (s s' : Store) : Action → Prop
  /-- What the call is for was done before. -/
  | repeats {a : Action} (eq : s' = s)
      (known : ∀ key ∈ a.key, (s.financeOperationKeys.lookup key).getD "" ≠ "")
      (ended : ∀ e ∈ a.ending s, ∀ op ∈ s.financeOperations.lookup e.id, unfinished op = false) :
      Effect s s' a
  | reserves {env : Env} {userID key action : String} {request : RawMessage}
      (h : Reserves env s s' userID key action request) :
      Effect s s' (.reserveSubscriptionAction env userID key action request)
  | ends {a : Action} {e : Ending} {op : FinanceOperation} (ending : a.ending s = some e)
      (h : Ends e s s' op) : Effect s s' a
  /-- What is known of a purchase is recorded. -/
  | progresses {env : Env} {id providerID : String} {response : RawMessage} {op : FinanceOperation}
      (row : s.financeOperations.lookup id = some op)
      (type : op.operationType = "subscription_purchase") (unfinished : unfinished op = true)
      (eq : s' = { s with
        financeOperations := s.financeOperations.insert id
          (progressed op env.now providerID response) }) :
      Effect s s' (.updateSubscriptionPurchase env id providerID response false)
  | reviews {env : Env} {op : FinanceOperation} {expectedVersion : Int64}
      (type : op.operationType = "refund_review") (records : Records s s' (reviewOperation env op))
      (lifecycles : s'.subscriptionLifecycles = s.subscriptionLifecycles.insert op.targetID
        { s.lifecycle op.targetID with
          accountID := op.targetID
          version := (s.lifecycle op.targetID).version + 1 })
      (events : s'.financeOperationEvents = (s.appendEvent env.uuid.val
        { id := env.eventUUID.val
          operationID := env.uuid.val
          attempt := 1
          eventType := .reviewRequested
          status := .inProgress
          payload := financeJSON (financeJSON op.request)
          occurredAt := env.now }).financeOperationEvents)
      (free : (s.lifecycle op.targetID).operationID = "")
      (version : (s.lifecycle op.targetID).version = expectedVersion) :
      Effect s s' (.createSubscriptionRefundReview env op expectedVersion)

variable {env : Env} {s s' : Store} {a : Action} {e : Ending} {userID : String}
  {op : FinanceOperation}

/-- A reservation is the one that is there, or a new one. -/
theorem reserveSubscriptionAction_cases {key : String} {request : RawMessage}
    (h : reserveSubscriptionAction env s userID key action request = .ok (s', op)) :
    ((s.financeOperationKeys.lookup key).getD "" ≠ "" ∧ s' = s) ∨
      (op = actionOperation env userID key action request ∧
        Reserves env s s' userID key action request) := by
  simp only [reserveSubscriptionAction, guard_ok] at h
  obtain ⟨huser, -, h⟩ := h
  by_cases hkey : (s.financeOperationKeys.lookup key).getD "" ≠ ""
  · left
    rw [if_pos hkey] at h
    split at h
    · cases h
    simp only [guard_ok, ok.injEq, Prod.mk.injEq] at h
    exact ⟨hkey, h.2.1.symm⟩
  · right
    rw [if_neg hkey] at h
    split at h
    · cases h
    next hversion =>
    split at h
    · cases h
    next hcheck =>
    simp only [guard_ok] at h
    obtain ⟨-, hreview, hfresh, h⟩ := h
    cases h
    exact ⟨rfl, not_not.1 huser, hversion, hcheck, fun haction => by simpa [haction] using
      hreview, ⟨hfresh, env.uuid.nonempty, not_not.1 hkey, rfl, rfl⟩, rfl, rfl⟩

/-- Finishing changes nothing, or ends the action with its outcome. -/
theorem finishSubscriptionAction_cases (e : Ending)
    (h : finishSubscriptionAction e.env s e.userID e.id e.providerID e.response e.confirmed
      e.pendingPlan e.effectiveAt = .ok s') :
    ∃ op, s.financeOperations.lookup e.id = some op ∧
      ((unfinished op = false ∧ s' = s) ∨ Ends e s s' op) := by
  rw [finishSubscriptionAction] at h
  split at h
  · cases h
  next op hop =>
  simp only [guard_ok] at h
  obtain ⟨-, hprovider, h⟩ := h
  refine ⟨op, hop, ?_⟩
  by_cases hunfinished : unfinished op = true
  · rw [if_neg (not_not.2 hunfinished)] at h
    split at h
    · cases h
    next v hv =>
    cases h
    exact .inr ⟨hop, hunfinished, fun hne => by_contra fun h => hprovider ⟨hne, h⟩, rfl, rfl,
      ⟨v, hv, rfl⟩, rfl⟩
  · rw [if_pos hunfinished] at h
    simp only [guard_ok, ok.injEq] at h
    exact .inl ⟨by simpa using hunfinished, h.2.symm⟩

/-- A call for the end of an action is that end. -/
theorem call_of_ending (he : a.ending s = some e) (h : a.call s = .ok s') :
    finishSubscriptionAction e.env s e.userID e.id e.providerID e.response e.confirmed e.pendingPlan
      e.effectiveAt = .ok s' := by
  cases a with
  | finishSubscriptionAction =>
    cases he
    exact h
  | updateSubscriptionPurchase =>
    rw [Action.ending] at he
    split_ifs at he with hcomplete
    cases he
    rw [Action.call, Lifecycle.updateSubscriptionPurchase, if_pos hcomplete] at h
    exact (guard_ok.1 h).2
  | _ => cases he

/-- The end of an action, unless it was ended before. -/
theorem effect_of_ending (he : a.ending s = some e) (hkey : a.key = none)
    (h : a.call s = .ok s') : Effect s s' a := by
  obtain ⟨_, hop, ⟨hfinished, hs⟩ | hends⟩ :=
    finishSubscriptionAction_cases e (call_of_ending he h)
  · refine .repeats hs (by simp [hkey]) ?_
    rintro e' he' op' hop'
    cases he.symm.trans he'
    cases hop.symm.trans hop'
    exact hfinished
  · exact .ends he hends

/-- An accepted call has one of the effects. -/
theorem effect_of_call (h : a.call s = .ok s') : Effect s s' a := by
  cases a with
  | reserveSubscriptionAction =>
    obtain ⟨⟨s₁, op⟩, hreserve, rfl⟩ := map_eq_ok.1 h
    rcases reserveSubscriptionAction_cases hreserve with ⟨hkey, hs⟩ | ⟨-, hreserves⟩
    · exact .repeats hs (by rintro _ ⟨⟩; exact hkey) (fun _ he => by cases he)
    · exact .reserves hreserves
  | finishSubscriptionAction => exact effect_of_ending rfl rfl h
  | updateSubscriptionPurchase _ _ _ _ complete =>
    cases complete with
    | true => exact effect_of_ending rfl rfl h
    | false =>
      rw [Action.call, Lifecycle.updateSubscriptionPurchase, if_neg Bool.false_ne_true] at h
      split at h
      · cases h
      next op hop =>
      simp only [guard_ok] at h
      obtain ⟨htype, -, h⟩ := h
      split_ifs at h with hunfinished
      · exact .progresses hop (not_not.1 htype) hunfinished (ok.inj h).symm
      · exact .repeats (ok.inj h).symm (fun _ hkey => by cases hkey)
          (fun _ he => by cases he)
  | createSubscriptionRefundReview env op =>
    obtain ⟨⟨s₁, _⟩, hcreate, rfl⟩ := map_eq_ok.1 h
    simp only [Lifecycle.createSubscriptionRefundReview, guard_ok] at hcreate
    obtain ⟨hvalid, -, h⟩ := hcreate
    by_cases hkey : (s.financeOperationKeys.lookup op.idempotencyKey).getD "" ≠ ""
    · rw [if_pos hkey] at h
      split at h
      · cases h
      cases h
      exact .repeats rfl (by rintro _ ⟨⟩; exact hkey) (fun _ he => by cases he)
    · rw [if_neg hkey] at h
      simp only [guard_ok, not_or, not_not] at h
      obtain ⟨hstate, -, hfresh, h⟩ := h
      cases h
      simp only [validReview, Bool.and_eq_true, beq_iff_eq, not_not] at hvalid
      exact .reviews hvalid.1.1.1.1 ⟨hfresh, env.uuid.nonempty, not_not.1 hkey, rfl, rfl⟩ rfl rfl
        hstate.1 hstate.2

/-- A call that is refused changes nothing. -/
theorem effect_step (s : Store) (a : Action) : step s a = s ∨ Effect s (step s a) a := by
  rw [step]
  cases h : a.call s with
  | error => exact .inl rfl
  | ok => exact .inr (effect_of_call h)

end

/-! ## The gate -/

/-- The operations are kept under their identifiers, and the states agree with them. -/
structure Store.Gated (s : Store) : Prop where
  keyed : ∀ {id op}, s.financeOperations.lookup id = some op → op.id = id ∧ id ≠ ""
  names : ∀ {id op userID}, s.financeOperations.lookup id = some op → Reserved op userID →
    (s.lifecycle userID).operationID = id
  named : ∀ {userID}, (s.lifecycle userID).operationID ≠ "" → ∃ op,
    s.financeOperations.lookup (s.lifecycle userID).operationID = some op ∧ Reserved op userID

namespace Store.Gated

variable {s : Store}

/-- What the accounts see of it. -/
theorem oneAction (h : s.Gated) (userID : String) : s.OneAction userID where
  unique hop hreserved hop' hreserved' := (h.names hop hreserved).symm.trans (h.names hop' hreserved')
  named := by
    constructor
    · intro hne
      obtain ⟨op, hop, hreserved⟩ := h.named hne
      exact ⟨_, op, hop, hreserved⟩
    · rintro ⟨_, op, hop, hreserved⟩
      rw [h.names hop hreserved]
      exact (h.keyed hop).2
  names := h.names

variable {s' : Store} {op : FinanceOperation} {id : String}

/-- No state names an operation that is not there. -/
theorem operationID_ne (h : s.Gated) (hid : id ∉ s.financeOperations) (hne : id ≠ "")
    (user : String) : (s.lifecycle user).operationID ≠ id := by
  rintro rfl
  obtain ⟨_, hop, -⟩ := h.named hne
  exact hid (mem_of_lookup hop)

/-- An operation is written. It is named by the states of the accounts whose action it is, and
    the others name what they named. -/
theorem writes (h : s.Gated)
    (hoperations : s'.financeOperations = s.financeOperations.insert id op) (hid : op.id = id)
    (hne : id ≠ "")
    (hself : ∀ user, Reserved op user ↔ (s'.lifecycle user).operationID = id)
    (hothers : ∀ user i, i ≠ id → i ≠ "" →
      ((s'.lifecycle user).operationID = i ↔ (s.lifecycle user).operationID = i)) : s'.Gated where
  keyed := by
    intro i o ho
    rw [hoperations, lookup_insert_iff] at ho
    rcases ho with ⟨rfl, rfl⟩ | ⟨-, ho⟩
    · exact ⟨hid, hne⟩
    · exact h.keyed ho
  names := by
    intro i o user ho hreserved
    rw [hoperations, lookup_insert_iff] at ho
    rcases ho with ⟨rfl, rfl⟩ | ⟨hi, ho⟩
    · exact (hself user).1 hreserved
    · exact (hothers user i hi (h.keyed ho).2).2 (h.names ho hreserved)
  named := by
    intro user hnamed
    rw [hoperations]
    by_cases hi : (s'.lifecycle user).operationID = id
    · exact ⟨op, by rw [hi, lookup_insert], (hself user).2 hi⟩
    · have hbefore := (hothers user _ hi hnamed).1 rfl
      obtain ⟨o, ho, hreserved⟩ := h.named (hbefore ▸ hnamed)
      exact ⟨o, by rw [lookup_insert_ne hi, ← hbefore]; exact ho, hreserved⟩

end Store.Gated

/-- The new operation of an action is reserved. -/
theorem reserved_actionOperation (env : Env) (userID key action : String) (request : RawMessage) :
    Reserved (actionOperation env userID key action request) userID :=
  ⟨Text.hasPrefix_append _ _, rfl, rfl, rfl⟩

/-- A review is no action. -/
theorem not_reserved_review {op : FinanceOperation} {userID : String}
    (h : op.operationType = "refund_review") : ¬ Reserved op userID := by
  intro hreserved
  have haction := hreserved.isAction
  rw [h] at haction
  exact absurd haction (by decide)

/-- An action is ended with an outcome. -/
theorem unfinished_finished (e : Ending) (op : FinanceOperation) :
    unfinished (e.finished op) = false := by
  rw [Ending.finished]
  cases e.confirmed <;> rfl

section

variable [Unicode] {s s' : Store} {a : Action}

theorem Reserves.gated {env : Env} {userID key : String} {request : RawMessage}
    (h : Reserves env s s' userID key action request) (hs : s.Gated) : s'.Gated := by
  -- The action was reserved as the state named none.
  have hcheck := h.check
  simp only [checkSubscriptionAction, guard_ok] at hcheck
  have hfree := not_not.1 hcheck.1
  refine hs.writes h.records.operations rfl h.records.id_ne (fun user => ?_) fun user i hi hne => ?_
  all_goals rw [lifecycle_insert h.lifecycles user]; split_ifs with huser
  · rw [huser]
    exact iff_of_true (reserved_actionOperation env userID key action request) rfl
  · refine iff_of_false (fun hreserved => huser hreserved.targetID.symm) ?_
    exact hs.operationID_ne h.records.fresh h.records.id_ne user
  · rw [huser, hfree]
    exact iff_of_false (Ne.symm hi) (Ne.symm hne)
  · exact Iff.rfl

theorem Ends.gated {e : Ending} {op : FinanceOperation} (h : Ends e s s' op) (hs : s.Gated) :
    s'.Gated := by
  obtain ⟨v, hv, hlifecycles⟩ := h.lifecycle
  obtain ⟨hid, hne⟩ := hs.keyed h.row
  simp only [finishLifecycle, guard_ok] at hv
  obtain ⟨hnamed, -, -, hv⟩ := hv
  have hfree : v.operationID = "" := by rw [← ok.inj hv]
  rw [not_not, hid] at hnamed
  have hnot : ∀ user, ¬ Reserved (e.finished op) user := fun user hreserved => by
    cases (unfinished_finished e op).symm.trans hreserved.unfinished
  refine hs.writes h.operations hid hne (fun user => ?_) fun user i hi hne' => ?_
  all_goals rw [lifecycle_insert hlifecycles user]; split_ifs with huser
  · rw [hfree]
    exact iff_of_false (hnot user) (Ne.symm hne)
  · refine iff_of_false (hnot user) fun hother => huser ?_
    -- The action is of one account.
    have hthis := hs.named (hnamed.trans_ne hne)
    have hother' := hs.named (hother.trans_ne hne)
    rw [hnamed, h.row] at hthis
    rw [hother, h.row] at hother'
    obtain ⟨⟨_, ⟨⟩, hthis⟩, _, ⟨⟩, hother'⟩ := And.intro hthis hother'
    exact hother'.targetID.symm.trans hthis.targetID
  · rw [huser, hnamed, hfree]
    exact iff_of_false (Ne.symm hne') (Ne.symm hi)
  · exact Iff.rfl

/-- An accepted call keeps the agreement. -/
theorem Effect.gated (h : Effect s s' a) (hs : s.Gated) : s'.Gated := by
  cases h with
  | repeats eq => exact eq ▸ hs
  | reserves h | ends _ h => exact h.gated hs
  | progresses hop _ hunfinished eq =>
    subst eq
    refine hs.writes rfl (hs.keyed hop).1 (hs.keyed hop).2 (fun user => ⟨fun hreserved => ?_,
      fun hnamed => ?_⟩) fun _ _ _ _ => Iff.rfl
    · exact hs.names hop ⟨hreserved.1, hreserved.2, hreserved.3, hunfinished⟩
    · obtain ⟨o, ho, hreserved⟩ := hs.named (hnamed.trans_ne (hs.keyed hop).2)
      cases hop.symm.trans (hnamed ▸ ho)
      exact ⟨hreserved.1, hreserved.2, hreserved.3, rfl⟩
  | @reviews env op _ htype hrecords hlifecycles =>
    have hstate : ∀ user, (s'.lifecycle user).operationID = (s.lifecycle user).operationID := by
      intro _
      rw [lifecycle_insert hlifecycles]
      split_ifs with huser
      · rw [huser]
      · rfl
    refine hs.writes hrecords.operations rfl hrecords.id_ne
      (fun user => iff_of_false (not_reserved_review htype) ?_) fun user i _ _ => by rw [hstate]
    rw [hstate]
    exact hs.operationID_ne hrecords.fresh hrecords.id_ne user

/-- Every call keeps the agreement. -/
theorem Store.Gated.step (hs : s.Gated) (a : Action) : (step s a).Gated := by
  rcases effect_step s a with heq | heffect
  · rw [heq]
    exact hs
  · exact heffect.gated hs

end

/-- No action is reserved yet: operations of other kinds, and actions that are finished, may
    be there, under their identifiers. -/
structure Store.Untouched (s : Store) : Prop where
  keyed : ∀ {id op}, s.financeOperations.lookup id = some op → op.id = id ∧ id ≠ ""
  none : ∀ {id op userID}, s.financeOperations.lookup id = some op → ¬ Reserved op userID
  free : ∀ userID, (s.lifecycle userID).operationID = ""

theorem Store.Untouched.gated {s : Store} (hs : s.Untouched) : s.Gated :=
  ⟨hs.keyed, fun hop h => absurd h (hs.none hop), fun h => absurd (hs.free _) h⟩

theorem Store.untouched (byID : List String) : Store.Untouched { byID := byID } :=
  ⟨nofun, nofun, fun _ => rfl⟩

/-- Along every run of the calls, every account has at most one action without an outcome,
    and its state names an operation exactly if there is one, and then this one. -/
theorem oneAction_exec [Unicode] {s : Store} (hs : s.Untouched) (as : List Action)
    (userID : String) : (Run.exec step s as).OneAction userID := by
  have hgated : (Run.exec step s as).Gated :=
    Run.exec_induction (P := Store.Gated) (fun _ a h => h.step a) hs.gated as
  exact hgated.oneAction userID

/-! ## A purchase and a cancellation -/

namespace Sample

local instance : Unicode := .ascii

/-- A purchase is reserved. It is sent to the provider, so that a cancellation is refused,
    until the purchase is found expired. -/
def calls : List Action :=
  [ .reserveSubscriptionAction (.sample 0) "ann" "purchase-1" "purchase" .empty,
    .reserveSubscriptionAction (.sample 0) "ann" "cancel-1" "cancel" .empty,
    .updateSubscriptionPurchase (.sample 1) "uuid" "cs_1" .empty false,
    .updateSubscriptionPurchase (.sample 2) "uuid" "cs_1"
      (.doc (.object [("outcome", .string "expired")])) true]

/-- The state names the purchase as long as it is not finished. -/
theorem oneAction_exec_sample :
    ((Run.exec step { byID := ["ann"] } (calls.take 3)).lifecycle "ann").operationID = "uuid" ∧
      ((Run.exec step { byID := ["ann"] } calls).lifecycle "ann").operationID = "" ∧
      (Run.exec step { byID := ["ann"] } calls).OneAction "ann" :=
  ⟨by decide +kernel, by decide +kernel, oneAction_exec (Store.untouched _) calls "ann"⟩

end Sample

end Accounts.Lifecycle

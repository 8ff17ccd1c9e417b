import Accounts.Base.Journal
import Accounts.Finance.WellFormed
import Accounts.Subscriptions.Changes

/-!
# The audit trail of the operations

An operation is the projection of its attempts; every start and every result of an attempt
is also appended to the events of the operation (`internal/store/store.go`). The operations
are written by the ledger and by the lifecycle of the subscriptions, which share one store
(`Store`).

* `replay`: what the events of an operation add up to;
* `Tells`: an event tells what a write does to an operation, so that the events go on to
  determine it (`Trail.tells`);
* `Store.Sound.afterLedger`, `Store.Sound.afterLifecycle`: what the calls write is told by
  their events, if they are *audited* (`Action.Audited`). One call writes an operation
  without an event: a purchase that is not complete becomes `reconcile_needed`, with its
  reference at the provider (`updateSubscriptionPurchase`);
* `operations_determined`: in every run of audited calls, the events of every operation
  determine it.

A call reads no events. It is run on a store without any, and those that it leaves are
appended to the history.
-/

namespace Accounts.AuditTrail

open Finance Text Except List Lifecycle Run

/-! ## Events -/

/-- What happened to an operation, as the ledger or as the lifecycle has it. -/
inductive EventType
  | ledger (eventType : Finance.EventType)
  | lifecycle (eventType : Lifecycle.EventType)
  deriving DecidableEq

namespace EventType

/-- An attempt is started, or a review is requested. -/
def starts : EventType → Bool
  | ledger .attemptStarted => true
  | lifecycle .attemptStarted => true
  | lifecycle .reviewRequested => true
  | _ => false

/-- An attempt is finished. -/
def finishes : EventType → Bool
  | ledger (.attemptFinished _) => true
  | lifecycle .attemptFinished => true
  | _ => false

end EventType

/-- An entry of the history of an operation. -/
structure Event where
  id : String
  operationID : String
  attempt : Int
  eventType : EventType
  status : OperationStatus
  providerOperationID : String
  payload : RawMessage
  error : String
  occurredAt : Time

/-- An event of the ledger. -/
def Event.ofLedger (e : FinanceOperationEvent) : Event :=
  { e with eventType := .ledger e.eventType }

/-- An event of the lifecycle. It has no error. -/
def Event.ofLifecycle (e : Lifecycle.Event) : Event :=
  { e with eventType := .lifecycle e.eventType, error := "" }

/-! ## The store -/

/-- The store: what the ledger keeps, the lifecycles, and the history of the operations. -/
structure Store where
  ledger : Finance.Store
  subscriptionLifecycles : Table String Lifecycle.SubscriptionLifecycle := ∅
  financeOperationEvents : Table String (List Event) := ∅

namespace Store

/-- A store with accounts and subscriptions, and no financial record. -/
def init (byID : List String) (subscriptions : Table String (List SubscriptionRef)) : Store where
  ledger := .init byID subscriptions

variable (s : Store)

/-- The operation with an identifier. -/
def operation (id : String) : Option FinanceOperation :=
  s.ledger.financeOperations.lookup id

/-- The events of an operation. -/
def events (id : String) : List Event := Journal.of s.financeOperationEvents id

/-- What a call of the ledger sees. -/
def forLedger : Finance.Store := { s.ledger with financeOperationEvents := ∅ }

/-- What a call of the lifecycle sees. -/
def forLifecycle : Lifecycle.Store where
  byID := s.ledger.byID
  financeOperations := s.ledger.financeOperations
  financeOperationKeys := s.ledger.financeOperationKeys
  subscriptionLifecycles := s.subscriptionLifecycles

/-- What a call of the ledger leaves. -/
def afterLedger (ledger : Finance.Store) : Store :=
  { s with
    ledger := ledger
    financeOperationEvents := Journal.append s.financeOperationEvents
      (ledger.financeOperationEvents.mapRows fun _ => List.map Event.ofLedger) }

/-- What a call of the lifecycle leaves. -/
def afterLifecycle (lifecycle : Lifecycle.Store) : Store where
  ledger :=
    { s.ledger with
      financeOperations := lifecycle.financeOperations
      financeOperationKeys := lifecycle.financeOperationKeys }
  subscriptionLifecycles := lifecycle.subscriptionLifecycles
  financeOperationEvents := Journal.append s.financeOperationEvents
    (lifecycle.financeOperationEvents.mapRows fun _ => List.map Event.ofLifecycle)

end Store

/-- A call of the ledger or of the lifecycle. -/
inductive Action
  | ledger (call : Finance.Call)
  | lifecycle (call : Lifecycle.Action)

section

variable [Unicode]

/-- A call that is refused changes nothing. -/
def step (s : Store) : Action → Store
  | .ledger call => ((call.exec s.forLedger).toOption.map s.afterLedger).getD s
  | .lifecycle call => ((call.call s.forLifecycle).toOption.map s.afterLifecycle).getD s

end

/-! ## Replaying the events -/

/-- How far an operation has come. -/
structure Progress where
  status : OperationStatus := .pending
  reference : String := ""
  attempts : Int := 0
  deriving DecidableEq

/-- The attempt is not finished. -/
def Progress.Open (p : Progress) : Prop := p.status = .inProgress ∨ p.status = .pending

/-- An event moves an operation on. The events that start an attempt have no reference at the
    provider: it stays the one that was known. -/
def Event.apply (p : Progress) (e : Event) : Progress where
  status := e.status
  reference := if e.providerOperationID = "" then p.reference else e.providerOperationID
  attempts := p.attempts + if e.eventType.starts then 1 else 0

/-- What the events of an operation add up to. -/
def replay (events : List Event) : Progress := events.foldl Event.apply {}

/-- The attempts that were finished. -/
def finishedAttempts (events : List Event) : List Int :=
  (events.filter (·.eventType.finishes)).map (·.attempt)

/-- How far an operation has come, as it is stored. -/
def progress (op : FinanceOperation) : Progress where
  status := op.status
  reference := op.providerOperationID
  attempts := op.attemptCount

/-- The events determine an operation: its status and its reference at the provider are those
    that the events lead to, it has had as many attempts as were started, and each of them was
    finished at most once. -/
structure Determined (op : FinanceOperation) (events : List Event) : Prop where
  status : (replay events).status = op.status
  reference : (replay events).reference = op.providerOperationID
  attempts : op.attemptCount = events.countP (·.eventType.starts)
  finished : ∀ n, events.countP (fun e => e.eventType.finishes && e.attempt == n) ≤ 1

section

variable (events : List Event)

include events

theorem replay_append (e : Event) : replay (events ++ [e]) = e.apply (replay events) := by
  rw [replay, foldl_append]
  rfl

/-- The attempts of the replay are those that were started. -/
theorem attempts_replay : (replay events).attempts = events.countP (·.eventType.starts) := by
  induction events using reverseRecOn with
  | nil => rfl
  | append_singleton _ e ih =>
    rw [replay_append, countP_append, countP_singleton, Event.apply, ih]
    split_ifs <;> simp

theorem finishedAttempts_append (e : Event) :
    finishedAttempts (events ++ [e]) =
      finishedAttempts events ++ if e.eventType.finishes then [e.attempt] else [] := by
  rw [finishedAttempts, filter_append, map_append, filter_singleton]
  cases e.eventType.finishes <;> rfl

end

/-- The events lead to what is stored. Every attempt was finished at most once, and the one
    that is open was not. -/
structure Trail (p : Progress) (events : List Event) : Prop where
  replays : replay events = p
  nodup : (finishedAttempts events).Nodup
  past : ∀ n ∈ finishedAttempts events, n ≤ p.attempts
  current : p.Open → p.attempts ∉ finishedAttempts events

/-- An event tells what a write does to an operation. -/
structure Tells (p : Progress) (e : Event) (p' : Progress) : Prop where
  apply : e.apply p = p'
  finishes : e.eventType.finishes = true → p.Open ∧ e.attempt = p.attempts ∧ ¬ p'.Open
  goesOn : e.eventType.finishes = false → p'.Open → e.eventType.starts = true ∨ p.Open

namespace Tells

variable {p p' : Progress} {e : Event} (hstatus : p'.status = e.status)
include hstatus

/-- An attempt is started. -/
theorem start (hstarts : e.eventType.starts = true) (hfinishes : e.eventType.finishes = false)
    (hnone : e.providerOperationID = "") (hreference : p'.reference = p.reference)
    (hattempts : p'.attempts = p.attempts + 1) : Tells p e p' where
  apply := by rw [Event.apply, if_pos hnone, if_pos hstarts, ← hstatus, ← hreference, ← hattempts]
  finishes h := absurd h (by simp [hfinishes])
  goesOn _ _ := .inl hstarts

/-- Something happens in an attempt. -/
theorem note (hstarts : e.eventType.starts = false) (hfinishes : e.eventType.finishes = false)
    (hsame : p'.status = p.status)
    (hreference : p'.reference =
      if e.providerOperationID = "" then p.reference else e.providerOperationID)
    (hattempts : p'.attempts = p.attempts) : Tells p e p' where
  apply := by
    rw [Event.apply, hstarts, if_neg Bool.false_ne_true, add_zero, ← hstatus, ← hreference,
      ← hattempts]
  finishes h := absurd h (by simp [hfinishes])
  goesOn _ hopen := .inr (by rwa [Progress.Open, hsame] at hopen)

/-- An attempt is finished. A reference that was known is the one that the event has. -/
theorem finish (hstarts : e.eventType.starts = false) (hopen : p.Open) (hclosed : ¬ p'.Open)
    (hattempt : e.attempt = p.attempts) (hreference : p'.reference = e.providerOperationID)
    (hknown : p.reference ≠ "" → p.reference = e.providerOperationID)
    (hattempts : p'.attempts = p.attempts) : Tells p e p' where
  apply := by
    have hif : (if e.providerOperationID = "" then p.reference else e.providerOperationID) =
        p'.reference := by
      split_ifs with hnone
      · by_contra hne
        exact hne ((hknown (fun hempty => hne (by rw [hempty, hreference, hnone]))).trans
          hreference.symm)
      · exact hreference.symm
    rw [Event.apply, hstarts, if_neg Bool.false_ne_true, add_zero, ← hstatus, hif, ← hattempts]
  finishes _ := ⟨hopen, hattempt, hclosed⟩
  goesOn _ h := absurd h hclosed

end Tells

namespace Trail

variable {p p' : Progress} {events : List Event} {e : Event}

/-- Nothing has happened yet. -/
theorem nil : Trail {} [] where
  replays := rfl
  nodup := nodup_nil
  past _ h := absurd h not_mem_nil
  current _ := not_mem_nil

/-- A write that its event tells goes on with the trail. -/
theorem tells (h : Trail p events) (ht : Tells p e p') : Trail p' (events ++ [e]) := by
  have hattempts : p'.attempts = p.attempts + if e.eventType.starts then 1 else 0 := by
    rw [← ht.apply, Event.apply]
  have hreplays : replay (events ++ [e]) = p' := by rw [replay_append, h.replays, ht.apply]
  have hle : p.attempts ≤ p'.attempts := by split_ifs at hattempts <;> omega
  cases hfinishes : e.eventType.finishes with
  | true =>
    -- The attempt was open, so that this is its first finishing event.
    obtain ⟨hopen, hattempt, hclosed⟩ := ht.finishes hfinishes
    have hfinished :
        finishedAttempts (events ++ [e]) = finishedAttempts events ++ [p.attempts] := by
      rw [finishedAttempts_append, if_pos hfinishes, hattempt]
    refine ⟨hreplays, ?_, fun n hn => ?_, fun hopen' => absurd hopen' hclosed⟩
    · rw [hfinished, nodup_append_comm, singleton_append, nodup_cons]
      exact ⟨h.current hopen, h.nodup⟩
    · rw [hfinished, mem_append, mem_singleton] at hn
      rcases hn with hn | rfl
      · exact (h.past n hn).trans hle
      · exact hle
  | false =>
    have hfinished : finishedAttempts (events ++ [e]) = finishedAttempts events := by
      rw [finishedAttempts_append, if_neg (by simp [hfinishes]), append_nil]
    refine ⟨hreplays, ?_, fun n hn => ?_, fun hopen hmem => ?_⟩
    · rw [hfinished]
      exact h.nodup
    · rw [hfinished] at hn
      exact (h.past n hn).trans hle
    rw [hfinished] at hmem
    -- A new attempt comes after all that were finished; the other ones stay open.
    rcases ht.goesOn hfinishes hopen with hstarts | hopen'
    · rw [if_pos hstarts] at hattempts
      have := h.past _ hmem
      omega
    by_cases hstarts : e.eventType.starts = true
    · rw [if_pos hstarts] at hattempts
      have := h.past _ hmem
      omega
    · rw [if_neg hstarts, add_zero] at hattempts
      exact h.current hopen' (hattempts ▸ hmem)

/-- A trail determines its operation. -/
theorem determined {op : FinanceOperation} (h : Trail (progress op) events) :
    Determined op events where
  status := by rw [h.replays]; rfl
  reference := by rw [h.replays]; rfl
  attempts := by rw [← attempts_replay, h.replays]; rfl
  finished n := by
    have hcount : events.countP (fun e => e.eventType.finishes && e.attempt == n) =
        (finishedAttempts events).count n := by
      rw [finishedAttempts, count, countP_map, countP_filter]
      refine countP_congr fun e _ => ?_
      simp [and_comm]
    rw [hcount]
    exact nodup_iff_count_le_one.1 h.nodup n

end Trail

/-! ## What the calls write -/

section

variable [Unicode]

/-- The calls that are told by their events:

    * a new operation has not been attempted, and has no reference at the provider;
    * what is learnt of a purchase that is not complete is not new;
    * an action that is finished is not one whose attempt ended for reconciliation. -/
def Action.Audited (s : Store) : Action → Prop
  | .ledger (.beginFinanceOperation _ operation) =>
    trimSpace operation.idempotencyKey ∉ s.ledger.financeOperationKeys →
      operation.attemptCount = 0 ∧ operation.providerOperationID = ""
  | .lifecycle (.createSubscriptionRefundReview _ op _) =>
    op.idempotencyKey ∉ s.ledger.financeOperationKeys → op.providerOperationID = ""
  | .lifecycle (.updateSubscriptionPurchase _ id providerID _ false) =>
    ∀ op ∈ s.operation id, op.operationType = "subscription_purchase" →
      unfinished op = true →
        op.status = .reconciliationRequired ∧ op.providerOperationID = providerID
  | .lifecycle (.updateSubscriptionPurchase _ id _ _ true)
  | .lifecycle (.finishSubscriptionAction _ _ id ..) =>
    ∀ op ∈ s.operation id, op.status ≠ .reconciliationRequired
  | _ => True

/-- An action that an audited call ends is not to be reconciled. -/
theorem Action.Audited.ending {s : Store} {call : Lifecycle.Action} {e : Lifecycle.Ending}
    (ha : Action.Audited s (.lifecycle call)) (he : call.ending s.forLifecycle = some e) :
    ∀ op ∈ s.operation e.id, op.status ≠ .reconciliationRequired := by
  cases call with
  | finishSubscriptionAction =>
    cases he
    exact ha
  | updateSubscriptionPurchase _ _ _ _ complete =>
    cases complete with
    | true =>
      cases he
      exact ha
    | false => cases he
  | _ => cases he

/-- The histories are trails of the operations. -/
def Store.Trails (s : Store) : Prop :=
  Journal.Kept (fun op => Trail (progress op)) s.ledger.financeOperations s.financeOperationEvents

/-- The ledger is well-formed, and the histories are trails of the operations. -/
structure Store.Sound (s : Store) : Prop where
  ledger : WellFormed s.ledger
  trails : s.Trails

/-- A store without records. -/
theorem Store.Sound.init (byID : List String)
    (subscriptions : Table String (List SubscriptionRef)) :
    (init byID subscriptions).Sound where
  ledger := .init byID subscriptions
  trails := .empty

variable {id : String}

omit [Unicode] in
/-- The lifecycle leaves one event. -/
theorem events_afterLifecycle {s : Store} {lifecycle : Lifecycle.Store} {e : Lifecycle.Event}
    (h : lifecycle.financeOperationEvents =
      (s.forLifecycle.appendEvent id e).financeOperationEvents) :
    (s.afterLifecycle lifecycle).financeOperationEvents =
      s.financeOperationEvents.insert id (s.events id ++ [.ofLifecycle e]) := by
  rw [Store.afterLifecycle, h]
  rfl

variable {providerID : String}

omit [Unicode] in
/-- An attempt that has no outcome, and did not end for reconciliation, is open. -/
theorem open_of_unfinished {op : FinanceOperation} (h : unfinished op = true)
    (hne : op.status ≠ .reconciliationRequired) : (progress op).Open := by
  simp only [unfinished, Bool.and_eq_true, bne_iff_ne] at h
  rw [progress]
  cases hstatus : op.status with
  | pending => exact .inr rfl
  | inProgress => exact .inl rfl
  | succeeded => exact absurd hstatus h.1
  | failed => exact absurd hstatus h.2
  | reconciliationRequired => exact absurd hstatus hne

variable {response : RawMessage}

namespace Store.Sound

variable {s : Store}

theorem forLedger (hs : s.Sound) : WellFormed s.forLedger :=
  { hs.ledger with }

variable {ledger : Finance.Store}

/-- A fact is recorded. The operation of a refund is bound to it, which is told. -/
theorem trails_of_fact (hs : s.Sound) {call : Call} (h : Effect s.forLedger call ledger)
    (hfact : call.recordsFact = true) : (s.afterLedger ledger).Trails := by
  cases h with
  | unchanged | invoice | servicePeriod | payment | refund => exact hs.trails
  | boundRefund _ _ hop hmatch =>
    refine hs.trails.written hop fun htrail => htrail.tells (.note rfl rfl rfl rfl ?_ rfl)
    -- The refund that is the outcome of an operation has a reference at the provider.
    rw [financeRefundMatchesOperation] at hmatch
    split at hmatch
    · cases hmatch
    simp only [Bool.and_eq_true, bne_iff_ne] at hmatch
    exact (if_neg hmatch.1.2).symm
  | attempt => cases hfact
  | update _ _ _ _ _ _ _ _ _ hcall => cases hcall.symm.trans hfact

variable {env : Env}

/-- An attempt is started. -/
theorem trails_of_begin (hs : s.Sound) {operation out : FinanceOperation} {claimed : Bool}
    (ha : Action.Audited s (.ledger (.beginFinanceOperation env operation)))
    (h : beginFinanceOperation env s.forLedger operation = .ok (ledger, claimed, out)) :
    (s.afterLedger ledger).Trails := by
  rcases beginFinanceOperation_cases hs.forLedger h with
    ⟨-, rfl⟩ | ⟨stored, rfl, rfl, rfl, hclaim, -⟩
  · exact hs.trails
  cases hclaim with
  | new _ _ id_new key_new =>
    obtain ⟨hattempts, hreference⟩ := ha key_new
    -- A new operation is as it was asked for.
    have hopened : progress (stored.attempted env) =
        ⟨.inProgress, operation.providerOperationID, operation.attemptCount + 1⟩ := by
      obtain ⟨-, h⟩ := guard_ok.1 h
      rcases hterms : refundTerms operation.normalized with _ | terms <;>
        simp only [hterms, reduceCtorEq, claimedOperation, AList.lookup_eq_none.2 key_new] at h
      split at h
      · cases h
      · cases congrArg (fun r => r.2.1) (ok.inj h)
      next opened hclaim =>
      rw [guard_ok] at hclaim
      obtain rfl := congrArg Prod.snd (ok.inj hclaim.2)
      split at h
      · cases h
      rw [← show _ = stored.attempted env from congrArg (fun r => r.2.2) (ok.inj h)]
      simp only [progress, FinanceOperation.attempted, FinanceOperation.opened,
        FinanceOperation.normalized]
    rw [hattempts, hreference] at hopened
    refine hs.trails.opened id_new (Trail.nil.tells ?_)
    rw [hopened]
    exact .start rfl rfl rfl rfl rfl rfl
  | retry _ known =>
    exact hs.trails.written known fun htrail => htrail.tells (.start rfl rfl rfl rfl rfl rfl)

/-- An attempt is finished. -/
theorem trails_of_finish (hs : s.Sound) {operationID : String} {outcome : Outcome}
    {attempt : Option Int}
    (h : finishFinanceOperation env s.forLedger operationID outcome attempt = .ok ledger) :
    (s.afterLedger ledger).Trails := by
  obtain ⟨_, _, _, _, hstatus, hop, hopen, -, hreference, rfl, rfl⟩ :=
    finishFinanceOperation_cases h
  generalize trimSpace operationID = id at hop ⊢
  obtain rfl := hs.ledger.operations.id_eq hop
  refine hs.trails.written hop fun htrail => htrail.tells ?_
  refine .finish rfl rfl (.inl hopen) ?_ rfl rfl hreference rfl
  -- An attempt that ended is not open.
  have hmem := mem_of_find?_eq_some hstatus
  rw [Progress.Open, progress, FinanceOperation.finished]
  split_ifs
  · simp
  · simp only [mem_cons, not_mem_nil, or_false] at hmem
    rcases hmem with rfl | rfl | rfl <;> simp

/-- A call of the ledger is told by its event. -/
theorem afterLedger (hs : s.Sound) {call : Call} (ha : Action.Audited s (.ledger call))
    (h : call.exec s.forLedger = .ok ledger) : (s.afterLedger ledger).Sound := by
  have heffect : Effect s.forLedger call ledger := effect_of_exec hs.forLedger h
  refine ⟨hs.forLedger.effect heffect, ?_⟩
  cases call with
  | beginFinanceOperation =>
    rw [Call.exec, map_eq_ok] at h
    obtain ⟨⟨_, _, _⟩, hbegin, rfl⟩ := h
    exact hs.trails_of_begin ha hbegin
  | checkpointFinanceOperation =>
    obtain ⟨_, _, hop, -, -, rfl, rfl⟩ := checkpointFinanceOperation_cases h
    obtain rfl := hs.ledger.operations.id_eq hop
    exact hs.trails.written hop fun htrail => htrail.tells (.note rfl rfl rfl rfl rfl rfl)
  | finishFinanceOperation => exact hs.trails_of_finish h
  | _ => exact hs.trails_of_fact heffect rfl

variable {op : FinanceOperation} {lifecycle : Lifecycle.Store}

/-- A new operation has a new key. -/
theorem notMem_keys (hs : s.Sound) (hrecords : Lifecycle.Records s.forLifecycle lifecycle op) :
    op.idempotencyKey ∉ s.ledger.financeOperationKeys := by
  intro hmem
  obtain ⟨_, hid⟩ := Table.exists_lookup_of_mem hmem
  obtain ⟨_, hold, -⟩ := hs.ledger.operations.of_key hid
  have hempty : (s.ledger.financeOperationKeys.lookup op.idempotencyKey).getD "" = "" :=
    hrecords.newKey
  rw [hid] at hempty
  exact hs.ledger.operations.id_ne hold hempty

/-- A new operation is recorded, with its first event. -/
theorem recorded (hs : s.Sound) {e : Lifecycle.Event}
    (hrecords : Lifecycle.Records s.forLifecycle lifecycle op)
    (htrimmed : trimSpace op.id = op.id) (htype : op.operationType ≠ "refund")
    (hevents : lifecycle.financeOperationEvents =
      (s.forLifecycle.appendEvent op.id e).financeOperationEvents)
    (htells : Tells {} (.ofLifecycle e) (progress op)) : (s.afterLifecycle lifecycle).Sound := by
  constructor
  · rw [afterLifecycle, hrecords.operations, hrecords.keys]
    exact hs.ledger.insertOperation
      (hs.ledger.operations.insert hrecords.id_ne hrecords.fresh (hs.notMem_keys hrecords)) htrimmed
      fun h => absurd h htype
  · rw [Store.Trails, events_afterLifecycle hevents, afterLifecycle, hrecords.operations]
    exact hs.trails.opened hrecords.fresh (Trail.nil.tells htells)

variable (hs : s.Sound)

include hs

/-- An operation is written in its place. -/
theorem replaced {op' : FinanceOperation} (hop : s.operation id = some op)
    (hoperations : lifecycle.financeOperations = s.ledger.financeOperations.insert id op')
    (hkeys : lifecycle.financeOperationKeys = s.ledger.financeOperationKeys) (hid : op'.id = op.id)
    (hkey : op'.idempotencyKey = op.idempotencyKey) (htype : op'.operationType = op.operationType)
    (htargetType : op'.targetType = op.targetType) (htarget : op'.targetID = op.targetID)
    (hrequest : op'.request = op.request) : WellFormed (s.afterLifecycle lifecycle).ledger := by
  rw [afterLifecycle, hoperations, hkeys]
  exact hs.ledger.replaceOperation hop hid hkey htype htargetType htarget hrequest

/-- A call of the lifecycle is told by its event. -/
theorem afterLifecycle {call : Lifecycle.Action} (ha : Action.Audited s (.lifecycle call))
    (h : call.call s.forLifecycle = .ok lifecycle) : (s.afterLifecycle lifecycle).Sound := by
  cases effect_of_call h with
  | repeats eq =>
    rw [eq]
    exact hs
  | @reserves env _ _ action _ hnew =>
    refine hs.recorded hnew.records env.uuid.trimmed (fun h => ?_) hnew.events
      (.start rfl rfl rfl rfl rfl rfl)
    have hlist := congrArg String.toList h
    simp [actionOperation] at hlist
  | @ends _ e op he hends =>
    refine ⟨hs.replaced hends.row hends.operations hends.keys rfl rfl rfl rfl rfl rfl, ?_⟩
    rw [Store.Trails, events_afterLifecycle hends.events, Store.afterLifecycle, hends.operations]
    refine hs.trails.written hends.row fun htrail => htrail.tells ?_
    have hopen : (progress op).Open :=
      open_of_unfinished hends.unfinished (ha.ending he op hends.row)
    refine .finish rfl rfl hopen ?_ rfl rfl hends.reference rfl
    rw [Progress.Open, progress, Lifecycle.Ending.finished, finishedOperation]
    cases e.confirmed <;> simp
  | @progresses env _ providerID response op hop htype hunfinished eq =>
    -- Nothing new is learnt of the purchase.
    obtain ⟨hstatus, hreference⟩ := ha op hop htype hunfinished
    have hsame : progress (progressed op env.now providerID response) = progress op := by
      rw [progress, progress, hstatus, hreference]
      rfl
    subst eq
    refine ⟨hs.replaced hop rfl rfl rfl rfl rfl rfl rfl rfl, hs.trails.unnoticed hop fun htrail => ?_⟩
    rwa [hsame]
  | @reviews env op _ htype hrecords _ hevents =>
    refine hs.recorded hrecords env.uuid.trimmed ?_ hevents (.start rfl rfl rfl rfl ?_ rfl)
    · rw [show (reviewOperation env op).operationType = _ from htype]
      decide
    · have hnewKey := hs.notMem_keys hrecords
      exact ha hnewKey

/-- A call that is audited keeps the trails. -/
theorem step (a : Action) (ha : a.Audited s) : (step s a).Sound := by
  cases a with
  | ledger call =>
    rw [AuditTrail.step]
    cases h : call.exec s.forLedger with
    | error => exact hs
    | ok => exact hs.afterLedger ha h
  | lifecycle call =>
    rw [AuditTrail.step]
    cases h : call.call s.forLifecycle with
    | error => exact hs
    | ok => exact hs.afterLifecycle ha h

end Store.Sound

/-! ## Runs -/

/-- In every run of audited calls, from a store without records, the events of every operation
    determine it. -/
theorem operations_determined {byID : List String}
    {subscriptions : Table String (List SubscriptionRef)} {as : List Action}
    (h : Run.Guarded step (fun s a => a.Audited s) (.init byID subscriptions) as) {id : String}
    {op : FinanceOperation}
    (hop : (exec step (.init byID subscriptions) as).operation id = some op) :
    Determined op ((exec step (.init byID subscriptions) as).events id) := by
  have hsound : (exec step (.init byID subscriptions) as).Sound :=
    h.exec_induction (fun _ a ha hs => hs.step a ha) (.init byID subscriptions)
  exact (hsound.trails.row hop).determined

end

namespace Sample

local instance : Unicode := .ascii

/-- A purchase is reserved, and sent to the provider. -/
def purchase : List Action :=
  [ .lifecycle (.reserveSubscriptionAction (.sample 0) "ann" "purchase-1" "purchase" .empty),
    .lifecycle (.updateSubscriptionPurchase (.sample 1) "uuid" "cs_1" .empty false)]

/-- The purchase is to be reconciled, under its reference at the provider; its events say that
    it is in progress and has no reference. -/
theorem purchase_is_not_told :
    ((exec step (.init ["ann"] ∅) purchase).operation "uuid").map progress =
        some ⟨.reconciliationRequired, "cs_1", 1⟩ ∧
      replay ((exec step (.init ["ann"] ∅) purchase).events "uuid") = ⟨.inProgress, "", 1⟩ :=
  ⟨by decide +kernel, by decide +kernel⟩

/-- A cancellation is reserved. It is finished once for reconciliation by the ledger, and once
    more by the lifecycle, in the same attempt. -/
def cancellation (reconciled : Bool) : List Action :=
  [.lifecycle (.reserveSubscriptionAction (.sample 0) "ann" "cancel-1" "cancel" .empty)] ++
    (if reconciled then [.ledger (.finishFinanceOperation (.sample 1) "uuid"
      ⟨"reconcile_needed", "sub_1", .empty, none, none⟩ (some 1))] else []) ++
    [.lifecycle (.finishSubscriptionAction (.sample 2) "ann" "uuid" "sub_1" .empty true "FREE"
      (some 3))]

/-- The events of a cancellation determine it. -/
theorem operations_determined_cancellation :
    ∃ op, (exec step (.init ["ann"] ∅) (cancellation false)).operation "uuid" = some op ∧
      progress op = ⟨.succeeded, "sub_1", 1⟩ ∧
      Determined op ((exec step (.init ["ann"] ∅) (cancellation false)).events "uuid") := by
  obtain ⟨op, hop, hprogress⟩ : ∃ op,
      (exec step (.init ["ann"] ∅) (cancellation false)).operation "uuid" = some op ∧
        progress op = ⟨.succeeded, "sub_1", 1⟩ :=
    Option.map_eq_some_iff.1 (by decide +kernel)
  have haudited : Run.Guarded step (fun s a => a.Audited s) (.init ["ann"] ∅)
      (cancellation false) := by
    refine ⟨trivial, ?_, trivial⟩
    change ∀ op ∈ (step (.init ["ann"] ∅) _).operation "uuid", op.status ≠ .reconciliationRequired
    decide +kernel
  exact ⟨op, hop, hprogress, operations_determined haudited hop⟩

/-- The same attempt of a cancellation is finished twice, after a reconciliation. -/
example : finishedAttempts
    ((exec step (.init ["ann"] ∅) (cancellation true)).events "uuid") = [1, 1] := by
  decide +kernel

end Sample

end Accounts.AuditTrail

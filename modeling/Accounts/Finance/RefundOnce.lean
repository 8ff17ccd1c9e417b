import Accounts.Base.Fence
import Accounts.Finance.RefundWorker
import Accounts.Finance.WellFormed

/-!
# A refund is requested at most once

For each operation, the workers are fenced attempts at one task (`Fence`): the
stored operation is the record, with the number of its attempts and the mark
`provider_request_started` of its response, the workers that claimed it hold
the attempts, and a request for a refund sent to the provider is the action.
Every step of the system is a step of the task of each operation
(`System.task_move`), so that, however the workers interleave, at most one
request is sent for an operation (`System.posts_of_operation_le_one`).
-/

namespace Accounts.Finance

open Table AList List Option Worker Store

section

variable [Unicode]

/-! ## The mark in the response of an operation -/

/-- The mark is what is assigned to its member; the other members of a response do not matter. -/
theorem previousStarted_object (b : Bool) (refund : Option Json) :
    previousStarted (.doc (.object (("provider_request_started", .bool b) ::
      refund.toList.map fun r => ("refund", r)))) = some b := by
  have hfold : Text.equalFold "refund" "provider_request_started" = false := by
    have hlength : ("refund".toList.map Unicode.foldCase).length ≠
        ("provider_request_started".toList.map Unicode.foldCase).length := by
      rw [length_map, length_map]
      decide
    exact beq_eq_false_iff_ne.2 fun he => hlength (congrArg length he)
  rcases refund with _ | r
  · rfl
  have hmatch : Json.matchField ["provider_request_started"] "refund" = none := by
    rw [Json.matchField, find?_singleton, hfold]
    rfl
  have hself : Json.matchField ["provider_request_started"] "provider_request_started" =
      some "provider_request_started" := if_pos mem_cons_self
  simp only [previousStarted, RawMessage.decode, Json.decodeMembers, toList_some,
    map_cons, map_nil, foldl_cons, foldl_nil, hmatch, hself, Json.assignBool]
  rfl

/-! ## Operations and workers as records and attempts -/

/-- An operation as the record of its attempts. -/
def FinanceOperation.record (op : FinanceOperation) : Fence.Record :=
  ⟨op.attemptCount, previousStarted op.response == some true⟩

/-- The record of the attempts at the operation `i`. -/
def Store.record (s : Store) (i : String) : Option Fence.Record :=
  (s.financeOperations.lookup i).map FinanceOperation.record

/-- The worker has not claimed its operation yet. -/
def Phase.isBegin : Phase → Bool
  | .begin => true
  | _ => false

/-- The worker is about to request a refund. -/
def Phase.isPost : Phase → Bool
  | .post => true
  | _ => false

/-- The attempt at the operation `i` a worker holds. -/
def Worker.attempt (i : String) (w : Worker) : Option Fence.Attempt :=
  if w.phase.isBegin ∨ w.op.id ≠ i then none
  else some ⟨w.op.attemptCount, w.mayHaveSubmitted, w.phase.isPost⟩

/-- The task of the operation `i`: to request the refund. -/
def System.task (sys : System) (i : String) : Fence.Task Nat where
  record := sys.store.record i
  attempts w := (sys.workers.lookup w).bind (attempt i)
  acts := (sys.posts.filter (·.operationID = i)).length

/-! ## What a step of a worker does -/

/-- A worker that goes on as the worker `w`, as far as its attempt goes: it is
    past its claim, and not about to request a refund. -/
structure Worker.Follows (w w' : Worker) : Prop where
  op_eq : w'.op = w.op
  careful : w.mayHaveSubmitted = true → w'.mayHaveSubmitted = true
  not_begin : w'.phase.isBegin = false
  not_post : w'.phase.isPost = false

/-- What a step of a worker amounts to. -/
inductive Move (env : Env) (s : Store) (w : Worker) : StepResult → Prop
  /-- It returns. -/
  | returned : Move env s w ⟨s, none, none⟩
  /-- It claims its operation. -/
  | claimed {s' : Store} {op : FinanceOperation} (hbegin : w.phase.isBegin = true)
      (h : beginFinanceOperation env s w.op = .ok (s', true, op)) :
      Move env s w ⟨s', some (w.claim op), none⟩
  /-- It goes on without requesting a refund. -/
  | went {w' : Worker} (hfrom : w.phase.isBegin = false) (hfollows : w.Follows w') :
      Move env s w ⟨s, some w', none⟩
  /-- It records a refund. -/
  | recorded {s' : Store} {fact out : FinanceRefund} {inserted : Bool} {w' : Worker}
      (h : recordFinanceRefund env s fact = .ok (s', inserted, out))
      (hfrom : w.phase.isBegin = false) (hfollows : w.Follows w') :
      Move env s w ⟨s', some w', none⟩
  /-- It saves its checkpoint. -/
  | armed {s' : Store} (hphase : w.phase = .checkpoint) (hmay : w.mayHaveSubmitted = false)
      (h : checkpointFinanceOperation env s w.op.id w.op.attemptCount
        (.doc (.object [("provider_request_started", .bool true)])) = .ok s') :
      Move env s w ⟨s', some ({ w with mayHaveSubmitted := true }.goto .post), none⟩
  /-- It requests a refund. -/
  | posted (hphase : w.phase = .post) :
      Move env s w ⟨s, some (w.goto .awaitPost), some ⟨w.op.id, w.op.idempotencyKey,
        w.intent.paymentIntentID, w.intent.amountMinor⟩⟩
  /-- It ends its attempt. -/
  | finished {s' : Store} {resultErr : Option String} (hphase : w.phase = .finish resultErr)
      (h : finishFinanceOperation env s w.op.id (w.outcome resultErr) (some w.op.attemptCount) =
        .ok s') : Move env s w ⟨s', none, none⟩

namespace Worker

variable {w : Worker}

section

omit [Unicode]

theorem follows_goto {phase : Phase} (hbegin : phase.isBegin = false)
    (hpost : phase.isPost = false) : w.Follows (w.goto phase) :=
  ⟨rfl, id, hbegin, hpost⟩

theorem follows_fail (err : String) : w.Follows (w.fail err) := follows_goto rfl rfl

theorem follows_loadFailed (err : String) (purpose : Purpose) :
    w.Follows (w.loadFailed err purpose) := by
  cases purpose <;> exact ⟨rfl, id, rfl, rfl⟩

end

theorem follows_loaded (op : FinanceOperation) (intent : SubscriptionRefundIntent)
    (purpose : Purpose) : w.Follows (w.loaded op intent purpose) := by
  cases purpose with
  | query =>
    refine ⟨rfl, id, ?_, ?_⟩ <;> simp only [loaded] <;> split_ifs <;> rfl
  | validate | record =>
    simp only [loaded]
    split_ifs <;> exact ⟨rfl, id, rfl, rfl⟩

theorem follows_load (s : Store) (purpose : Purpose) (op : FinanceOperation) (step : LoadStep) :
    w.Follows (w.load s purpose op step) := by
  cases hintent : checkedIntent op with
  | error e =>
    simp only [load, hintent]
    exact follows_loadFailed e purpose
  | ok intent =>
    cases step <;> simp only [load, hintent]
    · rcases getFinancePaymentByProvider s "stripe" intent.paymentIntentID with e | payment
      · exact follows_loadFailed _ purpose
      dsimp only
      split_ifs
      · exact follows_goto rfl rfl
      · exact follows_loadFailed _ purpose
    · rename_i payment
      rcases getFinanceInvoice s payment.invoiceID with e | invoice
      · exact follows_loadFailed _ purpose
      dsimp only
      split_ifs
      · exact follows_goto rfl rfl
      · exact follows_loadFailed _ purpose
    · rcases listSubscriptionsByUser s intent.accountID with e | subs
      · exact follows_loadFailed _ purpose
      dsimp only
      split_ifs
      · exact follows_loaded op intent purpose
      · exact follows_loadFailed _ purpose

omit [Unicode] in
theorem follows_queried (found : Option StripeRefund) : w.Follows (w.queried found) := by
  cases found with
  | none => exact follows_goto rfl rfl
  | some => exact ⟨rfl, fun _ => rfl, rfl, rfl⟩

omit [Unicode] in
theorem follows_pageFetched (page : Nat) (found : Option StripeRefund)
    (reply : Except String (List StripeRefund × Bool)) :
    w.Follows (w.pageFetched page found reply) := by
  match reply with
  | .error e => exact follows_fail e
  | .ok (data, hasMore) =>
    simp only [pageFetched]
    rcases scanPage w.op.idempotencyKey found data with e | found
    · exact follows_fail e
    split_ifs
    · exact follows_fail _
    · exact follows_goto rfl rfl
    · exact follows_queried found

/-- A step of a worker is one of the moves. -/
theorem move_step {s : Store} (hs : WellFormed s) (env : Env) (reply : Reply) (w : Worker) :
    Move env s w (w.step env reply s) := by
  -- Past its claim, a worker that neither writes nor requests a refund goes on.
  have hwent : ∀ {w' : Worker}, w.phase.isBegin = false → w.Follows w' →
      Move env s w ⟨s, some w', none⟩ := .went
  cases hphase : w.phase <;> simp only [hphase, Phase.isBegin, forall_const] at hwent <;>
    simp only [step, hphase]
  case begin =>
    match h : beginFinanceOperation env s w.op with
    | .error e => exact .returned
    | .ok (s', false, op) =>
      obtain ⟨-, rfl⟩ | ⟨_, hclaimed, -⟩ := beginFinanceOperation_cases hs h
      · exact .returned
      · cases hclaimed
    | .ok (s', true, op) => exact .claimed (by rw [hphase]; rfl) h
  case load purpose op step => exact hwent (follows_load s purpose op step)
  case fetchRefund | awaitPost =>
    cases reply.refund with
    | error e => exact hwent (follows_fail e)
    | ok refund => exact hwent (follows_queried (some refund))
  case fetchPage page found => exact hwent (follows_pageFetched page found reply.page)
  case checkpoint =>
    split_ifs with hmay
    · exact hwent (follows_fail _)
    cases h : checkpointFinanceOperation env s w.op.id w.op.attemptCount
        (.doc (.object [("provider_request_started", .bool true)])) with
    | error => exact hwent ⟨rfl, fun _ => rfl, rfl, rfl⟩
    | ok =>
      have hmove := Move.armed hphase (Bool.eq_false_iff.2 hmay) h
      rwa [goto] at hmove
  case post =>
    cases reply.unsent with
    | some e => exact hwent (follows_fail e)
    | none => exact .posted hphase
  case recordPayment refund =>
    split_ifs
    · exact hwent (follows_fail _)
    · cases getFinancePaymentByProvider s "stripe" (customerIDFromAny refund.paymentIntent) with
      | error => exact hwent (follows_fail _)
      | ok => exact hwent (follows_goto rfl rfl)
  case recordOperation refund _ =>
    cases getFinanceOperation s refund.operationKey with
    | error => exact hwent (follows_fail _)
    | ok => exact hwent (follows_goto rfl rfl)
  case recordRefund refund payment =>
    match h : recordFinanceRefund env s (stripeRefundFact refund payment) with
    | .error e => exact hwent (follows_fail _)
    | .ok (s', inserted, out) =>
      exact .recorded h (by rw [hphase]; rfl) (follows_goto rfl rfl)
  case recordInvoice payment =>
    rcases getFinanceInvoice s payment.invoiceID with e | invoice
    · exact hwent (follows_fail _)
    by_cases hid : invoice.providerInvoiceID ≠ ""
    · simp only [if_pos hid]
      exact hwent (follows_goto rfl rfl)
    · simp only [if_neg hid]
      exact hwent (follows_goto rfl rfl)
  case recordRisk =>
    cases reply.risk with
    | some e => exact hwent (follows_fail e)
    | none => exact hwent (follows_goto rfl rfl)
  case fetchSubscription =>
    match reply.subscription with
    | .error e => exact hwent (follows_fail e)
    | .ok (id, status) =>
      simp only
      split_ifs <;> exact hwent (follows_goto rfl rfl)
  case cancelSubscription =>
    cases reply.cancel with
    | some e => exact hwent (follows_fail e)
    | none => exact hwent (follows_goto rfl rfl)
  case revoke => exact hwent (follows_goto rfl rfl)
  case finish resultErr =>
    cases h : finishFinanceOperation env s w.op.id (w.outcome resultErr)
        (some w.op.attemptCount) with
    | error => exact .returned
    | ok => exact .finished hphase h

end Worker

/-! ## What is recorded of an operation -/

variable {c : Call} {key : String}

section Records

variable {s s' : Store} {env : Env} {i : String}

/-- The ledger has the operation `i`, with the key `key`. -/
def Store.Holds (s : Store) (i key : String) : Prop :=
  ∃ op, s.financeOperations.lookup i = some op ∧ op.idempotencyKey = key

/-- The record of an operation after an operation was written. -/
theorem Store.record_putOperation (j : String) (op : FinanceOperation)
    (event : FinanceOperationEvent) :
    (s.putOperation j op event).record i = if i = j then some op.record else s.record i := by
  unfold record putOperation
  split_ifs with h
  · rw [h, lookup_insert]
    rfl
  · rw [lookup_insert_ne h]

/-- Facts leave the records of all operations alone. -/
theorem record_of_effect (hcall : c.recordsFact = true) (h : Effect s c s') :
    s'.record i = s.record i := by
  cases h with
  | unchanged | invoice | servicePeriod | payment | refund => rfl
  | @boundRefund env _ copy id op _ _ hop _ =>
    rw [bindRefund, record_putOperation]
    split_ifs with he
    · rw [he, record, hop]
      rfl
    · rfl
  | attempt => cases hcall
  | update _ _ _ _ _ _ _ _ _ hfact => rw [hfact] at hcall; cases hcall

omit [Unicode] in
/-- An operation that was written in the place of one with the same key. -/
theorem Store.Holds.putOperation {j : String} {op : FinanceOperation}
    {event : FinanceOperationEvent} (h : s.Holds i key)
    (hj : ∀ old, s.financeOperations.lookup j = some old →
      op.idempotencyKey = old.idempotencyKey) : (s.putOperation j op event).Holds i key := by
  obtain ⟨old, hold, rfl⟩ := h
  by_cases he : i = j
  · subst he
    exact ⟨op, lookup_insert _, hj old hold⟩
  · exact ⟨old, (lookup_insert_ne he).trans hold, rfl⟩

/-- No call takes an operation, or its key, away. -/
theorem Store.Holds.effect (h : s.Holds i key) (heffect : Effect s c s') : s'.Holds i key := by
  cases heffect with
  | unchanged | invoice | servicePeriod | payment | refund => exact h
  | boundRefund _ _ hop _ =>
    refine Store.Holds.putOperation h fun old hold => ?_
    cases hop.symm.trans hold
    rfl
  | attempt hclaim _ =>
    refine Store.Holds.putOperation h fun old hold => ?_
    cases hclaim with
    | new _ _ id_new => exact absurd (mem_of_lookup hold) id_new
    | retry _ known =>
      cases known.symm.trans hold
      rfl
  | update hop _ _ hkey =>
    refine Store.Holds.putOperation h fun old hold => ?_
    cases hop.symm.trans hold
    exact hkey

end Records

/-! ## Every step of the system is a step of each task -/

omit [Unicode] in
theorem Worker.attempt_of_ne {i : String} {w : Worker} (h : w.op.id ≠ i) : w.attempt i = none :=
  if_pos (.inr h)

omit [Unicode] in
theorem Worker.attempt_of_eq {i : String} {w : Worker} (hbegin : w.phase.isBegin = false)
    (h : w.op.id = i) :
    w.attempt i = some ⟨w.op.attemptCount, w.mayHaveSubmitted, w.phase.isPost⟩ :=
  if_neg (by simp [hbegin, h])

namespace System

variable {sys : System} {env : Env}

/-- The task of an operation after a step of a worker. -/
theorem task_settle (sys : System) (k : Nat) (r : StepResult) (i : String) :
    (sys.settle k r).task i =
      { record := r.store.record i
        attempts := Function.update (sys.task i).attempts k (r.worker.bind (attempt i))
        acts := (sys.task i).acts + (r.posted.toList.filter (·.operationID = i)).length } := by
  have hattempts : ((sys.settle k r).task i).attempts =
      Function.update (sys.task i).attempts k (r.worker.bind (attempt i)) := by
    funext v
    by_cases hv : v = k
    · subst hv
      simp [task, settle, lookup_assign]
    · simp [task, settle, lookup_assign, hv]
  have hacts : ((sys.settle k r).task i).acts =
      (sys.task i).acts + (r.posted.toList.filter (·.operationID = i)).length := by
    simp [task, settle]
  rw [← hattempts, ← hacts]
  rfl

/-- What is known at any time: the ledger is well-formed, and has the operations that are attempted,
    and those refunds were requested for; the attempts at each operation are fenced. -/
structure Sound (sys : System) : Prop where
  store : WellFormed sys.store
  claimed : ∀ {k w}, sys.workers.lookup k = some w → w.phase.isBegin = false →
    sys.store.Holds w.op.id w.op.idempotencyKey
  posted : ∀ p ∈ sys.posts, sys.store.Holds p.operationID p.idempotencyKey
  fenced : ∀ i, Fence.Safe (sys.task i)

section Moves

variable {k : Nat} {w : Worker} (hw : sys.workers.lookup k = some w) (i : String)

include hw

theorem task_attempts : (sys.task i).attempts k = w.attempt i := by
  simp only [task, hw, bind_some]

variable {s' : Store}

/-- A worker that goes on holds on to its attempt. -/
theorem task_went {w' : Worker} (hrecord : s'.record i = sys.store.record i)
    (hfrom : w.phase.isBegin = false) (hfollows : w.Follows w') :
    Fence.Step (sys.task i) ((sys.settle k ⟨s', some w', none⟩).task i) := by
  rw [task_settle]
  by_cases hi : w.op.id = i
  · have ha := (task_attempts hw i).trans (attempt_of_eq hfrom hi)
    have hstep := Fence.Step.hold k _ w'.mayHaveSubmitted ha hfollows.careful
    simpa [task, hrecord, attempt_of_eq hfollows.not_begin (hfollows.op_eq ▸ hi),
      hfollows.op_eq, hfollows.not_post] using hstep
  · simpa [task, hrecord, attempt_of_ne (hfollows.op_eq ▸ hi)] using
      Fence.Step.drop (t := sys.task i) k

omit hw in
/-- What is recorded of an operation when it is claimed: nothing of a new one, which has no mark. -/
theorem record_of_claimed {s : Store} {operation stored : FinanceOperation}
    (h : Claimed env s key operation stored) :
    (∀ r ∈ s.record stored.id, r = stored.record) ∧
      ((s.record stored.id).map Fence.Record.started).getD false = stored.record.started := by
  cases h with
  | new _ _ id_new _ _ _ _ _ _ _ response_eq =>
    have hnone : s.record stored.id = none := by
      rw [record, lookup_eq_none.2 id_new]
      rfl
    have hstarted : stored.record.started = false := by
      rw [FinanceOperation.record, response_eq]
      rfl
    rw [hnone, hstarted]
    exact ⟨fun r hr => (by cases hr), rfl⟩
  | retry _ known =>
    have hsome : s.record stored.id = some stored.record := by
      rw [record, known]
      rfl
    rw [hsome]
    exact ⟨fun r hr => (by cases hr; rfl), rfl⟩

omit hw in
/-- A claim takes the next number, and heeds the mark of the operation. -/
theorem task_claimed (hs : WellFormed sys.store) {op : FinanceOperation}
    (h : beginFinanceOperation env sys.store w.op = .ok (s', true, op)) :
    Fence.Step (sys.task i) ((sys.settle k ⟨s', some (w.claim op), none⟩).task i) := by
  obtain ⟨hclaimed, -⟩ | ⟨stored, -, rfl, rfl, hclaim, -⟩ := beginFinanceOperation_cases hs h
  · cases hclaimed
  rw [task_settle]
  by_cases hi : stored.id = i
  · subst hi
    obtain ⟨hknown, hstarted⟩ := record_of_claimed hclaim
    have hrecord : (sys.store.startAttempt env (Text.trimSpace w.op.idempotencyKey) stored).record
        stored.id = some ⟨stored.attemptCount + 1, stored.record.started⟩ := by
      rw [startAttempt, record_putOperation, if_pos rfl]
      rfl
    have hclaimed : (w.claim (stored.attempted env)).attempt stored.id = some
        ⟨stored.attemptCount + 1, (w.claim (stored.attempted env)).mayHaveSubmitted, false⟩ :=
      attempt_of_eq rfl rfl
    have hstep := Fence.Step.claim (t := sys.task stored.id) k (stored.attemptCount + 1)
      (w.claim (stored.attempted env)).mayHaveSubmitted
      (fun r hr => by rw [hknown r hr]; exact Int.lt_succ _) (fun r hr hmark => by
        rw [hknown r hr] at hmark
        have hmark : previousStarted stored.response = some true := eq_of_beq hmark
        simp only [claim, FinanceOperation.attempted, hmark, getD_some])
    simpa [task, hrecord, hstarted, hclaimed] using hstep
  · have hrecord : (sys.store.startAttempt env (Text.trimSpace w.op.idempotencyKey) stored).record
        i = sys.store.record i := by
      rw [startAttempt, record_putOperation, if_neg (Ne.symm hi)]
      rfl
    have hnone : (w.claim (stored.attempted env)).attempt i = none := attempt_of_ne hi
    simpa [task, hrecord, hnone] using Fence.Step.drop (t := sys.task i) k

/-- The checkpoint sets the mark, on condition that the attempt is the last. -/
theorem task_armed (hphase : w.phase = .checkpoint) (hmay : w.mayHaveSubmitted = false)
    (h : checkpointFinanceOperation env sys.store w.op.id w.op.attemptCount
      (.doc (.object [("provider_request_started", .bool true)])) = .ok s') :
    Fence.Step (sys.task i)
      ((sys.settle k ⟨s', some ({ w with mayHaveSubmitted := true }.goto .post), none⟩).task i) := by
  obtain ⟨op, _, hop, -, hcount, -, rfl⟩ := checkpointFinanceOperation_cases h
  rw [task_settle]
  by_cases hi : w.op.id = i
  · subst hi
    have hattempt : (sys.task w.op.id).attempts k = some ⟨w.op.attemptCount, false, false⟩ := by
      rw [task_attempts hw, attempt_of_eq (by rw [hphase]; rfl) rfl, hmay, hphase]
      rfl
    have hold : (sys.task w.op.id).record = some ⟨w.op.attemptCount, op.record.started⟩ := by
      simp only [task, record, hop, map_some, FinanceOperation.record, hcount]
    have hmark : (op.checkpointed env
        (.doc (.object [("provider_request_started", .bool true)]))).record =
          ⟨w.op.attemptCount, true⟩ := by
      rw [← hcount]
      exact congrArg (Fence.Record.mk _) (beq_iff_eq.2 (previousStarted_object true none))
    have hpost : ({ w with mayHaveSubmitted := true }.goto .post).attempt w.op.id =
        some ⟨w.op.attemptCount, true, true⟩ := attempt_of_eq rfl rfl
    simpa [task, record_putOperation, hmark, hpost] using Fence.Step.arm k _ _ hattempt hold
  · have hnone : ({ w with mayHaveSubmitted := true }.goto .post).attempt i = none :=
      attempt_of_ne hi
    simpa [task, record_putOperation, Ne.symm hi, hnone] using
      Fence.Step.drop (t := sys.task i) k

/-- The end of an attempt writes the mark back, on condition that the attempt is the last. -/
theorem task_finished {resultErr : Option String} (htrimmed : Text.trimSpace w.op.id = w.op.id)
    (hphase : w.phase = .finish resultErr)
    (h : finishFinanceOperation env sys.store w.op.id (w.outcome resultErr)
      (some w.op.attemptCount) = .ok s') :
    Fence.Step (sys.task i) ((sys.settle k ⟨s', none, none⟩).task i) := by
  obtain ⟨status, op, providerID, _, -, hop, -, hcount, -, -, rfl⟩ :=
    finishFinanceOperation_cases h
  rw [task_settle]
  rw [htrimmed] at hop ⊢
  by_cases hi : w.op.id = i
  · subst hi
    have hattempt := (task_attempts hw _).trans (attempt_of_eq (by rw [hphase]; rfl) rfl)
    have hold : (sys.task w.op.id).record = some ⟨w.op.attemptCount, op.record.started⟩ := by
      simp only [task, record, hop, map_some, FinanceOperation.record,
        hcount _ rfl]
    have hmark : (op.finished env status providerID (w.outcome resultErr)).record =
        ⟨w.op.attemptCount, w.mayHaveSubmitted⟩ := by
      have hstarted : previousStarted (financeJSON (w.outcome resultErr).response) =
          some w.mayHaveSubmitted := previousStarted_object _ (some _)
      simp [FinanceOperation.record, FinanceOperation.finished, hcount _ rfl, hstarted]
    simpa [task, record_putOperation, hmark] using Fence.Step.finish k _ _ hattempt hold
  · simpa [task, record_putOperation, Ne.symm hi] using Fence.Step.drop (t := sys.task i) k

end Moves

variable {r : StepResult}

section

variable (hsys : sys.Sound) {w : Worker}

include hsys

/-- A move of a worker is a step of each task. -/
theorem task_move {k : Nat} (hw : sys.workers.lookup k = some w) (hmove : Move env sys.store w r)
    (i : String) : Fence.Step (sys.task i) ((sys.settle k r).task i) := by
  cases hmove with
  | returned =>
    rw [task_settle]
    exact .drop k
  | claimed _ h => exact task_claimed i hsys.store h
  | went hfrom hfollows => exact task_went hw i rfl hfrom hfollows
  | recorded h hfrom hfollows =>
    exact task_went hw i (record_of_effect rfl (recordFinanceRefund_effect hsys.store h)) hfrom
      hfollows
  | armed hphase hmay h => exact task_armed hw i hphase hmay h
  | posted hphase =>
    -- A worker past its checkpoint requests the refund.
    rw [task_settle]
    by_cases hi : w.op.id = i
    · have hattempt := (task_attempts hw i).trans (attempt_of_eq (by rw [hphase]; rfl) hi)
      have hawait : (w.goto .awaitPost).attempt i =
          some ⟨w.op.attemptCount, w.mayHaveSubmitted, false⟩ := attempt_of_eq rfl hi
      simpa [task, hawait, hi] using Fence.Step.act k _ hattempt (by rw [hphase]; rfl)
    · have hnone : (w.goto .awaitPost).attempt i = none := attempt_of_ne hi
      simpa [task, hnone, hi] using Fence.Step.drop (t := sys.task i) k
  | finished hphase h =>
    obtain ⟨op, hop, -⟩ := hsys.claimed hw (by rw [hphase]; rfl)
    exact task_finished hw i (hsys.store.operation_trimmed hop) hphase h

/-- What a move of a worker does to the ledger. -/
theorem effect_move (hmove : Move env sys.store w r) : ∃ c, Effect sys.store c r.store := by
  cases hmove with
  | returned | went | posted => exact ⟨.beginFinanceOperation env w.op, .unchanged⟩
  | claimed _ h =>
    obtain ⟨hclaimed, -⟩ | ⟨_, -, -, rfl, hclaim, hrefund⟩ :=
      beginFinanceOperation_cases hsys.store h
    · cases hclaimed
    · exact ⟨_, .attempt hclaim hrefund⟩
  | recorded h => exact ⟨_, recordFinanceRefund_effect hsys.store h⟩
  | armed _ _ h => exact ⟨.checkpointFinanceOperation .., effect_of_exec hsys.store h⟩
  | finished _ h => exact ⟨.finishFinanceOperation .., effect_of_exec hsys.store h⟩

/-- The ledger has the operation of a worker after its move. -/
theorem holds_move {k : Nat} {w' : Worker} (hw : sys.workers.lookup k = some w)
    (hmove : Move env sys.store w r) (hw' : r.worker = some w') :
    r.store.Holds w'.op.id w'.op.idempotencyKey := by
  -- A worker that has claimed its operation before does not change it.
  have hkept : w.phase.isBegin = false → w'.op = w.op →
      r.store.Holds w'.op.id w'.op.idempotencyKey := by
    intro hfrom hop
    obtain ⟨c, heffect⟩ := effect_move hsys hmove
    rw [hop]
    exact (hsys.claimed hw hfrom).effect heffect
  cases hmove with
  | returned | finished => cases hw'
  | claimed _ h =>
    cases hw'
    obtain ⟨hclaimed, -⟩ | ⟨stored, -, rfl, rfl, -⟩ := beginFinanceOperation_cases hsys.store h
    · cases hclaimed
    · exact ⟨stored.attempted env, lookup_insert _, rfl⟩
  | went hfrom hfollows | recorded _ hfrom hfollows =>
    cases hw'
    exact hkept hfrom hfollows.op_eq
  | armed hphase | posted hphase =>
    cases hw'
    exact hkept (by rw [hphase]; rfl) rfl

end

omit [Unicode] in
/-- The worker that moved is in its place, and the others in theirs. -/
theorem lookup_settle {k v : Nat} {w : Worker} (h : (sys.settle k r).workers.lookup v = some w) :
    (v = k ∧ r.worker = some w) ∨ sys.workers.lookup v = some w := by
  rw [settle, lookup_assign] at h
  split_ifs at h with hv
  · exact .inl ⟨hv, h⟩
  · exact .inr h

namespace Sound

section

variable (hsys : sys.Sound)

include hsys

/-- A move of a worker. -/
theorem move {k : Nat} {w : Worker} (hw : sys.workers.lookup k = some w)
    (hmove : Move env sys.store w r) : (sys.settle k r).Sound := by
  obtain ⟨c, heffect⟩ := effect_move hsys hmove
  constructor
  case store => exact hsys.store.effect heffect
  case claimed =>
    intro v _ hw' hfrom
    rcases lookup_settle hw' with ⟨-, hr⟩ | hold
    · exact holds_move hsys hw hmove hr
    · exact (hsys.claimed hold hfrom).effect heffect
  case posted =>
    intro p hp
    rcases mem_append.1 hp with hp | hp
    · exact (hsys.posted p hp).effect heffect
    -- A refund is requested for an operation that the ledger has.
    rw [mem_toList] at hp
    cases hmove with
    | posted hphase =>
      cases hp
      exact hsys.claimed hw (by rw [hphase]; rfl)
    | _ => cases hp
  case fenced => exact fun i => (hsys.fenced i).step (task_move hsys hw hmove i)

/-- A worker is called, or stops. -/
theorem place (k : Nat) (worker : Option Worker) (hworker : ∀ w ∈ worker, w.phase.isBegin = true) :
    (sys.settle k ⟨sys.store, worker, none⟩).Sound := by
  constructor
  case store => exact hsys.store
  case claimed =>
    intro v w hw hfrom
    rcases lookup_settle hw with ⟨-, hr⟩ | hold
    · rw [hworker w hr] at hfrom
      cases hfrom
    · exact hsys.claimed hold hfrom
  case posted =>
    intro p hp
    exact hsys.posted p (by simpa [settle] using hp)
  case fenced =>
    intro i
    have hnone : worker.bind (attempt i) = none := by
      refine bind_eq_none_iff.2 fun w hw => ?_
      exact if_pos (.inl (hworker w hw))
    rw [task_settle, hnone]
    exact (hsys.fenced i).step (.drop k)

/-- A call that records a fact. -/
theorem recordsFact (hcall : c.recordsFact = true) :
    Sound { sys with store := Finance.step sys.store c } := by
  have heffect : Effect sys.store c (Finance.step sys.store c) := effect_step hsys.store c
  constructor
  case store => exact hsys.store.effect heffect
  case claimed => exact fun hw hfrom => (hsys.claimed hw hfrom).effect heffect
  case posted => exact fun p hp => (hsys.posted p hp).effect heffect
  case fenced =>
    intro i
    have hrecord := record_of_effect (i := i) hcall heffect
    have htask : System.task { sys with store := Finance.step sys.store c } i = sys.task i := by
      simp only [task, hrecord]
    exact htask ▸ hsys.fenced i

/-- Every step of the system keeps it sound. -/
theorem step (a : Action) : (sys.step a).Sound := by
  cases a with
  | run k op =>
    by_cases hk : k ∈ sys.workers
    · simpa only [System.step, if_pos hk] using hsys
    · have hplaced := hsys.place k (some (.start op)) (fun w hw => by cases hw; rfl)
      simpa [System.step, hk, settle, assign] using hplaced
  | move k env reply =>
    cases hw : sys.workers.lookup k with
    | none => simpa only [System.step, hw] using hsys
    | some w =>
      simpa only [System.step, hw] using hsys.move hw (move_step hsys.store env reply w)
  | crash k =>
    have hplaced := hsys.place k none (fun w hw => by cases hw)
    simpa [System.step, settle, assign] using hplaced
  | createFinanceInvoice | recordFinancePayment | recordFinanceRefund =>
    exact hsys.recordsFact rfl

end

/-- A system in which nothing has happened is sound. -/
theorem init (byID : List String) (subscriptions : Table String (List SubscriptionRef)) :
    (System.init byID subscriptions).Sound where
  store := .init byID subscriptions
  claimed h := by simp [System.init] at h
  posted p h := by simp [System.init] at h
  fenced i := Fence.Safe.init

end Sound

/-! ## The result -/

/-- In every run, at most one refund is requested from the provider for an
    operation, by its identifier or by its key. -/
theorem posts_of_operation_le_one (byID : List String)
    (subscriptions : Table String (List SubscriptionRef)) (as : List Action) (i key : String) :
    ((Run.exec step (init byID subscriptions) as).posts.filter (·.operationID = i)).length ≤ 1 ∧
      ((Run.exec step (init byID subscriptions) as).posts.filter
        (·.idempotencyKey = key)).length ≤ 1 := by
  have hsound : (Run.exec step (init byID subscriptions) as).Sound :=
    Run.exec_induction (P := Sound) (fun _ a hsys => hsys.step a) (.init byID subscriptions) as
  generalize Run.exec step (init byID subscriptions) as = sys at hsound
  refine ⟨(hsound.fenced i).acts_le_one, ?_⟩
  by_cases hany : ∃ p ∈ sys.posts, p.idempotencyKey = key
  · obtain ⟨p, hp, rfl⟩ := hany
    refine le_trans ?_ (hsound.fenced p.operationID).acts_le_one
    rw [task, ← countP_eq_length_filter, ← countP_eq_length_filter]
    -- The requests with one key are for one operation.
    refine countP_mono_left fun q hq hkey => decide_eq_true ?_
    obtain ⟨_, hop, hopkey⟩ := hsound.posted q hq
    obtain ⟨_, hop', hopkey'⟩ := hsound.posted p hp
    exact hsound.store.operations.eq_of_key_eq hop hop'
      (hopkey.trans ((of_decide_eq_true hkey).trans hopkey'.symm))
  · rw [filter_eq_nil_iff.2 fun p hp hkey => hany ⟨p, hp, of_decide_eq_true hkey⟩]
    exact Nat.zero_le 1

end System

end

end Accounts.Finance

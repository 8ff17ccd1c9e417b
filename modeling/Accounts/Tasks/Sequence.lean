import Accounts.Tasks.MemoryEffects

/-!
# The numbers of events

The events of a session in memory are numbered from one, and the session counts them twice: in the
number of its last event, and in the version of its snapshot. Five calls append events, and each
writes the list and the two counters on its own.

What a call does to the sessions and their events is one of three things (`Logs`): nothing, a new
session, or some events that continue the numbers of a session, which is written with them. So the
numbers and the counters agree in every state that is reached (`events_numbered`).
-/

namespace Accounts.Tasks.Memory

open AList Table List

variable {s s' : Store}

/-- Events that continue the numbers are numbered with those before. -/
theorem numbers_append (n m : Nat) : numbers 0 n ++ numbers n m = numbers 0 (n + m) := by
  rw [numbers, numbers, numbers, range_add, map_append, map_map]
  congr 1
  refine map_congr_left fun i _ => ?_
  simp only [Function.comp_apply]
  omega

theorem sessionEvents_congr (h : s'.events = s.events) (id : String) :
    s'.sessionEvents id = s.sessionEvents id := by
  rw [Store.sessionEvents, h, Store.sessionEvents]

theorem sessionEvents_append {id : String} {new : List Event}
    (h : s'.events = s.events.insert id (s.sessionEvents id ++ new)) (id' : String) :
    s'.sessionEvents id' = if id' = id then s.sessionEvents id ++ new else s.sessionEvents id' := by
  rw [Store.sessionEvents, h]
  split_ifs with hid
  · rw [hid, lookup_insert, Option.getD_some]
  · rw [lookup_insert_ne hid, Store.sessionEvents]

/-! ## Numbered events -/

/-- The events of a session have the numbers from one on, and the session has counted them. -/
structure Counted (session : Session) (events : List Event) : Prop where
  numbered : events.map (·.seq) = numbers 0 events.length
  last : session.lastEventSeq = events.length
  version : session.snapshotVersion = events.length

/-- The events of all sessions are counted. There are none without a session. -/
structure Store.Sequenced (s : Store) : Prop where
  keyed : ∀ id session, s.sessions.lookup id = some session → session.id = id
  counted : ∀ id session, s.sessions.lookup id = some session → Counted session (s.sessionEvents id)
  silent : ∀ id, s.sessions.lookup id = none → s.sessionEvents id = []

theorem sequenced_init : Store.init.Sequenced := by
  refine ⟨fun id session h => ?_, fun id session h => ?_, fun id _ => rfl⟩
  · cases h
  · cases h

/-- Some events are appended to those of a session. -/
theorem Counted.append {session session' : Session} {events new : List Event}
    (h : Counted session events)
    (hnew : new.map (·.seq) = numbers session.lastEventSeq new.length)
    (hlast : session'.lastEventSeq = session.lastEventSeq + new.length)
    (hversion : session'.snapshotVersion = session.snapshotVersion + new.length) :
    Counted session' (events ++ new) := by
  refine ⟨?_, ?_, ?_⟩
  · rw [map_append, h.numbered, hnew, h.last, numbers_append, length_append]
  · rw [hlast, h.last, length_append, Nat.cast_add]
  · rw [hversion, h.version, length_append, Nat.cast_add]

/-- A call keeps the events numbered. -/
theorem Logs.sequenced (h : Logs s s') (hs : s.Sequenced) : s'.Sequenced := by
  cases h with
  | same sessions events =>
    refine ⟨fun id session hlookup => ?_, fun id session hlookup => ?_, fun id hnone => ?_⟩
    · exact hs.keyed id session (by rw [← sessions, hlookup])
    · rw [sessionEvents_congr events]
      exact hs.counted id session (by rw [← sessions, hlookup])
    · rw [sessionEvents_congr events]
      exact hs.silent id (by rw [← sessions, hnone])
  | opened session fresh first version sessions events =>
    have hevents := sessionEvents_congr events
    refine ⟨fun id session' hlookup => ?_, fun id session' hlookup => ?_, fun id hnone => ?_⟩
    · rw [sessions] at hlookup
      exact forall_insert hs.keyed rfl hlookup
    · rw [sessions] at hlookup
      rw [hevents]
      refine forall_insert hs.counted ?_ hlookup
      rw [hs.silent _ (lookup_eq_none.2 fresh)]
      exact ⟨rfl, first, version⟩
    · rw [sessions] at hnone
      rw [hevents]
      by_cases hid : id = session.id
      · rw [hid, lookup_insert] at hnone
        cases hnone
      · rw [lookup_insert_ne hid] at hnone
        exact hs.silent id hnone
  | appended id session _ _ found numbered same last version sessions events =>
    have hid : session.id = id := hs.keyed id session found
    rw [hid] at sessions
    have hevents := sessionEvents_append events
    refine ⟨fun id' session'' hlookup => ?_, fun id' session'' hlookup => ?_, fun id' hnone => ?_⟩
    · rw [sessions] at hlookup
      exact forall_insert hs.keyed (same.1.trans hid) hlookup
    · rw [sessions] at hlookup
      rcases lookup_insert_iff.1 hlookup with ⟨rfl, rfl⟩ | ⟨hne, hlookup⟩
      · rw [hevents, if_pos rfl]
        exact (hs.counted _ session found).append numbered last version
      · rw [hevents, if_neg hne]
        exact hs.counted id' session'' hlookup
    · rw [sessions] at hnone
      have hne : id' ≠ id := by
        rintro rfl
        rw [lookup_insert] at hnone
        cases hnone
      rw [lookup_insert_ne hne] at hnone
      rw [hevents, if_neg hne]
      exact hs.silent id' hnone

section

variable [Unicode] [Wire]

theorem Store.Sequenced.step (hs : s.Sequenced) (a : Action) : (s.step a).Sequenced := by
  rw [Store.step]
  split
  · next hcall => exact (effect_of_call hcall).logs.sequenced hs
  · exact hs

theorem sequenced_exec (as : List Action) : (Run.exec Store.step Store.init as).Sequenced :=
  Run.exec_induction (fun _ a hs => hs.step a) sequenced_init as

/-- In every state that is reached, the events of a session have the numbers from one to their
    count, in their order, and this count is the number of the last event and the version of the
    snapshot of the session. -/
theorem events_numbered (as : List Action) (id : String) (session : Session)
    (h : (Run.exec Store.step Store.init as).sessions.lookup id = some session) :
    let events := (Run.exec Store.step Store.init as).sessionEvents id
    events.map (·.seq) = (List.range events.length).map (fun i : Nat => (i : Int) + 1) ∧
      session.lastEventSeq = events.length ∧ session.snapshotVersion = events.length := by
  obtain ⟨hnumbered, hlast, hversion⟩ := (sequenced_exec as).counted id session h
  refine ⟨hnumbered.trans (map_congr_left fun i _ => ?_), hlast, hversion⟩
  exact zero_add _

end

section

namespace Sample

local instance : Unicode := Unicode.ascii
local instance : Wire := ⟨fun _ => "", List.length, List.length⟩

/-- A session of an account. -/
def opened : List Action :=
  [ .createNamespace ⟨"ns", "acc", "main", 0⟩,
    .createSession (.sample 1) { id := "ss", accountID := "acc", namespaceID := "ns" }]

/-- A message in the session, and another event. -/
def written : List Action :=
  opened ++
  [ .appendMessage (.sample 1)
      { accountID := "acc", sessionID := "ss", clientRequestID := "m", text := "hello",
        taskRunID := "r" },
    .appendEvent (.sample 2) { accountID := "acc", sessionID := "ss", type := "note" }]

/-- The session has three events after that. -/
theorem events_numbered_written :
    ∃ session, (Run.exec Store.step Store.init written).sessions.lookup "ss" = some session ∧
      session.lastEventSeq = 3 ∧
      session.lastEventSeq =
        ((Run.exec Store.step Store.init written).sessionEvents "ss").length := by
  have hsome : ((Run.exec Store.step Store.init written).sessions.lookup "ss").any
      (·.lastEventSeq == 3) = true := by
    decide +kernel
  obtain ⟨session, hlookup, hlast⟩ := (Option.any_eq_true _ _).1 hsome
  exact ⟨session, hlookup, beq_iff_eq.1 hlast, (events_numbered written "ss" session hlookup).2.1⟩

end Sample

end

end Accounts.Tasks.Memory

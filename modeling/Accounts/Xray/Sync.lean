import Accounts.Base.Check
import Accounts.Base.Run
import Accounts.Base.Table
import Accounts.Xray.Render

/-!
# Synchronising Xray

The syncer writes the configurations for the current clients, and restarts Xray if
a file changed (`internal/xrayconfig/syncer.go`). It remembers nothing: whether a
restart is needed is read off the files (`Syncer.sync`).

A cycle that reports success should leave Xray running with the configuration for
its clients (`Syncer.Fresh`). If a validation or a restart fails after a file was
written, the next cycle with the same clients finds the files unchanged, and
reports success without a restart (`stale_success`). If nothing fails in the cycles
that write a file (`Syncer.Prompt`), then between any two cycles Xray runs with the
files that are there (`State.Current`), and every cycle that reports success is
fresh, whatever fails in the other cycles (`fresh_of_prompt`).
-/

namespace Accounts.Xray

open List Option Except

/-! ## Files -/

/-- The contents of the files, by their path. -/
abbrev Files := Table String String

/-- What the disk does when a generator reads its file, or writes it. -/
inductive Disk
  | ok
  | unreadable (message : String)
  | unwritable (message : String)

inductive GenerateError
  | outputPath
  | render (e : RenderError)
  | read (message : String)
  | write (message : String)

def GenerateError.text : GenerateError → String
  | outputPath => "output path is required"
  | render e => e.text
  | read message => "read existing config: " ++ message
  | write message => "write config: " ++ message

/-- Why a cycle fails. -/
inductive SyncError
  | list (message : String)
  | generate (path : String) (e : GenerateError)
  | validate (message : String)
  | restart (message : String)

def SyncError.text : SyncError → String
  | list message => "list clients: " ++ message
  | generate path e => "generate config for " ++ path ++ ": " ++ e.text
  | validate message => "validate config: " ++ message
  | restart message => "restart xray: " ++ message

section

variable [JSONText]

/-- The file is written if its content is not the configuration for the clients.
    Says whether it was (`GenerateIfChanged`). -/
def Generator.generateIfChanged (g : Generator) (files : Files) (disk : Disk)
    (clients : List Client) : Except GenerateError (Bool × Files) :=
  if Text.trimSpace g.outputPath = "" then .error .outputPath else
  match g.render clients with
  | .error e => .error (.render e)
  | .ok buf =>
    match disk with
    | .unreadable message => .error (.read message)
    | .ok =>
      if files.lookup g.outputPath = some buf then .ok (false, files)
      else .ok (true, files.insert g.outputPath buf)
    | .unwritable message =>
      if files.lookup g.outputPath = some buf then .ok (false, files) else .error (.write message)

/-- The generators in turn, with the disk of each. Says whether a file was written.
    The files that were written before a failure stay. -/
def generate (clients : List Client) (disk : Nat → Disk) :
    Nat → List Generator → Files → Except SyncError Bool × Files
  | _, [], files => (.ok false, files)
  | i, g :: gs, files =>
    match g.generateIfChanged files (disk i) clients with
    | .error e => (.error (.generate g.outputPath e), files)
    | .ok written =>
      let rest := generate clients disk (i + 1) gs written.2
      (rest.1.map (written.1 || ·), rest.2)

/-- The configuration for the clients that a file is to have: that of the last
    generator of the path. -/
def wanted (clients : List Client) : List Generator → String → Option String
  | [], _ => none
  | g :: gs, path =>
    (wanted clients gs path).or (if g.outputPath = path then (g.render clients).toOption else none)

/-! ## Cycles -/

section

omit [JSONText]

/-- The settings of a syncer: at least one generator, and a path for each. -/
structure Syncer where
  generators : List Generator
  validateCommand : List String := []
  restartCommand : List String := []
  generators_ne : generators ≠ []
  paths_ne : ∀ g ∈ generators, Text.trimSpace g.outputPath ≠ ""

/-- What a cycle meets: the clients, the disk for each generator, and the outcome of
    the commands. -/
structure Cycle where
  listed : Except String (List Client)
  disk : Nat → Disk := fun _ => .ok
  validated : Except String Unit := .ok ()
  restarted : Except String Unit := .ok ()

/-- The files, and the files at the last restart of Xray that succeeded. -/
structure State where
  files : Files
  loaded : Option Files

def State.init : State := ⟨∅, none⟩

/-- Xray was restarted with the files that are there, or there are none yet. -/
def State.Current (s : State) : Prop := s.loaded = some s.files ∨ s.files = ∅

end

namespace Syncer

variable (syncer : Syncer) (s : State) (cycle : Cycle)

/-- The files changed: the configuration is validated, and Xray restarted. -/
def reload (n : Nat) : Except SyncError Nat × State :=
  match if syncer.validateCommand = [] then .ok () else cycle.validated with
  | .error message => (.error (.validate message), s)
  | .ok () =>
    if syncer.restartCommand = [] then (.ok n, s) else
    match cycle.restarted with
    | .error message => (.error (.restart message), s)
    | .ok () => (.ok n, { s with loaded := some s.files })

/-- One cycle: the number of clients, or an error. -/
def sync : Except SyncError Nat × State :=
  match cycle.listed with
  | .error message => (.error (.list message), s)
  | .ok clients =>
    match generate clients cycle.disk 0 syncer.generators s.files with
    | (.error e, files) => (.error e, { s with files := files })
    | (.ok false, files) => (.ok clients.length, { s with files := files })
    | (.ok true, files) => syncer.reload { s with files := files } cycle clients.length

/-- The state after a cycle. -/
def step : State := (syncer.sync s cycle).2

/-- If the cycle reports success, then Xray was last restarted with the configuration
    for its clients. -/
def Fresh : Prop :=
  ∀ clients n, cycle.listed = .ok clients → (syncer.sync s cycle).1 = .ok n →
    ∃ loaded, (syncer.step s cycle).loaded = some loaded ∧
      ∀ path content, wanted clients syncer.generators path = some content →
        loaded.lookup path = some content

/-- If the cycle changes the files, then no generator fails, nor validation or restart. -/
def Prompt : Prop :=
  ∀ clients, cycle.listed = .ok clients →
    (generate clients cycle.disk 0 syncer.generators s.files).2 ≠ s.files →
      (generate clients cycle.disk 0 syncer.generators s.files).1.isOk ∧
        (syncer.validateCommand = [] ∨ cycle.validated = .ok ()) ∧ cycle.restarted = .ok ()

end Syncer

/-! ## What is written -/

variable {files : Files} {clients : List Client}

/-- A file that was generated has the configuration, and no other file changed. -/
theorem generateIfChanged_ok {g : Generator} {disk : Disk} {written : Bool × Files}
    (h : g.generateIfChanged files disk clients = .ok written) :
    ∃ buf, g.render clients = .ok buf ∧ (written.1 = false → written.2 = files) ∧
      ∀ path, written.2.lookup path =
        if g.outputPath = path then some buf else files.lookup path := by
  simp only [Generator.generateIfChanged] at h
  split_ifs at h
  cases hrender : g.render clients with
  | error =>
    rw [hrender] at h
    cases h
  | ok buf =>
    rw [hrender] at h
    -- The file is found to have the configuration, or is written.
    have hcases : (written = (false, files) ∧ files.lookup g.outputPath = some buf) ∨
        written = (true, files.insert g.outputPath buf) := by
      cases disk with
      | unreadable => cases h
      | ok =>
        dsimp only at h
        split_ifs at h with hsame
        · exact .inl ⟨(ok.inj h).symm, hsame⟩
        · exact .inr (ok.inj h).symm
      | unwritable =>
        dsimp only at h
        split_ifs at h with hsame
        exact .inl ⟨(ok.inj h).symm, hsame⟩
    refine ⟨buf, rfl, ?_⟩
    rcases hcases with ⟨rfl, hsame⟩ | rfl
    · refine ⟨fun _ => rfl, fun path => ?_⟩
      split_ifs with hpath
      · rw [← hpath, hsame]
      · rfl
    · refine ⟨by simp, fun path => ?_⟩
      split_ifs with hpath
      · rw [← hpath, AList.lookup_insert]
      · rw [AList.lookup_insert_ne (Ne.symm hpath)]

variable {gs : List Generator}

/-- After the generators, every file has the configuration wanted of it, and the
    others are as they were. -/
theorem generate_ok {disk : Nat → Disk} {i : Nat} {files' : Files} {changed : Bool}
    (h : generate clients disk i gs files = (.ok changed, files')) :
    (changed = false → files' = files) ∧
      ∀ path, files'.lookup path = (wanted clients gs path).or (files.lookup path) := by
  induction gs generalizing i files changed with
  | nil =>
    cases h
    exact ⟨fun _ => rfl, fun _ => rfl⟩
  | cons g _ ih =>
    rw [generate] at h
    cases hg : g.generateIfChanged files (disk i) clients with
    | error =>
      rw [hg] at h
      cases h
    | ok =>
      rw [hg] at h
      obtain ⟨hchanged, hfiles⟩ := Prod.mk.inj h
      obtain ⟨_, hlater, hor⟩ := map_eq_ok.1 hchanged
      obtain ⟨_, hrender, hsame, hlookup⟩ := generateIfChanged_ok hg
      obtain ⟨hunchanged, hrest⟩ := ih (Prod.ext hlater hfiles)
      subst hor
      constructor
      · intro hno
        rw [Bool.or_eq_false_iff] at hno
        rw [hunchanged hno.2, hsame hno.1]
      · intro path
        rw [hrest path, hlookup path, wanted, hrender, Option.or_assoc]
        split_ifs <;> rfl

/-- Where there is no file yet, one is written. -/
theorem generate_ne_of_empty {disk : Nat → Disk} {i : Nat} {files' : Files} (hgs : gs ≠ []) :
    generate clients disk i gs ∅ ≠ (.ok false, files') := by
  intro h
  obtain ⟨g, gs, rfl⟩ := exists_cons_of_ne_nil hgs
  rw [generate] at h
  cases hg : g.generateIfChanged ∅ (disk i) clients with
  | error =>
    rw [hg] at h
    cases h
  | ok =>
    rw [hg] at h
    obtain ⟨_, -, hor⟩ := map_eq_ok.1 (Prod.mk.inj h).1
    obtain ⟨buf, -, hsame, hlookup⟩ := generateIfChanged_ok hg
    have hfile := hlookup g.outputPath
    rw [if_pos rfl, hsame (Bool.or_eq_false_iff.1 hor).1] at hfile
    cases hfile

/-! ## Fresh cycles -/

namespace Syncer

variable {syncer : Syncer} (hrestart : syncer.restartCommand ≠ []) {s : State} {cycle : Cycle}

omit [JSONText] in
include hrestart in
/-- A reload restarts Xray, or fails in one of its commands. -/
theorem reload_cases (s : State) (cycle : Cycle) (n : Nat) :
    syncer.reload s cycle n = (.ok n, { s with loaded := some s.files }) ∨
      (∃ e, syncer.reload s cycle n = (.error e, s)) ∧
        ¬ ((syncer.validateCommand = [] ∨ cycle.validated = .ok ()) ∧
          cycle.restarted = .ok ()) := by
  rw [reload]
  cases hvalidate : (if syncer.validateCommand = [] then .ok () else cycle.validated) with
  | error =>
    refine .inr ⟨⟨_, rfl⟩, ?_⟩
    rintro ⟨hempty | hvalidated, -⟩
    · rw [if_pos hempty] at hvalidate
      cases hvalidate
    · rw [hvalidated, ite_self] at hvalidate
      cases hvalidate
  | ok =>
    rw [if_neg hrestart]
    cases hrestarted : cycle.restarted with
    | error => exact .inr ⟨⟨_, rfl⟩, fun h => by cases h.2⟩
    | ok => exact .inl rfl

include hrestart in
/-- What a cycle does if Xray runs with the files that are there, and if nothing fails
    once a file was written. It fails and changes nothing, or succeeds and leaves Xray
    running with the generated files. -/
theorem sync_cases (hs : s.Current) (hprompt : syncer.Prompt s cycle) :
    (∃ e, syncer.sync s cycle = (.error e, s)) ∨
      ∃ clients changed files, cycle.listed = .ok clients ∧
        generate clients cycle.disk 0 syncer.generators s.files = (.ok changed, files) ∧
        syncer.sync s cycle = (.ok clients.length, ⟨files, some files⟩) := by
  rw [sync]
  cases hlisted : cycle.listed with
  | error => exact .inl ⟨_, rfl⟩
  | ok clients =>
    have hnone := hprompt clients hlisted
    dsimp only
    rcases hgenerate : generate clients cycle.disk 0 syncer.generators s.files with
      ⟨e | changed, files⟩
    · -- A generator failed, so no file was written before it.
      rw [hgenerate] at hnone
      have hfiles : files = s.files := by
        by_contra hne
        exact absurd (hnone hne).1 (by simp [Except.isOk, Except.toBool])
      exact .inl ⟨e, by rw [hfiles]⟩
    · rw [hgenerate] at hnone
      cases changed with
      | false =>
        have hfiles : files = s.files := (generate_ok hgenerate).1 rfl
        refine .inr ⟨clients, false, files, rfl, hgenerate, ?_⟩
        rcases hs with hloaded | hempty
        · rw [hfiles, hloaded]
        · rw [hempty] at hgenerate
          exact absurd hgenerate (generate_ne_of_empty syncer.generators_ne)
      | true =>
        rcases reload_cases hrestart { s with files := files } cycle clients.length with
          hreload | ⟨⟨e, hreload⟩, hfails⟩
        · exact .inr ⟨clients, true, files, rfl, hgenerate, hreload⟩
        · have hfiles : files = s.files := by
            by_contra hne
            exact hfails (hnone hne).2
          exact .inl ⟨e, hreload.trans (by rw [hfiles])⟩

include hrestart in
/-- After such a cycle Xray runs with the files that are there. -/
theorem current_step (hs : s.Current) (hprompt : syncer.Prompt s cycle) :
    (syncer.step s cycle).Current := by
  rw [step]
  rcases sync_cases hrestart hs hprompt with ⟨_, hsync⟩ | ⟨_, _, _, -, -, hsync⟩
  · rwa [hsync]
  · exact hsync ▸ .inl rfl

include hrestart in
/-- If such a cycle reports success, Xray runs with the configuration for its clients. -/
theorem fresh_of_current (hs : s.Current) (hprompt : syncer.Prompt s cycle) :
    syncer.Fresh s cycle := by
  intro clients n hlisted hok
  rw [step]
  rcases sync_cases hrestart hs hprompt with
    ⟨_, hsync⟩ | ⟨clients', _, files, hlisted', hgenerate, hsync⟩
  · rw [hsync] at hok
    cases hok
  · cases hlisted.symm.trans hlisted'
    refine ⟨files, by rw [hsync], fun path content hwanted => ?_⟩
    rw [(generate_ok hgenerate).2 path, hwanted, Option.some_or]

/-- If nothing fails in the cycles that write a file, then every cycle that reports
    success leaves Xray running with the configuration for its clients. The other cycles
    may fail in any way. -/
theorem fresh_of_prompt (syncer : Syncer) (hrestart : syncer.restartCommand ≠ []) (s : State)
    (hs : s.Current) (cycles : List Cycle)
    (hprompt : Run.Guarded syncer.step syncer.Prompt s cycles) :
    Run.Guarded syncer.step syncer.Fresh s cycles :=
  hprompt.imp (fun _ _ hprompt hs => current_step hrestart hs hprompt)
    (fun _ _ hprompt hs => fresh_of_current hrestart hs hprompt) hs

end Syncer

end

/-! ## A stale success -/

section

namespace Sample

/-- A writer of JSON that shows the number of clients only. -/
local instance : JSONText := ⟨fun root =>
  match root.get? "inbounds" with
  | some (.slice (.map inbound :: _)) =>
    match Object.get? inbound "settings" with
    | some (.map settings) =>
      match Object.get? settings "clients" with
      | some (.slice clients) => toString clients.length
      | _ => ""
    | _ => ""
  | _ => ""⟩

/-- A generator with one inbound. -/
def generator : Generator where
  template := .ok [("inbounds", .slice [.map [("settings", .map [("clients", .slice [])])]])]
  outputPath := "xray.json"

/-- A syncer that restarts Xray. -/
def syncer : Syncer where
  generators := [generator]
  restartCommand := ["systemctl", "restart", "xray"]
  generators_ne := List.cons_ne_nil _ _
  paths_ne := by decide +kernel

/-- The cycles for a client, with the outcome of the restart. -/
def cycle (restarted : Except String Unit) : Cycle where
  listed := .ok [{ id := "a" }]
  restarted := restarted

/-- The configuration is written, but Xray is not restarted. The next cycle finds it
    unchanged, and reports success: Xray was never restarted. -/
theorem stale_success : let s := syncer.step .init (cycle (.error "exit status 1"))
    (syncer.sync s (cycle (.ok ()))).1.toOption = some 1 ∧
      (syncer.step s (cycle (.ok ()))).loaded = none ∧
      ¬ Run.Guarded syncer.step syncer.Fresh .init
          [cycle (.error "exit status 1"), cycle (.ok ())] := by
  intro s
  have hok : (syncer.sync s (cycle (.ok ()))).1.toOption = some 1 := by decide +kernel
  have hnone : (syncer.step s (cycle (.ok ()))).loaded = none := by decide +kernel
  refine ⟨hok, hnone, ?_⟩
  rintro ⟨-, hfresh, -⟩
  obtain ⟨loaded, hloaded, -⟩ := hfresh _ 1 rfl (toOption_eq_some.1 hok)
  cases hnone.symm.trans hloaded

/-- A restart, a cycle without clients to list, a cycle that finds nothing to do where a
    restart would fail, and a second client. -/
theorem fresh_of_prompt_sample :
    Run.Guarded syncer.step syncer.Fresh .init
      [cycle (.ok ()), { listed := .error "timeout" }, cycle (.error "exit status 1"),
        { listed := .ok [{ id := "a" }, { id := "b" }] }] := by
  refine Syncer.fresh_of_prompt syncer (cons_ne_nil _ _) .init (.inr rfl) _
    ⟨?_, ?_, ?_, ?_, trivial⟩ <;> rintro clients ⟨⟩ hne
  · exact ⟨by decide +kernel, .inl rfl, rfl⟩
  · exact absurd (AList.ext (by decide +kernel)) hne
  · exact ⟨by decide +kernel, .inl rfl, rfl⟩

end Sample

end

end Accounts.Xray

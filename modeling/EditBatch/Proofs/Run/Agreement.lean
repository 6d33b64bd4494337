import EditBatch.Proofs.Row.Grouping
import EditBatch.Proofs.Run.Completion
import EditBatch.Proofs.Run.Ledger

/-! A batch that runs here and one that is exported.

An export says which item an edit is for by where it stands, a run by the ref that the edit has come
to when it is sent off. With one slot a run carries out the commands in list order, and so the
creation that has renamed an edit is the latest one in front of it, which is the one that `LAST`
stands for.
-/

set_option autoImplicit false

namespace EditBatch

open Execution
open QuickStatements (Operation operations? read? ofCommands instructionsOf)

variable {σ : Type}

/-! ## What a run carries out -/

def CommandResult.newId? : CommandResult → Option String
  | .success newId => newId
  | .failure _ _ _ => none

def Command.operation? (command : Command) (ref : String) (result : Option CommandResult) :
    Option Operation :=
  match command.mode with
  | .create => (result.bind CommandResult.newId?).map fun item => .create item command.page
  | .add => some (.edit false ref command.prop command.value)
  | .delete => some (.edit true ref command.prop command.value)
  | .other _ => none

def Run.operations? (run : Run) : Option (List Operation) :=
  run.dispatches.mapM fun (index, ref) =>
    run.commands[index]?.bind fun command => command.operation? ref (run.outcomes.lookup index)

def Entry.operation? (entry : Entry) : Option Operation :=
  entry.command.operation? entry.command.entityRef (some entry.result)

/-! ## Refs in the course of a ledger -/

def Entry.rename (ref : String) (entry : Entry) : String :=
  match Run.replacement? entry.command entry.result with
  | some newId => if ref = entry.command.entityRef then newId else ref
  | none => ref

def renamed (entries : List Entry) (ref : String) : String := entries.foldl Entry.rename ref

theorem renamed_concat (entries : List Entry) (entry : Entry) (ref : String) :
    renamed (entries ++ [entry]) ref = entry.rename (renamed entries ref) := by
  rw [renamed, List.foldl_concat, renamed]

theorem Entry.replacement?_of_edit {entry : Entry} (edits : entry.command.mode ≠ .create) :
    Run.replacement? entry.command entry.result = none := by
  rw [Option.eq_none_iff_forall_ne_some]
  intro newId replaced
  exact edits (Run.replacement?_eq_some_iff.mp replaced).1

theorem Entry.rename_of_edit {entry : Entry} (edits : entry.command.mode ≠ .create)
    (ref : String) : entry.rename ref = ref := by
  rw [rename, replacement?_of_edit edits]

/-- A command that waits for what entries have come to. -/
def Command.behind (entries : List Entry) (command : Command) : Command :=
  { command with entityRef := renamed entries command.entityRef }

theorem redirected_behind {entries : List Entry} {entry : Entry} {command : Command}
    (waiting : command.status = .waiting) :
    Run.redirected entry.command entry.result (command.behind entries) =
      command.behind (entries ++ [entry]) := by
  simp only [Command.behind, renamed_concat, Run.redirected, Entry.rename]
  cases Run.replacement? entry.command entry.result with
  | none => rfl
  | some newId =>
    simp only [Command.follows, Command.isDone, waiting]
    by_cases same : renamed entries command.entityRef = entry.command.entityRef
    · simp [same]
    · simp [same]

namespace Entry

variable {entry : Entry} {earlier : List Entry} {command : Command}

theorem operation?_of_create {item : String} (carried : entry.command = command.behind earlier)
    (replaced : Run.replacement? entry.command entry.result = some item) :
    entry.operation? = some (.create item command.page) := by
  obtain ⟨creates, -, success⟩ := Run.replacement?_eq_some_iff.mp replaced
  simp only [operation?, Command.operation?, creates, success]
  rw [carried]
  rfl

theorem operation?_of_edit (carried : entry.command = command.behind earlier)
    (edits : command.mode = .add ∨ command.mode = .delete) :
    entry.operation? = some (.edit (command.mode = .delete) entry.command.entityRef command.prop
      command.value) := by
  have mode : entry.command.mode = command.mode := by rw [carried]; rfl
  rcases edits with adds | deletes
  · simp only [operation?, Command.operation?, mode, adds]
    rw [carried]
    rfl
  · simp only [operation?, Command.operation?, mode, deletes]
    rw [carried]
    rfl

end Entry

/-- Entries are of commands, one after the other. -/
inductive Accounts : (earlier : List Entry) → List Command → List Entry → Prop where
  | nil {earlier : List Entry} : Accounts earlier [] []
  | cons {earlier entries : List Entry} {entry : Entry} {command : Command} {rest : List Command}
      (carried : entry.command = command.behind earlier)
      (later : Accounts (earlier ++ [entry]) rest entries) :
      Accounts earlier (command :: rest) (entry :: entries)

namespace Accounts

variable {earlier entries : List Entry} {commands : List Command}

theorem concat (accounts : Accounts earlier commands entries) {entry : Entry} {command : Command}
    (carried : entry.command = command.behind (earlier ++ entries)) :
    Accounts earlier (commands ++ [command]) (entries ++ [entry]) := by
  induction accounts with
  | nil =>
    rw [List.append_nil] at carried
    exact .cons carried .nil
  | cons first _ ih =>
    rw [List.append_cons] at carried
    exact .cons first (ih carried)

theorem getElem? (accounts : Accounts earlier commands entries) {position : Nat} {entry : Entry}
    (there : entries[position]? = some entry) :
    ∃ command, commands[position]? = some command ∧
      entry.command = { command with entityRef := entry.command.entityRef } := by
  induction accounts generalizing position with
  | nil => simp at there
  | @cons earlier entries first command rest carried _ ih =>
    cases position with
    | zero =>
      cases there
      exact ⟨command, rfl, by rw [carried]; rfl⟩
    | succ position => exact ih there

end Accounts

/-- The first so many commands have been carried out, and all others wait. -/
structure Ledger.InOrder (commands : List Command) (ledger : Ledger σ) : Prop where
  indices : ledger.entries.map (·.index) = List.range ledger.entries.length
  accounts : Accounts [] (commands.take ledger.entries.length) ledger.entries
  done : ∀ {position : Nat} {command : Command}, position < ledger.entries.length →
    ledger.commands[position]? = some command → command.status = .done
  ahead : ∀ {position : Nat}, ledger.entries.length ≤ position →
    ledger.commands[position]? = commands[position]?.map (·.behind ledger.entries)

namespace Ledger

variable {setup : Setup σ} {commands : List Command} {ledger next : Ledger σ}

theorem inOrder_start (commands : List Command) (client : σ) :
    ({ commands, client } : Ledger σ).InOrder commands where
  indices := rfl
  accounts := .nil
  done := fun before => absurd before (Nat.not_lt_zero _)
  ahead := fun _ => Option.map_id'.symm

theorem InOrder.eligible (inOrder : ledger.InOrder commands)
    (waiting : ∀ command ∈ commands, command.status = .waiting)
    (startable : Startable ledger.commands) {index : Nat} {command : Command}
    (eligible : Command.nextEligible? ledger.commands = some index)
    (found : ledger.commands[index]? = some command) : index = ledger.entries.length := by
  have waits := (Command.nextEligible?_spec eligible found).1
  have after : ledger.entries.length ≤ index := by
    apply Nat.le_of_not_lt
    intro before
    simp [inOrder.done before found] at waits
  have inside := (List.getElem?_eq_some_iff.mp found).1
  obtain ⟨first, there⟩ : ∃ first, ledger.commands[ledger.entries.length]? = some first :=
    ⟨_, List.getElem?_eq_getElem (Nat.lt_of_le_of_lt after inside)⟩
  obtain ⟨source, was, rfl⟩ :=
    Option.map_eq_some_iff.mp ((inOrder.ahead (Nat.le_refl _)).symm.trans there)
  -- Between two turns nothing runs, so that no item is taken and the first in waiting is next.
  have idle : ∀ other ∈ ledger.commands, other.status ≠ .running := by
    intro other member running
    rcases startable other member with waits | done
    · simp [running] at waits
    · simp [running] at done
  exact Nat.le_antisymm (Command.nextEligible?_le idle there
    (waiting source (List.mem_of_getElem? was)) eligible) after

theorem InOrder.turn (inOrder : ledger.InOrder commands)
    (waiting : ∀ command ∈ commands, command.status = .waiting)
    (startable : Startable ledger.commands) (turn : ledger.Turn setup next) :
    next.InOrder commands := by
  cases turn with
  | @enter index command now eligible found =>
    obtain rfl := inOrder.eligible waiting startable eligible found
    obtain ⟨source, there, rfl⟩ :=
      Option.map_eq_some_iff.mp ((inOrder.ahead (Nat.le_refl _)).symm.trans found)
    refine ⟨?_, ?_, ?_, ?_⟩
    · rw [enter, List.map_append, inOrder.indices, List.length_append, List.length_singleton,
        List.range_succ]
      rfl
    · rw [enter, List.length_append, List.length_singleton, List.take_add_one, there]
      exact inOrder.accounts.concat rfl
    · intro position command before is
      rw [enter, List.length_append, List.length_singleton] at before
      rcases Run.cases_of_completed found is with ⟨-, rfl⟩ | ⟨elsewhere, former, was, rfl⟩
      · rfl
      · rw [Run.status_redirected]
        exact inOrder.done (by omega) was
    · intro position after
      rw [enter, List.length_append, List.length_singleton] at after
      rw [enter, Run.getElem?_afterCompletion found, if_neg (by omega),
        inOrder.ahead (by omega), Option.map_map]
      cases is : commands[position]? with
      | none => rfl
      | some command =>
        exact congrArg some (redirected_behind (waiting command (List.mem_of_getElem? is)))

theorem SharedCourse.inOrder {client : σ}
    (course : SharedCourse setup { commands, client } ledger)
    (waiting : ∀ command ∈ commands, command.status = .waiting) : ledger.InOrder commands := by
  induction course with
  | refl => exact inOrder_start commands client
  | tail before further ih =>
    have startable := SharedCourse.startable before fun command member =>
      .inl (waiting command member)
    rcases further with turn | ⟨other, rfl⟩
    · exact ih.turn waiting startable turn
    · exact ⟨ih.indices, ih.accounts, ih.done, ih.ahead⟩

theorem InOrder.accounts_of_done (inOrder : ledger.InOrder commands)
    (waiting : ∀ command ∈ commands, command.status = .waiting)
    (done : ∀ command ∈ ledger.commands, command.status = .done) :
    Accounts [] commands ledger.entries := by
  have complete : commands.length ≤ ledger.entries.length := by
    apply Nat.le_of_not_lt
    intro more
    have there := List.getElem?_eq_getElem more
    have ahead := inOrder.ahead (Nat.le_refl _)
    rw [there, Option.map_some] at ahead
    have finished := done _ (List.mem_of_getElem? ahead)
    simp [Command.behind, waiting _ (List.getElem_mem more)] at finished
  have accounts := inOrder.accounts
  rwa [List.take_of_length_le complete] at accounts

end Ledger

/-! ## Two readings -/

/-- Refs are where the reader of an export is: the latest placeholder stands for the latest item,
and nothing has happened to refs that no creation was on. -/
structure Agrees (used : List String) (latest last : Option String) (earlier : List Entry) :
    Prop where
  stands : ∀ ref ∈ used, Item.isPlaceholder ref = true
  fresh : ∀ ref, ref ∉ used → renamed earlier ref = ref
  last : ∀ stand, latest = some stand → last = some (renamed earlier stand)

namespace Agrees

variable {used : List String} {latest last : Option String} {earlier : List Entry}
  {entry : Entry} {command : Command}

theorem create (agrees : Agrees used latest last earlier)
    (carried : entry.command = command.behind earlier) {item : String}
    (replaced : Run.replacement? entry.command entry.result = some item)
    (stands : Item.isPlaceholder command.entityRef = true) (fresh : command.entityRef ∉ used) :
    Agrees (command.entityRef :: used) (some command.entityRef) (some item)
      (earlier ++ [entry]) := by
  have unmoved := agrees.fresh _ fresh
  have named : entry.command.entityRef = command.entityRef := by rw [carried]; exact unmoved
  have rename (ref : String) :
      entry.rename ref = if ref = command.entityRef then item else ref := by
    rw [Entry.rename, replaced, ← named]
  refine ⟨List.forall_mem_cons.mpr ⟨stands, agrees.stands⟩, fun ref unused => ?_, ?_⟩
  · obtain ⟨other, before⟩ := List.ne_and_not_mem_of_not_mem_cons unused
    rw [renamed_concat, agrees.fresh ref before, rename, if_neg other]
  · rintro stand ⟨⟩
    rw [renamed_concat, unmoved, rename, if_pos rfl]

theorem edit (agrees : Agrees used latest last earlier) (edits : entry.command.mode ≠ .create) :
    Agrees used latest last (earlier ++ [entry]) := by
  have same (ref : String) : renamed (earlier ++ [entry]) ref = renamed earlier ref := by
    rw [renamed_concat, Entry.rename_of_edit edits]
  exact ⟨agrees.stands, fun ref unused => (same ref).trans (agrees.fresh ref unused),
    fun stand is => by rw [same]; exact agrees.last stand is⟩

theorem target (agrees : Agrees used latest last earlier)
    (belongs : Item.isPlaceholder command.entityRef = true → latest = some command.entityRef) :
    (if Item.isPlaceholder command.entityRef then last else some command.entityRef) =
      some (command.behind earlier).entityRef := by
  split
  next stands => exact agrees.last _ (belongs stands)
  next concrete =>
    have unused : command.entityRef ∉ used := fun taken => concrete (agrees.stands _ taken)
    rw [Command.behind, agrees.fresh _ unused]

end Agrees

def newItems (entries : List Entry) : List String :=
  entries.flatMap fun entry => (Run.replacement? entry.command entry.result).toList

/-- What commands are exported as does what their entries tell, whatever has been done before. -/
theorem operations?_of_accounts {wiki : String} {commands : List Command} {entries : List Entry}
    {used : List String} {latest last : Option String} {earlier : List Entry}
    (accounts : Accounts earlier commands entries) (grouped : Grouped used latest commands)
    (agrees : Agrees used latest last earlier)
    (edits : ∀ command ∈ commands, command.mode ≠ .create →
      command.mode = .add ∨ command.mode = .delete)
    (created : ∀ entry ∈ entries, entry.command.mode = .create →
      (Run.replacement? entry.command entry.result).isSome) :
    ∃ operations,
      operations? (newItems entries) last (commands.flatMap (instructionsOf wiki)) =
        some operations ∧ entries.mapM Entry.operation? = some operations := by
  -- The reader keeps to the latest item and the run to its renamed refs. That the two agree is
  -- kept by every command, so both come to the same whatever stands in front.
  induction accounts generalizing used latest last with
  | nil => exact ⟨[], rfl, rfl⟩
  | @cons earlier entries entry command rest carried _ ih =>
    obtain ⟨edit, moreEdits⟩ := List.forall_mem_cons.mp edits
    obtain ⟨creates, moreCreates⟩ := List.forall_mem_cons.mp created
    have mode : entry.command.mode = command.mode := by rw [carried]; rfl
    simp only [newItems, List.flatMap_cons, List.mapM_cons]
    cases grouped with
    | create creation stands fresh later =>
      obtain ⟨item, replaced⟩ := Option.isSome_iff_exists.mp (creates (mode.trans creation))
      obtain ⟨operations, reads, runs⟩ := ih later
        (agrees.create carried replaced stands fresh) moreEdits moreCreates
      refine ⟨.create item command.page :: operations, ?_, ?_⟩
      · rw [replaced, Option.toList_some, List.singleton_append,
          QuickStatements.operations?_create creation]
        exact congrArg (Option.map _) reads
      · rw [Entry.operation?_of_create carried replaced, runs]
        rfl
    | edit isEdit belongs later =>
      have remains : entry.command.mode ≠ .create := mode ▸ isEdit
      obtain ⟨operations, reads, runs⟩ := ih later (agrees.edit remains) moreEdits moreCreates
      refine ⟨.edit (command.mode = .delete) entry.command.entityRef command.prop command.value ::
        operations, ?_, ?_⟩
      · rw [Entry.replacement?_of_edit remains, Option.toList_none, List.nil_append,
          QuickStatements.operations?_edit isEdit (carried ▸ agrees.target belongs)]
        exact congrArg (Option.map _) reads
      · rw [Entry.operation?_of_edit carried (edit isEdit), runs]
        rfl

/-! ## Runs -/

theorem index_of_getElem? {entries : List Entry}
    (indices : entries.map (·.index) = List.range entries.length) {position : Nat}
    {entry : Entry} (there : entries[position]? = some entry) : entry.index = position := by
  have inside := (List.getElem?_eq_some_iff.mp there).1
  have same := congrArg (·[position]?) indices
  simp only [List.getElem?_map, there, Option.map_some, List.getElem?_range inside] at same
  exact Option.some.inj same

theorem Run.Tells.lookup_outcomes {run : Run} {entries : List Entry}
    (tells : run.Tells entries entries)
    (indices : entries.map (·.index) = List.range entries.length) {entry : Entry}
    (member : entry ∈ entries) : run.outcomes.lookup entry.index = some entry.result := by
  have apart : (entries.map (·.index)).Nodup := indices ▸ List.nodup_range
  obtain ⟨before, after, rfl⟩ := List.append_of_mem member
  refine List.lookup_eq_some_iff.mpr
    ⟨before.map fun entry => (entry.index, entry.result),
      after.map fun entry => (entry.index, entry.result), ?_, ?_⟩
  · rw [tells.outcomes, List.map_append, List.map_cons]
  · intro pair among
    obtain ⟨other, there, rfl⟩ := List.mem_map.mp among
    rw [List.map_append, List.nodup_append] at apart
    have different := apart.2.2 other.index (List.mem_map_of_mem there) entry.index (by simp)
    simpa using Ne.symm different

namespace Machine

variable {setup : Setup σ} {clock limit throttle : Nat} {client : σ} {commands : List Command}
  {entries : List Entry} {machine : Machine σ}

theorem Reaches.operations?_eq
    (reached : (start clock commands limit throttle client).Reaches setup machine)
    (tells : machine.run.Tells entries entries)
    (indices : entries.map (·.index) = List.range entries.length)
    (accounts : Accounts [] commands entries) :
    machine.run.operations? = entries.mapM Entry.operation? := by
  have same (entry : Entry) (member : entry ∈ entries) :
      (machine.run.commands[entry.index]?.bind fun command =>
        command.operation? entry.command.entityRef (machine.run.outcomes.lookup entry.index)) =
          entry.operation? := by
    obtain ⟨position, there⟩ := List.mem_iff_getElem?.mp member
    obtain ⟨command, source, carried⟩ := accounts.getElem? there
    obtain ⟨after, is⟩ := reached.current source
    have framed := reached.framed source is
    rw [tells.lookup_outcomes indices member, index_of_getElem? indices there, is,
      Option.bind_some, Entry.operation?, framed, carried]
    rfl
  -- Both sides go through the entries one by one, and they agree on each.
  have reads := congrArg (List.mapM id) (List.map_congr_left same)
  simp only [List.mapM_map, Function.id_comp] at reads
  rw [Run.operations?, tells.dispatches, List.mapM_map]
  exact reads

/-- A batch does the same when it is exported and when it is run with one slot: what the rows of the
export ask for, read one after the other with `LAST` for the latest item, is what the commands do
that the run sends off, if all creations succeed and the items of the export are theirs. A run
that can pause, is not stopped and meets no fatal failure carries out all commands. -/
theorem export_reads_as_run (setup : Setup σ) (clock throttle : Nat) (client : σ)
    {wiki text : String} {selections : List Selection} {batch : Batch}
    (ok : Batch.read text selections = .ok batch)
    (named : ∀ selection ∈ selections, selection.Named) (plainWiki : '|' ∉ wiki.toList)
    (plainPages : ∀ selection ∈ selections, '|' ∉ selection.page.toList) :
    (∀ machine : Machine σ,
      (start clock batch.commands 1 throttle client).Reaches setup machine →
      machine.run.phase = .ended .completed →
      (∀ (index : Nat) (command : Command), batch.commands[index]? = some command →
        command.mode = .create → ∃ item, item ≠ "" ∧
          machine.run.outcomes.lookup index = some (.success (some item))) →
      ∃ operations,
        read? machine.run.createdIds (ofCommands wiki batch.commands) = some operations ∧
          machine.run.operations? = some operations) ∧
    (¬ (pauseLimit ≤ throttle ∨ pauseLimit ≤ setup.poll) →
      (∀ command, (setup.listener command).cancels = false) → setup.client.Meets Recovers →
      ∃ machine : Machine σ,
        (start clock batch.commands 1 throttle client).Reaches setup machine ∧
          machine.run.phase = .ended .completed) := by
  have waiting := Batch.waiting_of_read ok
  have exportable := Batch.exportable_of_read ok named plainPages
  constructor
  · intro machine reached completed succeeded
    obtain ⟨ledger, course, current, tells⟩ := reached.ledger_of_ended completed
    have inOrder := course.inOrder waiting
    have accounts := inOrder.accounts_of_done waiting
      (current ▸ reached.done_of_completed completed)
    have created : ∀ entry ∈ ledger.entries, entry.command.mode = .create →
        (Run.replacement? entry.command entry.result).isSome := by
      intro entry member creates
      obtain ⟨position, there⟩ := List.mem_iff_getElem?.mp member
      obtain ⟨command, source, carried⟩ := accounts.getElem? there
      obtain ⟨item, usable, success⟩ :=
        succeeded position command source (by rw [carried] at creates; exact creates)
      rw [← index_of_getElem? inOrder.indices there, tells.lookup_outcomes inOrder.indices member]
        at success
      exact Option.isSome_iff_exists.mpr ⟨item, Run.replacement?_eq_some_iff.mpr
        ⟨creates, usable, Option.some.inj success⟩⟩
    obtain ⟨operations, reads, runs⟩ := operations?_of_accounts accounts
      (Batch.grouped_of_read ok named) ⟨by simp, fun _ _ => rfl, by simp⟩
      (fun command member => (exportable command member).edits) created
    refine ⟨operations, ?_, ?_⟩
    · rw [read?, QuickStatements.instructions?_ofCommands plainWiki exportable, Option.bind_some,
        tells.createdIds]
      exact reads
    · rw [reached.operations?_eq tells inOrder.indices accounts, runs]
  · intro representable uncancelled meets
    obtain ⟨machine, -, steps, ended, -⟩ := runToEnd_completed clock client
      (fun command member => .inl (waiting command member)) Nat.one_pos representable uncancelled
      meets
    exact ⟨machine, steps.reaches, ended⟩

def numbering : Setup Nat where
  client :=
    { perform := fun _ call count =>
        match call with
        | .createEntity _ _ => (⟨.ok ("Q" ++ toString count), 10⟩, count + 1)
        | .readStatements _ _ => (⟨.ok [], 10⟩, count)
        | .setLabel _ _ _ | .setStatement _ _ _ | .removeStatement _ => (⟨.ok (), 10⟩, count) }
  wiki := "enwiki"
  poll := 30
  poll_pos := by decide
  listener := fun _ => {}

def mixedSelections : List Selection :=
  [{ entityRef := some "q1" }, { page := "Foo (film)", create := true },
   { page := "Bar", fromRedlink := true, create := true }]

def mixedBatch : Batch where
  commands :=
    [{ id := 0, entityRef := "Q1", mode := .delete, prop := "P31", value := some "Q5"
       closesGroup := true },
     { id := 1, entityRef := "create_item_1", mode := .create, page := "Foo (film)" },
     { id := 2, entityRef := "create_item_1", mode := .delete, prop := "P31"
       value := some "Q5", closesGroup := true },
     { id := 3, entityRef := "create_item_2", mode := .create, page := "Bar"
       fromRedlink := true },
     { id := 4, entityRef := "create_item_2", mode := .delete, prop := "P31"
       value := some "Q5", closesGroup := true }]
  malformed := []

def mixedRun : Machine Nat := (start 5 mixedBatch.commands 1 20 100).steps numbering 1000 60

theorem numbering_meets_recovers : numbering.client.Meets Recovers := by
  intro now call count
  cases call <;> simp [numbering, Recovers]

theorem export_reads_as_run_numbering :
    Batch.read "-P31:Q5" mixedSelections = .ok mixedBatch ∧
      (∀ selection ∈ mixedSelections, selection.Named) ∧ numbering.client.Meets Recovers ∧
      (∃ machine, (start 5 mixedBatch.commands 1 20 100).Reaches numbering machine ∧
        machine.run.phase = .ended .completed) ∧
      mixedRun.run.phase = .ended .completed ∧ mixedRun.run.createdIds = ["Q100", "Q101"] ∧
      read? mixedRun.run.createdIds (ofCommands "enwiki" mixedBatch.commands) =
        mixedRun.run.operations? ∧
      mixedRun.run.operations? =
        some [.edit true "Q1" "P31" (some "Q5"), .create "Q100" "Foo (film)",
          .edit true "Q100" "P31" (some "Q5"), .create "Q101" "Bar",
          .edit true "Q101" "P31" (some "Q5")] := by
  have ok : Batch.read "-P31:Q5" mixedSelections = .ok mixedBatch := by decide +kernel
  have named : ∀ selection ∈ mixedSelections, selection.Named := by
    simp only [mixedSelections, List.forall_mem_cons]
    refine ⟨⟨nofun, ?_⟩, ⟨fun _ => .inl rfl, nofun⟩, ⟨fun _ => .inl rfl, nofun⟩, by simp⟩
    rintro ref ⟨⟩
    decide +kernel
  have completed : mixedRun.run.phase = .ended .completed := by decide +kernel
  have succeeded (index : Nat) (command : Command)
      (found : mixedBatch.commands[index]? = some command) (creates : command.mode = .create) :
      ∃ item, item ≠ "" ∧
        mixedRun.run.outcomes.lookup index = some (.success (some item)) := by
    rcases index with _ | _ | _ | _ | _ | index <;> cases found
    · simp at creates
    · exact ⟨"Q100", by decide, by decide +kernel⟩
    · simp at creates
    · exact ⟨"Q101", by decide, by decide +kernel⟩
    · simp at creates
  have plain : '|' ∉ "enwiki".toList := by decide
  obtain ⟨agree, completes⟩ :=
    export_reads_as_run numbering 5 20 100 ok named plain (by decide +kernel)
  obtain ⟨operations, reads, runs⟩ := agree mixedRun
    (reaches_steps numbering 1000 60 _) completed succeeded
  exact ⟨ok, named, numbering_meets_recovers,
    completes (not_or.mpr ⟨by decide +kernel, by decide +kernel⟩) (fun _ => rfl)
      numbering_meets_recovers,
    completed, by decide +kernel, reads.trans runs.symm, by decide +kernel⟩

end Machine

end EditBatch

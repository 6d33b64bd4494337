import EditBatch.Proofs.Run.Enactment

/-! What flights and history tell of the commands they are about.

A command keeps its mode and its ref from the moment at which it is sent off, so that what was
true of its performance then stays true: its calls were made on its ref, an edit of a
placeholder made none and failed, and a creation that succeeded gave the id of a new item.
-/

set_option autoImplicit false

namespace EditBatch

open Execution

structure Command.Yields (command : Command) (outcome : CommandResult) : Prop where
  refused : command.mode ≠ .create → Item.isPlaceholder command.entityRef = true →
    outcome = neverCreated command.entityRef
  created : command.mode = .create → ∀ newId?, outcome = .success newId? →
    ∃ id, newId? = some id ∧ id ≠ "" ∧ Item.isPlaceholder id = false

structure Command.Calls (command : Command) (call : EditCall) : Prop where
  allowed : command.mode = .create ∨ Item.isPlaceholder command.entityRef = false
  onRef : ∀ entity, call.editedItem? = some entity →
    entity = command.entityRef ∧ Item.isPlaceholder entity = false

namespace Run

variable {σ : Type}

theorem yields_performance {setup : Setup σ} (meets : setup.client.Meets NamesItems)
    (now index : Nat) (command : Command) (client : σ) :
    command.Yields (Flight.ofPerformance index (performance setup now command client)).outcome := by
  constructor
  · intro edits isPlaceholder
    unfold performance
    rw [execution_of_placeholder setup.wiki edits isPlaceholder]
    rfl
  · intro creates newId? success
    have result := success_of_outcome success
    unfold performance at result
    rw [execution_of_create command.entityRef setup.wiki creates] at result
    exact ((ends_named.create command setup.wiki).perform meets now client).2 newId? result

theorem calls_performance {setup : Setup σ} {now : Nat} {command : Command} {client : σ}
    {record : CallRecord} (member : record ∈ (performance setup now command client).calls) :
    command.Calls record.call := by
  -- What calls are made does not depend on what is assumed of their answers.
  have meets : setup.client.Meets fun _ _ => True := fun _ _ _ => trivial
  have keeps := ends_anyhow.execution trivial (fun _ => trivial) command command.entityRef
    setup.wiki
  constructor
  · apply Decidable.byContradiction
    intro neither
    rw [not_or, Bool.not_eq_false] at neither
    unfold performance at member
    rw [execution_of_placeholder setup.wiki neither.1 neither.2] at member
    simp [Plan.perform] at member
  · intro entity edited
    obtain ⟨rfl, real⟩ := (keeps.perform meets now client).1 record member entity edited
    exact ⟨rfl, real⟩

def Grounded (run : Run) : Prop :=
  ∀ time index call, .called time index call ∈ run.history →
    ∀ entity, call.editedItem? = some entity → Item.isPlaceholder entity = false

theorem Grounded.change {setup : Setup σ} {now : Nat} {run next : Run} (grounded : run.Grounded)
    (change : run.Change setup now next) : next.Grounded := by
  intro time index call member entity edited
  cases change with
  | none commands history =>
    rw [history] at member
    exact grounded time index call member entity edited
  | dispatch client eligible found commands history =>
    rw [history, List.mem_append, called_mem_dispatchEvents] at member
    rcases member with old | ⟨-, new⟩
    · exact grounded time index call old entity edited
    · exact ((calls_performance new).onRef entity edited).2
  | complete found running commands history =>
    rw [history] at member
    exact grounded time index call (by simpa using member) entity edited

-- What is in flight is on record as well, for its outcome is not in the history before it lands.
structure Recorded (run : Run) : Prop where
  aloft : ∀ {flight : Flight} {command : Command}, flight ∈ run.inFlight →
    run.commands[flight.index]? = some command → command.Yields flight.outcome
  completed : ∀ {time index : Nat} {result : CommandResult} {ref : String} {command : Command},
    .completed time index result ref ∈ run.history → run.commands[index]? = some command →
    command.Yields result
  called : ∀ {time index : Nat} {call : EditCall} {command : Command},
    .called time index call ∈ run.history → run.commands[index]? = some command →
    command.Calls call

end Run

namespace Machine

variable {σ : Type}

theorem Reaches.grounded {setup : Setup σ} {clock limit throttle : Nat} {client : σ}
    {commands : List Command} {machine : Machine σ}
    (reached : (start clock commands limit throttle client).Reaches setup machine) :
    machine.run.Grounded :=
  reached.invariant (fun machine => machine.run.Grounded)
    (fun time index call member => by simp [start] at member)
    fun happens grounded => grounded.change happens.change

theorem Reaches.recorded {setup : Setup σ} {clock limit throttle : Nat} {client : σ}
    {commands : List Command} {machine : Machine σ}
    (reached : (start clock commands limit throttle client).Reaches setup machine)
    (startable : Startable commands) (meets : setup.client.Meets NamesItems) :
    machine.run.Recorded := by
  have enacted := reached.enacted startable
  constructor
  · intro flight command member found
    obtain ⟨now, client, stems⟩ := enacted _ command found (reached.tracked.aloft member).1
    rw [stems.aloft member rfl]
    exact Run.yields_performance meets now _ command client
  · intro time index result ref command member found
    obtain ⟨now, client, stems⟩ := enacted index command found (reached.sentBefore _ member)
    rw [stems.completed member]
    exact Run.yields_performance meets now index command client
  · intro time index call command member found
    obtain ⟨now, client, stems⟩ := enacted index command found (reached.sentBefore _ member)
    have made := Run.mem_callsFor.mpr ⟨time, member⟩
    rw [stems.calls] at made
    obtain ⟨record, performed, rfl⟩ := List.mem_map.mp made
    exact Run.calls_performance performed

end Machine

end EditBatch

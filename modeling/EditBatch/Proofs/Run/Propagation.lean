import EditBatch.Proofs.Row.Layout
import EditBatch.Proofs.Run.Record
import EditBatch.Proofs.Run.Renaming

/-! How the edits of a selection follow its creation.

The creation and the edits of a selection start on one placeholder that no other creation is
on. Creations are never renamed, so that the edits can be renamed by the completion of their
creation only, and this finds all of them waiting. A new item is on no placeholder, so that no
later creation renames them again.
-/

set_option autoImplicit false

namespace EditBatch

open Execution

/-- Every creation is on a placeholder of its own. -/
structure Separate (commands : List Command) : Prop where
  onPlaceholder : ∀ {index : Nat} {command : Command}, commands[index]? = some command →
    command.mode = .create → Item.isPlaceholder command.entityRef = true
  alone : ∀ {one other : Nat} {former latter : Command}, commands[one]? = some former →
    commands[other]? = some latter → former.mode = .create → latter.mode = .create →
    former.entityRef = latter.entityRef → one = other

namespace Separate

variable {σ : Type} {commands : List Command}

theorem apart (separate : Separate commands) : CreationsApart commands :=
  creationsApart_iff.mpr fun _ _ _ _ => separate.alone

theorem avoids (separate : Separate commands) {client : EditClient σ}
    (meets : client.Meets NamesItems) : client.Meets (AvoidsCreations commands) := by
  intro now call state
  have named := meets now call state
  cases call with
  | createEntity site page =>
    generalize (client.perform now (.createEntity site page) state).1.outcome = outcome at named ⊢
    cases outcome with
    | error failure => trivial
    | ok newId =>
      intro command member creates same
      obtain ⟨index, there⟩ := List.mem_iff_getElem?.mp member
      have stands := separate.onPlaceholder there creates
      rw [same, named.2] at stands
      simp at stands
  | _ => trivial

end Separate

namespace Run

variable {σ : Type}

/-- What the outcome of a creation means for an edit of its item. -/
structure Propagated (creation edit : Nat) (stand : String) (run : Run) : Prop where
  succeeded : ∀ {time : Nat} {newId ref : String} {command : Command},
    .completed time creation (.success (some newId)) ref ∈ run.history →
    run.commands[edit]? = some command → command.entityRef = newId
  failed : ∀ {time : Nat} {kind : ErrorKind} {message code ref : String} {command : Command},
    .completed time creation (.failure kind message code) ref ∈ run.history →
    run.commands[edit]? = some command → command.entityRef = stand

/-- The edit at a position is carried out on an item, whenever it is. -/
structure EditsOn (edit : Nat) (item : String) (run : Run) : Prop where
  sent : ∀ (time endsAt : Nat) (ref : String),
    .dispatched time edit ref endsAt ∈ run.history → ref = item
  called : ∀ (time : Nat) (call : EditCall), .called time edit call ∈ run.history →
    ∀ entity, call.editedItem? = some entity → entity = item

/-- The edit at a position makes no call and fails because its placeholder stands for nothing. -/
structure Refuses (edit : Nat) (stand : String) (run : Run) : Prop where
  uncalled : ∀ (time : Nat) (call : EditCall), .called time edit call ∉ run.history
  failed : ∀ (time : Nat) (result : CommandResult) (ref : String),
    .completed time edit result ref ∈ run.history →
    result = .failure .semantic (stand ++ " was never created") "unresolved-placeholder"
  told : ∀ command : Command, run.commands[edit]? = some command → command.status = .done →
    ∃ time result ref, .completed time edit result ref ∈ run.history

end Run

namespace Machine

variable {σ : Type}

section

variable {setup : Setup σ} {clock limit throttle : Nat} {client : σ} {commands : List Command}
  {machine : Machine σ} {creation edit : Nat} {maker source : Command}

/-- The creation renames the edit, and nothing else does. -/
theorem Reaches.propagated
    (reached : (start clock commands limit throttle client).Reaches setup machine)
    (waiting : ∀ command ∈ commands, command.status = .waiting) (separate : Separate commands)
    (meets : setup.client.Meets NamesItems) (before : creation < edit)
    (here : commands[creation]? = some maker) (there : commands[edit]? = some source)
    (creates : maker.mode = .create) (same : maker.entityRef = source.entityRef) :
    machine.run.Propagated creation edit maker.entityRef := by
  have startable : Startable commands := fun command member => .inl (waiting command member)
  have placed := reached.placed waiting separate.apart (separate.avoids meets)
  have makes : Run.Makes commands creation edit maker source :=
    ⟨here, there, before, creates, same⟩
  constructor
  · intro time newId held command member is
    obtain ⟨former, isFormer⟩ := reached.current here
    have yields := (reached.recorded startable meets).completed member isFormer
    obtain ⟨id, sameId, named, -⟩ :=
      yields.created ((reached.mode here isFormer).trans creates) _ rfl
    cases sameId
    rw [placed.made makes is (Run.mem_outcomes.mpr ⟨_, _, member⟩),
      Run.replacement?_eq_some_iff.mpr ⟨creates, named, rfl⟩, Option.getD_some]
  · intro time kind message code held command member is
    rw [placed.made makes is (Run.mem_outcomes.mpr ⟨_, _, member⟩), same]
    rfl

theorem Reaches.editsOn {time : Nat} {newId held : String}
    (reached : (start clock commands limit throttle client).Reaches setup machine)
    (waiting : ∀ command ∈ commands, command.status = .waiting) (separate : Separate commands)
    (meets : setup.client.Meets NamesItems) (before : creation < edit)
    (here : commands[creation]? = some maker) (there : commands[edit]? = some source)
    (creates : maker.mode = .create) (same : maker.entityRef = source.entityRef)
    (told : .completed time creation (.success (some newId)) held ∈ machine.run.history) :
    machine.run.EditsOn edit newId := by
  have startable : Startable commands := fun command member => .inl (waiting command member)
  have propagated := reached.propagated waiting separate meets before here there creates same
  constructor
  · intro time endsAt ref member
    obtain ⟨command, is, onRef, -⟩ := (reached.exclusive startable).kept member
    rw [← onRef, propagated.succeeded told is]
  · intro time call member entity edited
    obtain ⟨command, is⟩ := reached.current there
    obtain ⟨onRef, -⟩ := ((reached.recorded startable meets).called member is).onRef entity edited
    rw [onRef, propagated.succeeded told is]

theorem Reaches.refuses {time : Nat} {kind : ErrorKind} {message code held : String}
    (reached : (start clock commands limit throttle client).Reaches setup machine)
    (waiting : ∀ command ∈ commands, command.status = .waiting) (separate : Separate commands)
    (meets : setup.client.Meets NamesItems) (before : creation < edit)
    (here : commands[creation]? = some maker) (there : commands[edit]? = some source)
    (creates : maker.mode = .create) (edits : source.mode ≠ .create)
    (same : maker.entityRef = source.entityRef)
    (told : .completed time creation (.failure kind message code) held ∈ machine.run.history) :
    machine.run.Refuses edit maker.entityRef := by
  have startable : Startable commands := fun command member => .inl (waiting command member)
  have propagated := reached.propagated waiting separate meets before here there creates same
  have recorded := reached.recorded startable meets
  have stands := separate.onPlaceholder here creates
  obtain ⟨command, is⟩ := reached.current there
  have onStand := propagated.failed told is
  have alsoEdits : command.mode ≠ .create := by
    rw [reached.mode there is]
    exact edits
  constructor
  · intro time call member
    rcases (recorded.called member is).allowed with creation | real
    · exact alsoEdits creation
    · rw [onStand, stands] at real
      simp at real
  · intro time result ref member
    have refused := (recorded.completed member is).refused alsoEdits (by rw [onStand, stands])
    rw [refused, onStand]
    rfl
  · intro held isHeld done
    apply Run.mem_completed.mp
    rw [reached.tracked.completed_iff there isHeld]
    exact ⟨waiting source (List.mem_of_getElem? there), done⟩

end

theorem separate_of_read {text : String} {selections : List Selection} {batch : Batch}
    (ok : Batch.read text selections = .ok batch)
    (unnamed : ∀ selection ∈ selections, selection.create = true →
      selection.entityRef = none ∨ selection.entityRef = some "") : Separate batch.commands := by
  have own {index : Nat} {command : Command} (there : batch.commands[index]? = some command)
      (creates : command.mode = .create) : ∃ number,
      index = groupStart (Sheet.read text).rows selections number ∧
        command.entityRef = Item.placeholder number := by
    obtain ⟨number, selection, found, asked, start, ref⟩ := Batch.creation_of_read ok there creates
    rw [Selection.ref_of_unnamed number asked
      (unnamed selection (List.mem_of_getElem? found) asked)] at ref
    exact ⟨number, start, (Except.ok.inj ref).symm⟩
  constructor
  · intro index command there creates
    obtain ⟨number, -, ref⟩ := own there creates
    rw [ref]
    exact Item.isPlaceholder_placeholder number
  · intro one other former latter here there formerCreates latterCreates same
    obtain ⟨first, start, ref⟩ := own here formerCreates
    obtain ⟨second, otherStart, otherRef⟩ := own there latterCreates
    have together : first = second := by
      apply Item.placeholder_inj
      rw [← ref, ← otherRef, same]
    rw [start, otherStart, together]

/-- In a run of a batch, the edits of a selection whose creation succeeded are carried out on the
new item, and those of one whose creation failed make no call and fail for that reason. In no
run at all is a placeholder edited. -/
theorem edits_follow_creation (setup : Setup σ) (clock limit throttle : Nat) (client : σ) :
    (∀ (text : String) (selections : List Selection) (batch : Batch),
      Batch.read text selections = .ok batch →
      (∀ selection ∈ selections, selection.create = true →
        selection.entityRef = none ∨ selection.entityRef = some "") →
      setup.client.Meets NamesItems →
      ∀ machine : Machine σ,
      (start clock batch.commands limit throttle client).Reaches setup machine →
      ∀ (number : Nat) (selection : Selection), selections[number]? = some selection →
      selection.create = true →
      ∃ creation, creation = groupStart (Sheet.read text).rows selections number ∧
        (batch.commands[creation]?.map (·.mode)) = some .create ∧
        ∀ edit, creation < edit → edit ≤ creation + (Sheet.read text).rows.length →
          (∀ (time : Nat) (newId held : String),
            .completed time creation (.success (some newId)) held ∈ machine.run.history →
            machine.run.EditsOn edit newId) ∧
          ∀ (time : Nat) (kind : ErrorKind) (message code held : String),
            .completed time creation (.failure kind message code) held ∈ machine.run.history →
            machine.run.Refuses edit (Item.placeholder number)) ∧
    ∀ (commands : List Command) (machine : Machine σ),
      (start clock commands limit throttle client).Reaches setup machine →
      ∀ (time index : Nat) (call : EditCall), .called time index call ∈ machine.run.history →
      ∀ entity, call.editedItem? = some entity → Item.isPlaceholder entity = false := by
  refine ⟨?_, fun commands machine reached => reached.grounded⟩
  intro text selections batch ok unnamed meets machine reached number selection there asked
  have waiting := Batch.waiting_of_read ok
  have separate := separate_of_read ok unnamed
  have size : selection.size (Sheet.read text).rows = 1 + (Sheet.read text).rows.length := by
    rw [Selection.size, if_pos asked]
  have named := Selection.ref_of_unnamed number asked
    (unnamed selection (List.mem_of_getElem? there) asked)
  obtain ⟨ref, maker, named', here, onRef, -, mode⟩ :=
    Batch.command_of_read ok there (show 0 < selection.size (Sheet.read text).rows by omega)
  obtain rfl := Except.ok.inj (named.symm.trans named')
  have creates := mode.mpr ⟨asked, rfl⟩
  rw [Nat.add_zero] at here
  refine ⟨_, rfl, by rw [here, Option.map_some, creates], ?_⟩
  intro edit before last
  obtain ⟨offset, rfl⟩ := Nat.exists_eq_add_of_lt before
  rw [Nat.add_assoc] at last before ⊢
  obtain ⟨ref', source, again, edited, onRef', -, mode'⟩ :=
    Batch.command_of_read ok there
      (show offset + 1 < selection.size (Sheet.read text).rows by omega)
  obtain rfl := Except.ok.inj (named'.symm.trans again)
  have edits : source.mode ≠ .create := by
    rw [ne_eq, mode']
    omega
  have same : maker.entityRef = source.entityRef := onRef.trans onRef'.symm
  constructor
  · intro time newId held told
    exact reached.editsOn waiting separate meets before here edited creates same told
  · intro time kind message code held told
    rw [← onRef]
    exact reached.refuses waiting separate meets before here edited creates edits same told

theorem sparing_meets_namesItems : sparing.client.Meets NamesItems := by
  have named : "Q7" ≠ "" ∧ Item.isPlaceholder "Q7" = false := by decide +kernel
  intro now call state
  cases call with
  | createEntity site page =>
    simp only [sparing]
    split
    · exact named
    · trivial
  | _ => trivial

def twoCreations : Batch where
  commands :=
    [{ id := 0, entityRef := "create_item_0", mode := .create, page := "Foo" },
     { id := 1, entityRef := "create_item_0", mode := .add, prop := "P31", value := some "Q5"
       closesGroup := true },
     { id := 2, entityRef := "create_item_1", mode := .create, page := "Bar" },
     { id := 3, entityRef := "create_item_1", mode := .add, prop := "P31", value := some "Q5"
       closesGroup := true }]
  malformed := []

def halfCreated : Machine Unit := (start 5 twoCreations.commands 2 0 ()).steps sparing 100 20

theorem edits_follow_creation_halfway :
    Batch.read "P31:Q5" [{ page := "Foo", create := true }, { page := "Bar", create := true }] =
        .ok twoCreations ∧
      sparing.client.Meets NamesItems ∧ halfCreated.run.sent = [0, 2, 1, 3] ∧
      (0, .success (some "Q7")) ∈ halfCreated.run.outcomes ∧
      (2, .failure .remote "no answer" "") ∈ halfCreated.run.outcomes ∧
      halfCreated.run.EditsOn 1 "Q7" ∧
      halfCreated.run.Refuses 3 (Item.placeholder (1 : Nat)) := by
  have read : Batch.read "P31:Q5"
      [{ page := "Foo", create := true }, { page := "Bar", create := true }] =
        .ok twoCreations := by decide +kernel
  have created : (0, .success (some "Q7")) ∈ halfCreated.run.outcomes := by decide +kernel
  have failed : (2, .failure .remote "no answer" "") ∈ halfCreated.run.outcomes := by
    decide +kernel
  obtain ⟨_, _, wasCreated⟩ := Run.mem_outcomes.mp created
  obtain ⟨_, _, hasFailed⟩ := Run.mem_outcomes.mp failed
  have follow := (edits_follow_creation sparing 5 2 0 ()).1 "P31:Q5" _ _ read
    (by simp) sparing_meets_namesItems halfCreated (reaches_steps _ _ _ _)
  obtain ⟨first, start, -, edits⟩ := follow 0 _ rfl rfl
  obtain ⟨second, otherStart, -, otherEdits⟩ := follow 1 _ rfl rfl
  obtain rfl : first = 0 := start.trans (by decide +kernel)
  obtain rfl : second = 2 := otherStart.trans (by decide +kernel)
  refine ⟨read, sparing_meets_namesItems, by decide +kernel, created, failed, ?_, ?_⟩
  · exact (edits 1 (by decide) (by decide +kernel)).1 _ _ _ wasCreated
  · exact (otherEdits 3 (by decide) (by decide +kernel)).2 _ _ _ _ _ hasFailed

end Machine

end EditBatch

import EditBatch.Proofs.Run.Propagation

/-! Which commands stay on the item that they were addressed to.

A creation redirects all unfinished commands on its own ref, whatever that ref is. So the commands
on an item stay there if no creation comes to be on it. None does if no creation starts on it, and
either no two creations share a ref, for then none is ever renamed, or the client never gives the
item as a new one.
-/

set_option autoImplicit false

namespace EditBatch

open Execution

namespace Execution

/-- A given item is never made anew. -/
def Withholds (item : String) : Assumption
  | .createEntity _ _, .ok newId => newId ≠ item
  | _, _ => True

def GivesOther (item : String) (result : Except Escape CommandResult) : Prop :=
  ∀ newId, result = .ok (.success (some newId)) → newId ≠ item

theorem ends_withholding (item : String) : Ends (Withholds item) (GivesOther item) := by
  constructor
  · intro kind message code newId success
    simp at success
  · intro reason newId success
    simp at success
  · intro call given newId success
    simp at success
  · rintro site page id other newId ⟨⟩
    exact other

end Execution

namespace Run

variable {σ : Type}

theorem entityRef_redirected_cases (command : Command) (result : CommandResult)
    (other : Command) :
    (redirected command result other).entityRef = other.entityRef ∨
      replacement? command result = some (redirected command result other).entityRef := by
  cases replaced : replacement? command result with
  | none => exact .inl (by rw [redirected, replaced])
  | some newId =>
    simp only [redirected, replaced]
    split
    · exact .inr rfl
    · exact .inl rfl

def Clear (item : String) (run : Run) : Prop :=
  ∀ {index : Nat} {maker : Command}, run.commands[index]? = some maker →
    maker.mode = .create → maker.entityRef ≠ item

theorem Change.entityRef_eq {setup : Setup σ} {now position : Nat} {run next : Run}
    {before after : Command} (change : run.Change setup now next)
    (was : run.commands[position]? = some before) (is : next.commands[position]? = some after)
    (apart : ∀ {index : Nat} {maker : Command}, run.commands[index]? = some maker →
      maker.mode = .create → index ≠ position → maker.entityRef ≠ before.entityRef) :
    after.entityRef = before.entityRef := by
  rcases change.refs with kept | ⟨flight, maker, newId, found, -, commands, -, -⟩
  · exact kept position before after was is
  · rw [commands] at is
    obtain ⟨other, there, kept⟩ := entityRef_afterCompletion found is
    cases was.symm.trans there
    exact kept fun elsewhere creates _ same =>
      apart found creates (Ne.symm elsewhere) same.symm

end Run

namespace Machine

variable {σ : Type} {setup : Setup σ} {clock limit throttle : Nat} {client : σ}
  {commands : List Command} {machine next : Machine σ}

theorem Reaches.unrenamed
    (reached : (start clock commands limit throttle client).Reaches setup machine)
    (apart : CreationsApart commands) {index : Nat} {source command : Command}
    (there : commands[index]? = some source) (creates : source.mode = .create)
    (is : machine.run.commands[index]? = some command) :
    command.entityRef = source.entityRef := by
  induction reached generalizing index source command with
  | refl =>
    cases there.symm.trans is
    rfl
  | tail reached happens ih =>
    obtain ⟨before, was⟩ := Reaches.current reached there
    rw [happens.change.entityRef_eq was is, ih there creates was]
    intro other maker found makes elsewhere same
    obtain ⟨origin, first⟩ : ∃ origin, commands[other]? = some origin :=
      Reaches.origin reached found
    have makesFirst := (Reaches.mode reached first found).symm.trans makes
    rw [ih first makesFirst found, ih there creates was] at same
    exact elsewhere (creationsApart_iff.mp apart _ _ _ _ first there makesFirst creates same)

theorem Reaches.other_of_aloft {item newId : String} {flight : Flight} {command : Command}
    (reached : (start clock commands limit throttle client).Reaches setup machine)
    (startable : Startable commands) (meets : setup.client.Meets (Withholds item))
    (aloft : flight ∈ machine.run.inFlight)
    (found : machine.run.commands[flight.index]? = some command)
    (success : flight.outcome = .success (some newId)) : newId ≠ item := by
  obtain ⟨now, client, stems⟩ :=
    reached.enacted startable _ command found (reached.tracked.aloft aloft).1
  rw [stems.aloft aloft rfl] at success
  have keeps := (ends_withholding item).execution (by simp [GivesOther]) (by simp [GivesOther])
    command command.entityRef setup.wiki
  exact (keeps.perform meets now client).2 newId (Run.success_of_outcome success)

theorem Reaches.clear_of_withheld {item : String}
    (reached : (start clock commands limit throttle client).Reaches setup machine)
    (startable : Startable commands) (meets : setup.client.Meets (Withholds item))
    (clear : Run.Clear item (start clock commands limit throttle client).run) :
    machine.run.Clear item := by
  induction reached with
  | refl => exact clear
  | tail reached happens clear =>
    intro index maker is creates
    cases happens.change with
    | none same =>
      rw [same] at is
      exact clear is creates
    | dispatch client eligible found sent =>
      rw [sent] at is
      rcases Run.cases_of_sent found is with ⟨rfl, rfl⟩ | ⟨-, was⟩
      · exact fun onItem => clear found creates onItem
      · exact clear was creates
    | complete found running completed history flights =>
      rw [completed] at is
      rcases Run.cases_of_completed found is with ⟨rfl, rfl⟩ | ⟨-, before, was, rfl⟩
      · exact fun onItem => clear found creates onItem
      · rcases Run.entityRef_redirected_cases _ _ before with same | replaced
        · rw [same]
          rw [Run.redirected_eq] at creates
          exact clear was creates
        · obtain ⟨-, -, success⟩ := Run.replacement?_eq_some_iff.mp replaced
          exact Reaches.other_of_aloft reached startable meets (Run.mem_of_leaves flights) found
            success

theorem Reaches.clear_of_apart {item : String}
    (reached : (start clock commands limit throttle client).Reaches setup machine)
    (apart : CreationsApart commands)
    (clear : Run.Clear item (start clock commands limit throttle client).run) :
    machine.run.Clear item := by
  intro index maker is creates
  obtain ⟨origin, first⟩ : ∃ origin, commands[index]? = some origin := reached.origin is
  have creates := (reached.mode first is).symm.trans creates
  rw [reached.unrenamed apart first creates is]
  exact clear first creates

/-- A command stays on an item that no creation comes to be on. -/
theorem Reaches.stays {item : String} {position : Nat} {source command : Command}
    (reached : (start clock commands limit throttle client).Reaches setup machine)
    (clear : ∀ {between : Machine σ},
      (start clock commands limit throttle client).Reaches setup between →
      between.run.Clear item)
    (there : commands[position]? = some source) (onItem : source.entityRef = item)
    (is : machine.run.commands[position]? = some command) : command.entityRef = item := by
  induction reached generalizing command with
  | refl =>
    cases there.symm.trans is
    exact onItem
  | tail reached happens ih =>
    obtain ⟨before, was⟩ := Reaches.current reached there
    have stayed := ih was
    rw [happens.change.entityRef_eq was is, stayed]
    intro index maker found creates elsewhere
    rw [stayed]
    exact clear reached found creates

theorem Reaches.editsOn_of_stays {item : String} {position : Nat}
    (reached : (start clock commands limit throttle client).Reaches setup machine)
    (startable : Startable commands)
    (stays : ∀ command, machine.run.commands[position]? = some command →
      command.entityRef = item) : machine.run.EditsOn position item := by
  constructor
  · intro time endsAt ref told
    obtain ⟨command, is, onRef, -⟩ := (reached.exclusive startable).kept told
    rw [← onRef, stays command is]
  · intro time call told entity edited
    obtain ⟨command, is⟩ := reached.exists_of_told startable told
    obtain ⟨now, client, stems⟩ :=
      reached.enacted startable position command is (reached.sentBefore _ told)
    have made := Run.mem_callsFor.mpr ⟨time, told⟩
    rw [stems.calls] at made
    obtain ⟨record, performed, rfl⟩ := List.mem_map.mp made
    rw [((Run.calls_performance performed).onRef entity edited).1, stays command is]

theorem Reaches.placeholder_of_renamed {index : Nat} {before after : Command}
    (reached : (start clock commands limit throttle client).Reaches setup machine)
    (separate : Separate commands) (happens : machine.Happens setup next)
    (was : machine.run.commands[index]? = some before)
    (is : next.run.commands[index]? = some after)
    (renamed : after.entityRef ≠ before.entityRef) :
    Item.isPlaceholder before.entityRef = true := by
  apply Decidable.byContradiction
  intro real
  apply renamed
  apply happens.change.entityRef_eq was is
  intro other maker found creates _ same
  obtain ⟨origin, first⟩ : ∃ origin, commands[other]? = some origin := reached.origin found
  have makes := (reached.mode first found).symm.trans creates
  have stands := separate.onPlaceholder first makes
  rw [← reached.unrenamed separate.apart first makes found, same] at stands
  exact real stands

/-- In a run of a batch, the edits of a selection stay on its ref and are carried out on it, if no
creation starts there, and if none is redirected there: for creations are on refs of their own, or
the client does not make that item. If moreover all creations are on placeholders, only commands
on placeholders are ever redirected. -/
theorem edits_stay_on_item {setup : Setup σ} {clock limit throttle : Nat} {client : σ}
    {text : String} {selections : List Selection} {batch : Batch} {machine : Machine σ}
    (ok : Batch.read text selections = .ok batch)
    (reached : (start clock batch.commands limit throttle client).Reaches setup machine) :
    (∀ (number : Nat) (selection : Selection) (item : String),
      selections[number]? = some selection → selection.create = false →
      selection.ref number = .ok item →
      (∀ (other : Nat) (maker : Selection), selections[other]? = some maker →
        maker.create = true → maker.ref other ≠ .ok item) →
      (CreationsApart batch.commands ∨ setup.client.Meets (Withholds item)) →
      ∀ offset < (Sheet.read text).rows.length,
        (∃ command, machine.run.commands[
            groupStart (Sheet.read text).rows selections number + offset]? = some command ∧
          command.mode ≠ .create ∧ command.entityRef = item) ∧
        machine.run.EditsOn (groupStart (Sheet.read text).rows selections number + offset)
          item) ∧
    (Separate batch.commands → ∀ next : Machine σ, machine.Happens setup next →
      ∀ (index : Nat) (before after : Command), machine.run.commands[index]? = some before →
        next.run.commands[index]? = some after → after.entityRef ≠ before.entityRef →
        Item.isPlaceholder before.entityRef = true) := by
  refine ⟨?_, fun separate next happens _ _ _ => reached.placeholder_of_renamed separate happens⟩
  intro number selection item there existing named unmade safe offset bound
  have startable : Startable batch.commands :=
    fun command member => .inl (Batch.waiting_of_read ok command member)
  have clear : Run.Clear item (start clock batch.commands limit throttle client).run := by
    intro index maker found creates onItem
    obtain ⟨other, making, isMaking, asked, -, ref⟩ := Batch.creation_of_read ok found creates
    exact unmade other making isMaking asked (by rw [ref, onItem])
  have clears {between : Machine σ}
      (reached : (start clock batch.commands limit throttle client).Reaches setup between) :
      between.run.Clear item :=
    safe.elim (fun apart => reached.clear_of_apart apart clear)
      (fun meets => reached.clear_of_withheld startable meets clear)
  have size : selection.size (Sheet.read text).rows = (Sheet.read text).rows.length := by
    simp [Selection.size, existing]
  obtain ⟨ref, source, again, found, onRef, -, mode⟩ :=
    Batch.command_of_read ok there (size ▸ bound)
  obtain rfl := Except.ok.inj (named.symm.trans again)
  have stays (command : Command) (is : machine.run.commands[
      groupStart (Sheet.read text).rows selections number + offset]? = some command) :
      command.entityRef = item := reached.stays clears found onRef is
  obtain ⟨command, is⟩ := reached.current found
  refine ⟨⟨command, is, ?_, stays command is⟩, reached.editsOn_of_stays startable stays⟩
  rw [reached.mode found is, ne_eq, mode, existing]
  simp

def newAndOld : Batch where
  commands :=
    [{ id := 0, entityRef := "create_item_0", mode := .create, page := "Foo" },
     { id := 1, entityRef := "create_item_0", mode := .add, prop := "P31", value := some "Q1"
       closesGroup := true },
     { id := 2, entityRef := "Q5", mode := .add, prop := "P31", value := some "Q1"
       closesGroup := true }]
  malformed := []

theorem sparing_withholds : sparing.client.Meets (Withholds "Q5") := by
  intro now call state
  cases call with
  | createEntity site page =>
    simp only [sparing]
    split
    · exact fun same => by simp at same
    · trivial
  | _ => trivial

theorem edits_stay_on_item_beside :
    Batch.read "P31:Q1" [{ page := "Foo", create := true }, { entityRef := some "q5" }] =
        .ok newAndOld ∧
      sparing.client.Meets (Withholds "Q5") ∧
      ((start 5 newAndOld.commands 2 0 ()).steps sparing 100 20).run.createdIds = ["Q7"] ∧
      ((start 5 newAndOld.commands 2 0 ()).steps sparing 100 20).run.sent = [0, 2, 1] ∧
      ((start 5 newAndOld.commands 2 0 ()).steps sparing 100 20).run.EditsOn 2 "Q5" := by
  have read : Batch.read "P31:Q1" [{ page := "Foo", create := true }, { entityRef := some "q5" }] =
      .ok newAndOld := by decide +kernel
  refine ⟨read, sparing_withholds, by decide +kernel, by decide +kernel, ?_⟩
  refine ((edits_stay_on_item read (reaches_steps sparing 100 20 _)).1 1 _ "Q5" rfl rfl
    (by decide +kernel) ?_ (.inr sparing_withholds) 0 (by decide +kernel)).2
  intro other maker isMaker asked
  match other with
  | 0 =>
    cases isMaker
    decide +kernel
  | 1 =>
    cases isMaker
    simp at asked
  | other + 2 => simp at isMaker

/-- A creation that is asked for on an item that exists, and another edit of that item. -/
def anew : Batch where
  commands :=
    [{ id := 0, entityRef := "Q5", mode := .create, page := "Foo" },
     { id := 1, entityRef := "Q5", mode := .add, prop := "P31", value := some "Q1"
       closesGroup := true },
     { id := 2, entityRef := "Q5", mode := .add, prop := "P31", value := some "Q1"
       closesGroup := true }]
  malformed := []

/-- The creation takes the edits of the other selection along. -/
theorem edit_leaves_item :
    Batch.read "P31:Q1"
        [{ entityRef := some "Q5", page := "Foo", create := true }, { entityRef := some "Q5" }] =
        .ok anew ∧
      (start 0 anew.commands 1 0 {}).Reaches rehearsed
        ((start 0 anew.commands 1 0 {}).steps rehearsed 10 20) ∧
      Item.isPlaceholder "Q5" = false ∧
      (anew.commands[2]?.map (·.entityRef)) = some "Q5" ∧
      (((start 0 anew.commands 1 0 {}).steps rehearsed 10 20).run.commands[2]?.map
        (·.entityRef)) = some "Q101" ∧
      (((start 0 anew.commands 1 0 {}).steps rehearsed 10 20).run.callsFor 2).map
        (·.editedItem?) = [some "Q101"] := by
  refine ⟨by decide +kernel, reaches_steps rehearsed 10 20 _, by decide +kernel, rfl, ?_, ?_⟩
  · decide +kernel
  · decide +kernel

end Machine

end EditBatch

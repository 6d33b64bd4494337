import EditBatch.Proofs.Row.Layout
import EditBatch.Proofs.Run.Order

/-! When a row group is closed.

The command that closes a group is the last one of its selection, and all of them start on one ref.
So it is the last one to be sent off, whatever refs the group goes over to and whichever other
selections are on them, and when it is done the whole group is.
-/

set_option autoImplicit false

namespace EditBatch

namespace Machine

variable {σ : Type}

section closing

variable {setup : Setup σ} {clock limit throttle : Nat} {client : σ} {text : String}
  {selections : List Selection} {batch : Batch} {machine : Machine σ} {number : Nat}
  {selection : Selection}

theorem Reaches.grouped
    (reached : (start clock batch.commands limit throttle client).Reaches setup machine)
    (ok : Batch.read text selections = .ok batch) (there : selections[number]? = some selection)
    {offset : Nat} (bound : offset < selection.size (Sheet.read text).rows) :
    ∃ command, machine.run.commands[
        groupStart (Sheet.read text).rows selections number + offset]? = some command ∧
      (command.closesGroup = true ↔ offset + 1 = selection.size (Sheet.read text).rows) := by
  obtain ⟨-, source, -, found, -⟩ := Batch.command_of_read ok there bound
  have marked := Batch.closesGroup_of_read ok there bound found
  obtain ⟨command, is⟩ := reached.current found
  refine ⟨command, is, ?_⟩
  rw [reached.framed found is]
  exact marked

theorem Reaches.done_of_later_done
    (reached : (start clock batch.commands limit throttle client).Reaches setup machine)
    (ok : Batch.read text selections = .ok batch) (there : selections[number]? = some selection)
    {earlier later : Nat} (before : earlier < later)
    (bound : later < selection.size (Sheet.read text).rows) {one other : Command}
    (is : machine.run.commands[
      groupStart (Sheet.read text).rows selections number + earlier]? = some one)
    (follows : machine.run.commands[
      groupStart (Sheet.read text).rows selections number + later]? = some other)
    (done : other.status = .done) : one.status = .done := by
  obtain ⟨ref, former, named, here, onRef, -⟩ :=
    Batch.command_of_read ok there (Nat.lt_trans before bound)
  obtain ⟨ref', latter, named', behind, onRef', -⟩ := Batch.command_of_read ok there bound
  obtain rfl := Except.ok.inj (named.symm.trans named')
  have queued := reached.queued (Batch.waiting_of_read ok) (Nat.add_lt_add_left before _) here
    behind (onRef.trans onRef'.symm)
  rcases queued.behind is follows with isDone | ⟨waiting, -⟩
  · exact isDone
  · simp [done] at waiting

end closing

/-- Of the commands of a selection the last one and no other closes the group, and whenever it is
done, all of them are. -/
theorem group_closed_last {setup : Setup σ} {clock limit throttle : Nat} {client : σ}
    {text : String} {selections : List Selection} {batch : Batch} {machine : Machine σ}
    (ok : Batch.read text selections = .ok batch)
    (reached : (start clock batch.commands limit throttle client).Reaches setup machine)
    (number : Nat) {selection : Selection} (there : selections[number]? = some selection) :
    (∀ offset < selection.size (Sheet.read text).rows,
      ∃ command, machine.run.commands[
          groupStart (Sheet.read text).rows selections number + offset]? = some command ∧
        (command.closesGroup = true ↔ offset + 1 = selection.size (Sheet.read text).rows)) ∧
    ∀ (last : Nat) (closing : Command), last < selection.size (Sheet.read text).rows →
      machine.run.commands[groupStart (Sheet.read text).rows selections number + last]? =
        some closing →
      closing.closesGroup = true → closing.status = .done →
      ∀ offset < selection.size (Sheet.read text).rows,
        ∃ command, machine.run.commands[
            groupStart (Sheet.read text).rows selections number + offset]? = some command ∧
          command.status = .done := by
  refine ⟨fun offset bound => reached.grouped ok there bound, ?_⟩
  intro last closing inside is closes done offset bound
  obtain ⟨other, isOther, marked⟩ := reached.grouped ok there inside
  cases is.symm.trans isOther
  have atEnd := marked.mp closes
  obtain ⟨command, found, -⟩ := reached.grouped ok there bound
  refine ⟨command, found, ?_⟩
  by_cases same : offset = last
  · subst same
    cases is.symm.trans found
    exact done
  · exact reached.done_of_later_done ok there (by omega) inside found is done

def mergingGroups : Batch where
  commands :=
    [{ id := 0, entityRef := "create_item_0", mode := .create, page := "Foo" },
     { id := 1, entityRef := "create_item_0", mode := .add, prop := "P31", value := some "Q1" },
     { id := 2, entityRef := "create_item_0", mode := .delete, prop := "P31", value := some "Q2"
       closesGroup := true },
     { id := 3, entityRef := "Q7", mode := .add, prop := "P31", value := some "Q1" },
     { id := 4, entityRef := "Q7", mode := .delete, prop := "P31", value := some "Q2"
       closesGroup := true }]
  malformed := []

/-- The first group is closed while the other one, on the same item by now, is not. -/
theorem group_closed_last_merging :
    Batch.read "P31:Q1\n-P31:Q2" [{ page := "Foo", create := true }, { entityRef := some "Q7" }] =
        .ok mergingGroups ∧
      ((start 5 mergingGroups.commands 2 0 ()).steps sparing 100 12).run.commands.map
        (fun command => (command.entityRef, command.status, command.closesGroup)) =
        [("create_item_0", .done, false), ("Q7", .done, false), ("Q7", .done, true),
          ("Q7", .done, false), ("Q7", .waiting, true)] ∧
      ∃ command, ((start 5 mergingGroups.commands 2 0 ()).steps sparing 100 12).run.commands[1]? =
          some command ∧ command.status = .done := by
  have read : Batch.read "P31:Q1\n-P31:Q2"
      [{ page := "Foo", create := true }, { entityRef := some "Q7" }] = .ok mergingGroups := rfl
  refine ⟨read, by decide +kernel, ?_⟩
  exact (group_closed_last read (reaches_steps sparing 100 12 _) 0 rfl).2 2
    { id := 2, entityRef := "Q7", mode := .delete, prop := "P31", value := some "Q2"
      status := .done, closesGroup := true }
    (by decide +kernel) (by decide +kernel) rfl rfl 1 (by decide +kernel)

end Machine

end EditBatch

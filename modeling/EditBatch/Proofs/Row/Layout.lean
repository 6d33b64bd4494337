import EditBatch.Proofs.Row.Sheet
import EditBatch.Row.Batch

/-! Where the commands of a selection stand in a batch.

The groups of the selections follow one another, and the size of a group is the number of rows,
with one more for a creation. So the creation of a selection stands at a place that can be
computed, its edits stand right behind it, and no command stands elsewhere.
-/

set_option autoImplicit false

namespace EditBatch

/-! ## Rows -/

theorem Row.mode_of_read? {text : String} {row : Row} (ok : Row.read? text = some row) :
    row.mode ≠ .create := by
  unfold read? readChars? at ok
  split at ok
  · obtain ⟨_, -, rfl⟩ := Option.map_eq_some_iff.mp ok
    simp
  · unfold readAddition? at ok
    split at ok
    · split at ok
      · split at ok
        · cases ok
          simp
        · simp at ok
      · simp at ok
    · simp at ok

theorem Sheet.mode_of_mem_rows {lines : List String} {number : Nat} {row : Row}
    (member : row ∈ (Sheet.ofLines number lines).rows) : row.mode ≠ .create := by
  obtain ⟨line, -, found⟩ := Sheet.read?_of_mem_rows member
  exact Row.mode_of_read? found

/-! ## Groups -/

namespace Selection

def size (rows : List Row) (selection : Selection) : Nat :=
  (if selection.create then 1 else 0) + rows.length

theorem getElem?_edits (id : Nat) (ref : String) (selection : Selection) (rows : List Row)
    (position : Nat) :
    (selection.edits id ref rows)[position]? =
      rows[position]?.map (selection.edit (id + position) ref) := by
  induction rows generalizing id position with
  | nil => simp [edits]
  | cons row rest ih =>
    cases position with
    | zero => simp [edits]
    | succ position =>
      simp only [edits, List.getElem?_cons_succ, ih]
      rw [Nat.add_right_comm, Nat.add_assoc]

theorem mem_edits {id : Nat} {ref : String} {selection : Selection} {rows : List Row}
    {command : Command} (member : command ∈ selection.edits id ref rows) :
    ∃ row ∈ rows, ∃ number, command = selection.edit number ref row := by
  obtain ⟨position, found⟩ := List.mem_iff_getElem?.mp member
  rw [getElem?_edits] at found
  obtain ⟨row, there, rfl⟩ := Option.map_eq_some_iff.mp found
  exact ⟨row, List.mem_of_getElem? there, _, rfl⟩

theorem mem_openGroup {id : Nat} {ref : String} {rows : List Row} {selection : Selection}
    {command : Command} (member : command ∈ selection.openGroup id ref rows) :
    command = selection.creation id ref ∨
      ∃ row ∈ rows, ∃ number, command = selection.edit number ref row := by
  unfold openGroup at member
  split at member
  · exact (List.mem_cons.mp member).imp_right mem_edits
  · exact .inr (mem_edits member)

theorem length_edits (id : Nat) (ref : String) (selection : Selection) (rows : List Row) :
    (selection.edits id ref rows).length = rows.length := by
  induction rows generalizing id with
  | nil => rfl
  | cons row rest ih => simp [edits, ih]

theorem length_openGroup (id : Nat) (ref : String) (rows : List Row) (selection : Selection) :
    (selection.openGroup id ref rows).length = selection.size rows := by
  unfold openGroup size
  split
  · rw [List.length_cons, length_edits]
    omega
  · rw [length_edits]
    omega

end Selection

theorem length_closeGroup (commands : List Command) :
    (closeGroup commands).length = commands.length := by
  fun_induction closeGroup commands with
  | case1 => rfl
  | case2 => rfl
  | case3 command rest _ ih => simp [ih]

/-- What does not depend on the mark that closes a group is true of the commands of a closed one. -/
theorem forall_closeGroup {P : Command → Prop} {commands : List Command}
    (closes : ∀ command, P command → P { command with closesGroup := true })
    (all : ∀ command ∈ commands, P command) : ∀ command ∈ closeGroup commands, P command := by
  fun_induction closeGroup commands with
  | case1 => exact all
  | case2 last => simpa using closes last (all last List.mem_cons_self)
  | case3 command others _ ih =>
    obtain ⟨first, later⟩ := List.forall_mem_cons.mp all
    exact List.forall_mem_cons.mpr ⟨first, ih later⟩

theorem getElem?_closeGroup {commands : List Command} {position : Nat} {command : Command}
    (there : commands[position]? = some command) :
    (closeGroup commands)[position]? =
      some { command with
        closesGroup := command.closesGroup || decide (position + 1 = commands.length) } := by
  fun_induction closeGroup commands generalizing position with
  | case1 => simp at there
  | case2 last =>
    cases position with
    | zero =>
      cases there
      simp
    | succ position => simp at there
  | case3 first rest unfinished ih =>
    cases position with
    | zero =>
      cases there
      cases rest with
      | nil => exact absurd rfl unfinished
      | cons other others => simp
    | succ position =>
      rw [List.getElem?_cons_succ, ih there]
      simp

theorem Selection.closesGroup_openGroup {id : Nat} {ref : String} {rows : List Row}
    {selection : Selection} {command : Command}
    (member : command ∈ selection.openGroup id ref rows) : command.closesGroup = false := by
  obtain rfl | ⟨row, -, number, rfl⟩ := mem_openGroup member
  · rfl
  · rfl

theorem closesGroup_of_group {id offset : Nat} {ref : String} {rows : List Row}
    {selection : Selection} {command : Command}
    (found : (closeGroup (selection.openGroup id ref rows))[offset]? = some command) :
    command.closesGroup = true ↔ offset + 1 = selection.size rows := by
  have bound := (List.getElem?_eq_some_iff.mp found).1
  rw [length_closeGroup] at bound
  have unclosed := Selection.closesGroup_openGroup (List.getElem_mem bound)
  rw [getElem?_closeGroup (List.getElem?_eq_getElem bound), Selection.length_openGroup] at found
  cases found
  simp [unclosed]

theorem command_of_group (id : Nat) (ref : String) {offset : Nat} {rows : List Row}
    {selection : Selection} (edits : ∀ row ∈ rows, row.mode ≠ .create)
    (bound : offset < selection.size rows) :
    ∃ command, (closeGroup (selection.openGroup id ref rows))[offset]? = some command ∧
      command.entityRef = ref ∧ command.status = .waiting ∧
      (command.mode = .create ↔ selection.create = true ∧ offset = 0) := by
  have edit (id : Nat) {row : Row} {position : Nat} (there : rows[position]? = some row) :
      (selection.edits id ref rows)[position]? =
        some (selection.edit (id + position) ref row) ∧ row.mode ≠ .create :=
    ⟨by rw [Selection.getElem?_edits, there, Option.map_some],
      edits row (List.mem_of_getElem? there)⟩
  have opened : ∃ command, (selection.openGroup id ref rows)[offset]? = some command ∧
      command.entityRef = ref ∧ command.status = .waiting ∧
      (command.mode = .create ↔ selection.create = true ∧ offset = 0) := by
    unfold Selection.openGroup
    unfold Selection.size at bound
    cases creates : selection.create with
    | true =>
      cases offset with
      | zero => exact ⟨_, rfl, rfl, rfl, by simp [Selection.creation]⟩
      | succ offset =>
        have inside : offset < rows.length := by
          simp only [creates, if_true] at bound
          omega
        obtain ⟨there, other⟩ := edit (id + 1) (List.getElem?_eq_getElem inside)
        exact ⟨_, there, rfl, rfl, by simpa [Selection.edit] using other⟩
    | false =>
      have inside : offset < rows.length := by simpa [creates] using bound
      obtain ⟨there, other⟩ := edit id (List.getElem?_eq_getElem inside)
      exact ⟨_, there, rfl, rfl, by simpa [Selection.edit] using other⟩
  obtain ⟨command, there, named, waiting, mode⟩ := opened
  exact ⟨_, getElem?_closeGroup there, named, waiting, mode⟩

/-! ## Batches -/

def groupStart (rows : List Row) : List Selection → Nat → Nat
  | [], _ | _ :: _, 0 => 0
  | selection :: rest, number + 1 => selection.size rows + groupStart rows rest number

theorem combine_cons {rows : List Row} {index id : Nat} {selection : Selection}
    {rest : List Selection} {commands : List Command}
    (ok : combine rows index id (selection :: rest) = .ok commands) :
    ∃ ref others next, selection.ref index = .ok ref ∧
      combine rows (index + 1) next rest = .ok others ∧
      commands = closeGroup (selection.openGroup id ref rows) ++ others := by
  unfold combine at ok
  cases found : selection.ref index with
  | error e => simp [found, bind, Except.bind] at ok
  | ok ref =>
    simp only [found, bind, Except.bind] at ok
    split at ok
    · simp at ok
    next others made =>
      cases ok
      exact ⟨ref, others, _, rfl, made, rfl⟩

theorem length_group (id : Nat) (ref : String) (rows : List Row) (selection : Selection) :
    (closeGroup (selection.openGroup id ref rows)).length = selection.size rows := by
  rw [length_closeGroup, Selection.length_openGroup]

theorem combine_group {rows : List Row} {index id number : Nat} {selections : List Selection}
    {selection : Selection} {commands : List Command}
    (ok : combine rows index id selections = .ok commands)
    (there : selections[number]? = some selection) :
    ∃ ref first, selection.ref (index + number) = .ok ref ∧
      ∀ offset < selection.size rows, commands[groupStart rows selections number + offset]? =
        (closeGroup (selection.openGroup first ref rows))[offset]? := by
  induction selections generalizing index id number commands with
  | nil => simp at there
  | cons head rest ih =>
    obtain ⟨ref, others, next, named, made, rfl⟩ := combine_cons ok
    cases number with
    | zero =>
      cases there
      refine ⟨ref, id, named, fun offset bound => ?_⟩
      rw [groupStart, Nat.zero_add, List.getElem?_append_left (by rwa [length_group])]
    | succ number =>
      obtain ⟨ref', first, named', placed⟩ := ih made there
      refine ⟨ref', first, ?_, fun offset bound => ?_⟩
      · rw [← named']
        congr 1
        omega
      · rw [← placed offset bound, groupStart, Nat.add_assoc, ← length_group id ref,
          List.getElem?_append_right (Nat.le_add_right _ _), Nat.add_sub_cancel_left]

/-- Every command stands in the group of a selection. -/
theorem combine_source {rows : List Row} {index id position : Nat} {selections : List Selection}
    {commands : List Command} {command : Command}
    (ok : combine rows index id selections = .ok commands)
    (found : commands[position]? = some command) :
    ∃ number selection offset, selections[number]? = some selection ∧
      offset < selection.size rows ∧ position = groupStart rows selections number + offset := by
  induction selections generalizing index id position commands with
  | nil =>
    cases ok
    simp at found
  | cons head rest ih =>
    obtain ⟨ref, others, next, named, made, rfl⟩ := combine_cons ok
    by_cases inside : position < head.size rows
    · exact ⟨0, head, position, rfl, inside, by simp [groupStart]⟩
    · rw [List.getElem?_append_right (by rw [length_group]; omega), length_group] at found
      obtain ⟨number, selection, offset, there, bound, placed⟩ := ih made found
      refine ⟨number + 1, selection, offset, there, bound, ?_⟩
      rw [groupStart]
      omega

namespace Batch

variable {text : String} {selections : List Selection} {batch : Batch}

theorem combine_of_read (ok : Batch.read text selections = .ok batch) :
    combine (Sheet.read text).rows 0 0 selections = .ok batch.commands := by
  unfold read at ok
  cases made : combine (Sheet.read text).rows 0 0 selections with
  | error e => simp [made, bind, Except.bind] at ok
  | ok commands =>
    simp only [made, bind, Except.bind, pure, Except.pure, Except.ok.injEq] at ok
    rw [← ok]

theorem command_of_read (ok : Batch.read text selections = .ok batch) {number offset : Nat}
    {selection : Selection} (there : selections[number]? = some selection)
    (bound : offset < selection.size (Sheet.read text).rows) :
    ∃ ref command, selection.ref number = .ok ref ∧
      batch.commands[groupStart (Sheet.read text).rows selections number + offset]? =
        some command ∧
      command.entityRef = ref ∧ command.status = .waiting ∧
      (command.mode = .create ↔ selection.create = true ∧ offset = 0) := by
  obtain ⟨ref, first, named, placed⟩ := combine_group (combine_of_read ok) there
  obtain ⟨command, found, same, waiting, mode⟩ :=
    command_of_group first ref (fun row => Sheet.mode_of_mem_rows) bound
  refine ⟨ref, command, ?_, (placed offset bound).trans found, same, waiting, mode⟩
  rwa [Nat.zero_add] at named

theorem closesGroup_of_read (ok : Batch.read text selections = .ok batch) {number offset : Nat}
    {selection : Selection} {command : Command} (there : selections[number]? = some selection)
    (bound : offset < selection.size (Sheet.read text).rows)
    (found : batch.commands[groupStart (Sheet.read text).rows selections number + offset]? =
      some command) :
    command.closesGroup = true ↔ offset + 1 = selection.size (Sheet.read text).rows := by
  obtain ⟨ref, first, -, placed⟩ := combine_group (combine_of_read ok) there
  rw [placed offset bound] at found
  exact closesGroup_of_group found

theorem waiting_of_read (ok : Batch.read text selections = .ok batch) :
    ∀ command ∈ batch.commands, command.status = .waiting := by
  intro command member
  obtain ⟨position, found⟩ := List.mem_iff_getElem?.mp member
  obtain ⟨number, selection, offset, there, bound, rfl⟩ :=
    combine_source (combine_of_read ok) found
  obtain ⟨ref, other, -, same, -, waiting, -⟩ := command_of_read ok there bound
  cases found.symm.trans same
  exact waiting

theorem creation_of_read (ok : Batch.read text selections = .ok batch) {position : Nat}
    {command : Command} (found : batch.commands[position]? = some command)
    (creates : command.mode = .create) :
    ∃ number selection, selections[number]? = some selection ∧ selection.create = true ∧
      position = groupStart (Sheet.read text).rows selections number ∧
      selection.ref number = .ok command.entityRef := by
  obtain ⟨number, selection, offset, there, bound, rfl⟩ :=
    combine_source (combine_of_read ok) found
  obtain ⟨ref, other, named, same, rfl, -, mode⟩ := command_of_read ok there bound
  cases found.symm.trans same
  obtain ⟨asked, rfl⟩ := mode.mp creates
  exact ⟨number, selection, there, asked, rfl, named⟩

end Batch

theorem Selection.ref_of_unnamed {selection : Selection} (index : Nat)
    (creates : selection.create = true)
    (unnamed : selection.entityRef = none ∨ selection.entityRef = some "") :
    selection.ref index = .ok (Item.placeholder index) := by
  unfold ref
  rcases unnamed with missing | empty
  · rw [missing, if_pos creates]
  · simp only [empty, creates, if_true]

theorem Selection.ref_of_nonempty {selection : Selection} {given : String} (number : Nat)
    (isGiven : selection.entityRef = some given) (nonempty : given ≠ "") :
    selection.ref number =
      if Item.isPlaceholder given then .ok given
      else (Item.normalizeId given).mapError fun reason => ⟨number, .badId reason⟩ := by
  unfold ref
  rw [isGiven]
  split
  next missing => simp at missing
  next empty => exact absurd (Option.some.inj empty) nonempty
  next same =>
    cases same
    cases Item.normalizeId given <;> rfl

end EditBatch

import EditBatch.Proofs.Item.Spelling
import EditBatch.Proofs.Row.Layout

/-! What a batch is made of.

A batch cannot be made if and only if one of the selections cannot be used, and then it is the first
one that is complained of. Otherwise its commands are the groups of the selections, one behind the
other, numbered from the start to the end of the whole list.
-/

set_option autoImplicit false

namespace EditBatch

open EditBatch.Text

/-- What a command is to do, apart from the item on which it does it. -/
structure Content where
  mode : Mode
  prop : String
  value : Option String
  page : String
  fromRedlink : Bool
  deriving DecidableEq, Repr

def Command.content (command : Command) : Content :=
  ⟨command.mode, command.prop, command.value, command.page, command.fromRedlink⟩

namespace Selection

/-! ## Refs -/

def Unnamed (selection : Selection) : Prop :=
  selection.entityRef = none ∨ selection.entityRef = some ""

/-- A selection that names no item and asks for none, or whose ref is neither a placeholder nor an
item id. -/
inductive Unusable (selection : Selection) : Prop where
  | nothing (unnamed : selection.Unnamed) (existing : selection.create = false)
  | badId {given : String} (isGiven : selection.entityRef = some given) (nonempty : given ≠ "")
      (concrete : Item.isPlaceholder given = false)
      (unspelled : ∀ digits, ¬ Item.Spells given.toList digits)

/-- The ref that the commands of a numbered selection are on. -/
inductive Names (number : Nat) (selection : Selection) : (ref : String) → Prop where
  | item {given : String} {digits : List Char} (isGiven : selection.entityRef = some given)
      (spelled : Item.Spells given.toList digits) : Names number selection (Row.itemOf digits)
  | placeholder {given : String} (isGiven : selection.entityRef = some given)
      (stands : Item.isPlaceholder given = true) : Names number selection given
  | madeUp (unnamed : selection.Unnamed) (creates : selection.create = true) :
      Names number selection (Item.placeholder number)

theorem not_unnamed {selection : Selection} {given : String}
    (isGiven : selection.entityRef = some given) (nonempty : given ≠ "") :
    ¬ selection.Unnamed := by
  rintro (missing | empty)
  · simp [missing] at isGiven
  · exact nonempty (Option.some.inj (isGiven.symm.trans empty))

theorem exists_given {selection : Selection} (named : ¬ selection.Unnamed) :
    ∃ given, selection.entityRef = some given ∧ given ≠ "" := by
  cases isGiven : selection.entityRef with
  | none => exact absurd (.inl isGiven) named
  | some given => exact ⟨given, rfl, fun empty => named (.inr (by rw [isGiven, empty]))⟩

theorem unusable_iff_of_unnamed {selection : Selection} (unnamed : selection.Unnamed) :
    selection.Unusable ↔ selection.create = false := by
  constructor
  · rintro (⟨-, existing⟩ | ⟨isGiven, nonempty, -, -⟩)
    · exact existing
    · exact absurd unnamed (not_unnamed isGiven nonempty)
  · exact .nothing unnamed

theorem unusable_iff_of_given {selection : Selection} {given : String}
    (isGiven : selection.entityRef = some given) (nonempty : given ≠ "") :
    selection.Unusable ↔
      Item.isPlaceholder given = false ∧ ∀ digits, ¬ Item.Spells given.toList digits := by
  constructor
  · rintro (⟨unnamed, -⟩ | ⟨same, -, concrete, unspelled⟩)
    · exact absurd unnamed (not_unnamed isGiven nonempty)
    · cases isGiven.symm.trans same
      exact ⟨concrete, unspelled⟩
  · exact fun ⟨concrete, unspelled⟩ => .badId isGiven nonempty concrete unspelled

def complaint (selection : Selection) : String :=
  match selection.entityRef with
  | none | some "" => " has no item id and no creation request"
  | some given => ": Not an item id: " ++ quoted given

theorem complaint_of_unnamed {selection : Selection} (unnamed : selection.Unnamed) :
    selection.complaint = " has no item id and no creation request" := by
  unfold complaint
  rcases unnamed with missing | empty
  · rw [missing]
  · simp only [empty]

theorem complaint_of_given {selection : Selection} {given : String}
    (isGiven : selection.entityRef = some given) (nonempty : given ≠ "") :
    selection.complaint = ": Not an item id: " ++ quoted given := by
  unfold complaint
  rw [isGiven]
  split
  next missing => simp at missing
  next empty => exact absurd (Option.some.inj empty) nonempty
  next same =>
    cases same
    rfl

theorem ref_judged (number : Nat) (selection : Selection) :
    (∃ ref, selection.ref number = .ok ref ∧ selection.Names number ref ∧ ¬ selection.Unusable) ∨
      ∃ e, selection.ref number = .error e ∧ selection.Unusable ∧ e.index = number ∧
        e.message = "Selection " ++ toString number ++ selection.complaint := by
  by_cases unnamed : selection.Unnamed
  · rw [unusable_iff_of_unnamed unnamed, complaint_of_unnamed unnamed]
    cases creates : selection.create with
    | true =>
      exact .inl ⟨_, ref_of_unnamed number creates unnamed, .madeUp unnamed creates, by simp⟩
    | false =>
      refine .inr ⟨⟨number, .nothingSelected⟩, ?_, rfl, rfl, rfl⟩
      unfold ref
      rcases unnamed with missing | empty
      · simp [missing, creates]
      · simp [empty, creates]
  · obtain ⟨given, isGiven, nonempty⟩ := exists_given unnamed
    rw [ref_of_nonempty number isGiven nonempty, unusable_iff_of_given isGiven nonempty,
      complaint_of_given isGiven nonempty]
    cases stands : Item.isPlaceholder given with
    | true => exact .inl ⟨given, rfl, .placeholder isGiven stands, by simp⟩
    | false =>
      cases normal : Item.normalizeId given with
      | ok id =>
        obtain ⟨digits, spelled, rfl⟩ := Item.normalizeId_eq_ok_iff.mp normal
        exact .inl ⟨_, rfl, .item isGiven spelled, fun ⟨_, unspelled⟩ => unspelled digits spelled⟩
      | error reason =>
        obtain ⟨unspelled, rfl⟩ := Item.normalizeId_eq_error_iff.mp normal
        refine .inr ⟨_, rfl, ⟨rfl, unspelled⟩, rfl, ?_⟩
        have joined : ": Not an item id: " = ": " ++ "Not an item id: " := by decide
        simp only [joined, MalformedSelection.message, Item.InvalidId.message,
          String.append_assoc]

theorem usable_of_ref {number : Nat} {selection : Selection} {ref : String}
    (found : selection.ref number = .ok ref) : ¬ selection.Unusable := by
  obtain ⟨_, -, -, usable⟩ | ⟨e, failed, -⟩ := selection.ref_judged number
  · exact usable
  · simp [found] at failed

/-! ## Groups -/

def contents (rows : List Row) (selection : Selection) : List Content :=
  (if selection.create then [⟨.create, "", none, selection.page, selection.fromRedlink⟩] else []) ++
    rows.map fun row => ⟨row.mode, row.prop, row.value, "", false⟩

structure Fills (rows : List Row) (number : Nat) (selection : Selection)
    (group : List Command) : Prop where
  named : ∃ ref, selection.Names number ref ∧ ∀ command ∈ group, command.entityRef = ref
  contents : group.map Command.content = selection.contents rows
  waiting : ∀ command ∈ group, command.status = .waiting
  shared : ∀ command ∈ group, command.groupId = selection.groupId
  closed : ∀ (offset : Nat) (command : Command), group[offset]? = some command →
    (command.closesGroup = true ↔ offset + 1 = group.length)

theorem map_content_edits (id : Nat) (ref : String) (selection : Selection) (rows : List Row) :
    (selection.edits id ref rows).map Command.content =
      rows.map fun row => ⟨row.mode, row.prop, row.value, "", false⟩ := by
  induction rows generalizing id with
  | nil => rfl
  | cons row rest ih =>
    rw [edits, List.map_cons, ih, List.map_cons]
    rfl

theorem map_content_openGroup (id : Nat) (ref : String) (rows : List Row) (selection : Selection) :
    (selection.openGroup id ref rows).map Command.content = selection.contents rows := by
  unfold openGroup contents
  split
  · rw [List.map_cons, map_content_edits]
    rfl
  · rw [map_content_edits]
    rfl

theorem id_edits {id position : Nat} {ref : String} {selection : Selection} {rows : List Row}
    {command : Command} (there : (selection.edits id ref rows)[position]? = some command) :
    command.id = id + position := by
  rw [getElem?_edits] at there
  obtain ⟨row, -, rfl⟩ := Option.map_eq_some_iff.mp there
  simp [edit]

theorem id_openGroup {id position : Nat} {ref : String} {rows : List Row} {selection : Selection}
    {command : Command} (there : (selection.openGroup id ref rows)[position]? = some command) :
    command.id = id + position := by
  unfold openGroup at there
  split at there
  · cases position with
    | zero =>
      cases there
      simp [creation]
    | succ position =>
      rw [id_edits there]
      omega
  · exact id_edits there

end Selection

theorem map_content_closeGroup (commands : List Command) :
    (closeGroup commands).map Command.content = commands.map Command.content := by
  fun_induction closeGroup commands with
  | case1 => rfl
  | case2 => rfl
  | case3 command rest _ ih => simp only [List.map_cons, ih]

theorem id_group {id position : Nat} {ref : String} {rows : List Row} {selection : Selection}
    {command : Command}
    (there : (closeGroup (selection.openGroup id ref rows))[position]? = some command) :
    command.id = id + position := by
  have bound := (List.getElem?_eq_some_iff.mp there).1
  rw [length_closeGroup] at bound
  rw [getElem?_closeGroup (List.getElem?_eq_getElem bound)] at there
  cases there
  simpa only using Selection.id_openGroup (List.getElem?_eq_getElem bound)

theorem fills_group {rows : List Row} {number : Nat} {selection : Selection} {ref : String}
    (named : selection.Names number ref) (id : Nat) :
    selection.Fills rows number (closeGroup (selection.openGroup id ref rows)) := by
  have made : ∀ command ∈ selection.openGroup id ref rows,
      command.entityRef = ref ∧ command.status = .waiting ∧
        command.groupId = selection.groupId := by
    intro command member
    obtain rfl | ⟨row, -, place, rfl⟩ := Selection.mem_openGroup member
    · exact ⟨rfl, rfl, rfl⟩
    · exact ⟨rfl, rfl, rfl⟩
  have closed := forall_closeGroup (fun _ same => same) made
  refine ⟨⟨ref, named, fun command member => (closed command member).1⟩, ?_,
    fun command member => (closed command member).2.1,
    fun command member => (closed command member).2.2, fun offset command there => ?_⟩
  · rw [map_content_closeGroup, Selection.map_content_openGroup]
  · rw [length_group]
    exact closesGroup_of_group there

/-! ## The whole batch -/

/-- It is the first selection that cannot be used which is complained of, by its number. -/
def Blames (index : Nat) (selections : List Selection) (e : MalformedSelection) : Prop :=
  ∃ before selection after, selections = before ++ selection :: after ∧
    (∀ earlier ∈ before, ¬ Selection.Unusable earlier) ∧ selection.Unusable ∧
    e.index = index + before.length ∧
    e.message = "Selection " ++ toString e.index ++ selection.complaint

/-- Commands that are the groups of selections one behind the other, numbered from an id on. -/
def LaidOut (rows : List Row) (index id : Nat) (selections : List Selection)
    (commands : List Command) : Prop :=
  (∃ groups : List (List Command), commands = groups.flatten ∧
      groups.length = selections.length ∧
      ∀ (number : Nat) (selection : Selection) (group : List Command),
        selections[number]? = some selection → groups[number]? = some group →
        selection.Fills rows (index + number) group) ∧
    ∀ (position : Nat) (command : Command), commands[position]? = some command →
      command.id = id + position

theorem LaidOut.cons {rows : List Row} {index id : Nat} {selection : Selection}
    {rest : List Selection} {others : List Command} {ref : String}
    (named : selection.Names index ref)
    (later : LaidOut rows (index + 1) (id + selection.size rows) rest others) :
    LaidOut rows index id (selection :: rest)
      (closeGroup (selection.openGroup id ref rows) ++ others) := by
  obtain ⟨⟨groups, parts, same, fill⟩, numbered⟩ := later
  refine ⟨⟨closeGroup (selection.openGroup id ref rows) :: groups, by rw [parts]; rfl,
    by rw [List.length_cons, same, List.length_cons], fun number one group here there => ?_⟩,
    fun position command there => ?_⟩
  · cases number with
    | zero =>
      cases here
      cases there
      exact fills_group named id
    | succ number =>
      have shifted : index + (number + 1) = index + 1 + number := by omega
      rw [shifted]
      exact fill number one group here there
  · rcases Nat.lt_or_ge position (selection.size rows) with inside | beyond
    · rw [List.getElem?_append_left (by rwa [length_group])] at there
      exact id_group there
    · rw [List.getElem?_append_right (by rwa [length_group]), length_group] at there
      rw [numbered _ _ there]
      omega

/-- The groups of selections are made one after the other, up to the first one that cannot be
used. -/
theorem combine_judged (rows : List Row) (index id : Nat) (selections : List Selection) :
    (∃ commands, combine rows index id selections = .ok commands ∧
        (∀ selection ∈ selections, ¬ selection.Unusable) ∧
        LaidOut rows index id selections commands) ∨
      ∃ e, combine rows index id selections = .error e ∧ Blames index selections e := by
  induction selections generalizing index id with
  | nil =>
    exact .inl ⟨[], rfl, by simp, ⟨[], rfl, rfl, by simp⟩, by simp⟩
  | cons selection rest ih =>
    unfold combine
    obtain ⟨ref, found, named, usable⟩ | ⟨e, found, unusable, number, message⟩ :=
      selection.ref_judged index
    · simp only [found, bind, Except.bind, length_group]
      obtain ⟨others, made, allUsable, laid⟩ | ⟨e, failed, before, bad, after, parts, earlier,
        unusable, number, message⟩ := ih (index + 1) (id + selection.size rows)
      · rw [made]
        exact .inl ⟨_, rfl, List.forall_mem_cons.mpr ⟨usable, allUsable⟩, laid.cons named⟩
      · rw [failed]
        refine .inr ⟨e, rfl, selection :: before, bad, after, by rw [parts]; rfl,
          List.forall_mem_cons.mpr ⟨usable, earlier⟩, unusable, ?_, message⟩
        rw [number, List.length_cons]
        omega
    · simp only [found, bind, Except.bind]
      exact .inr ⟨e, rfl, [], selection, rest, rfl, by simp, unusable, number,
        number ▸ message⟩

/-- A batch cannot be made if and only if a selection cannot be used, and then the first such one is
complained of. Otherwise its commands are laid out selection by selection, with the rows of its sheet,
whose malformed lines it passes on. -/
theorem laid_out_as_selected (text : String) (selections : List Selection) :
    ((∃ e, Batch.read text selections = .error e) ↔
        ∃ selection ∈ selections, selection.Unusable) ∧
      (∀ e, Batch.read text selections = .error e → Blames 0 selections e) ∧
      ((∀ selection ∈ selections, ¬ selection.Unusable) →
        ∃ batch, Batch.read text selections = .ok batch ∧
          LaidOut (Sheet.read text).rows 0 0 selections batch.commands ∧
          batch.malformed = (Sheet.read text).malformed) := by
  obtain ⟨commands, made, usable, laid⟩ | ⟨e, failed, blames⟩ :=
    combine_judged (Sheet.read text).rows 0 0 selections
  · have read : Batch.read text selections = .ok ⟨commands, (Sheet.read text).malformed⟩ := by
      simp only [Batch.read, made, bind, Except.bind, pure, Except.pure]
    refine ⟨⟨fun ⟨e, error⟩ => ?_, fun ⟨selection, among, unusable⟩ => ?_⟩, fun e error => ?_,
      fun _ => ⟨_, read, laid, rfl⟩⟩
    · simp [read] at error
    · exact absurd unusable (usable selection among)
    · simp [read] at error
  · have read : Batch.read text selections = .error e := by
      simp only [Batch.read, failed, bind, Except.bind]
    have ⟨before, bad, after, parts, _, unusable, _⟩ := blames
    have among : bad ∈ selections := by simp [parts]
    refine ⟨⟨fun _ => ⟨bad, among, unusable⟩, fun _ => ⟨e, read⟩⟩, fun other error => ?_,
      fun usable => absurd unusable (usable bad among)⟩
    cases read.symm.trans error
    exact blames

def oldAndNew : List Selection :=
  [{ entityRef := some "42" }, { create := true, page := "Foo" }]

def idle : Selection := { page := "Bar" }

theorem laid_out_as_selected_mixed :
    (∃ batch, Batch.read "P31:Q5\nP31" oldAndNew = .ok batch ∧
        LaidOut (Sheet.read "P31:Q5\nP31").rows 0 0 oldAndNew batch.commands ∧
        batch.commands.map (fun command => (command.id, command.entityRef, command.closesGroup)) =
          [(0, "Q42", true), (1, "create_item_1", false), (2, "create_item_1", true)]) ∧
      ∃ e, Batch.read "P31:Q5" (oldAndNew ++ [idle]) = .error e ∧
        Blames 0 (oldAndNew ++ [idle]) e ∧
        e.message = "Selection 2 has no item id and no creation request" := by
  constructor
  · have old : Selection.ref 0 { entityRef := some "42" } = .ok "Q42" := by rfl
    have new : Selection.ref 1 { create := true, page := "Foo" } = .ok "create_item_1" := by rfl
    have usable : ∀ selection ∈ oldAndNew, ¬ selection.Unusable := by
      simp only [oldAndNew, List.forall_mem_cons, List.not_mem_nil, false_implies, implies_true,
        and_true]
      exact ⟨Selection.usable_of_ref old, Selection.usable_of_ref new⟩
    obtain ⟨batch, read, laid, -⟩ := (laid_out_as_selected "P31:Q5\nP31" oldAndNew).2.2 usable
    refine ⟨batch, read, laid, ?_⟩
    cases read
    rfl
  · have failed : Batch.read "P31:Q5" (oldAndNew ++ [idle]) = .error ⟨2, .nothingSelected⟩ := by
      rfl
    exact ⟨_, failed, (laid_out_as_selected _ _).2.1 _ failed, by decide +kernel⟩

end EditBatch

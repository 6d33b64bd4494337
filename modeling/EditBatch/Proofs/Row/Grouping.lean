import EditBatch.Proofs.Command.Export
import EditBatch.Proofs.Row.Layout

/-! Which creation the placeholders of a batch stand for.

A reader who goes through a batch from its start needs to know the latest creation only: an edit on
a placeholder belongs to it, and no creation takes up a placeholder again. All other refs are ids of
items, and rows have nothing but ids in them, so that such a batch can be exported.
-/

set_option autoImplicit false

namespace EditBatch

open QuickStatements (IsId Exportable)

/-! ## Ids -/

theorem plain_of_digits {letter : Char} {digits : List Char} (other : letter ≠ '|')
    (all : ∀ digit ∈ digits, Text.isDigit digit = true) : '|' ∉ letter :: digits := by
  refine List.not_mem_cons_of_ne_of_not_mem (Ne.symm other) fun member => ?_
  have digit := all _ member
  revert digit
  decide

theorem isId_ofList {letter : Char} {digits : List Char} (other : letter ≠ '|')
    (all : ∀ digit ∈ digits, Text.isDigit digit = true) :
    IsId letter (String.ofList (letter :: digits)) :=
  ⟨digits, String.toList_ofList, plain_of_digits other all⟩

theorem isId_of_normalizeId {text id : String} (normal : Item.normalizeId text = .ok id) :
    IsId 'Q' id := by
  unfold Item.normalizeId at normal
  split at normal
  next found =>
    cases normal
    simp only [Item.normalizeId?] at found
    split at found
    next number =>
      cases found
      obtain ⟨-, all⟩ := Bool.and_eq_true_iff.mp number
      exact isId_ofList (by decide) (List.all_eq_true.mp all)
    next => simp at found
  next => simp at normal

theorem isPlaceholder_of_isId {id : String} (isId : IsId 'Q' id) :
    Item.isPlaceholder id = false := by
  obtain ⟨digits, text, -⟩ := isId
  rw [Item.isPlaceholder, text]
  rfl

/-! ## Rows -/

namespace Row

theorem readId?_digits {capital small : Char} {text digits rest : List Char}
    (found : readId? capital small text = some (digits, rest)) :
    ∀ digit ∈ digits, Text.isDigit digit = true := by
  unfold readId? at found
  split at found
  next => simp at found
  next =>
    split at found
    next =>
      obtain ⟨rfl, -⟩ := Prod.mk.inj (Option.some.inj found)
      exact List.all_eq_true.mp List.all_takeWhile
    next => simp at found

theorem readValue?_digits {text digits rest : List Char}
    (found : readValue? text = some (digits, rest)) :
    ∀ digit ∈ digits, Text.isDigit digit = true := by
  unfold readValue? at found
  split at found
  next => exact readId?_digits found
  next => simp at found

/-- What stands in a row: an addition or a deletion, and ids. -/
structure Plain (row : Row) : Prop where
  mode : row.mode = .add ∨ row.mode = .delete
  prop : IsId 'P' row.prop
  value : ∀ id, row.value = some id → IsId 'Q' id

theorem parts_of_read? {text : String} {row : Row} (ok : read? text = some row) :
    (row.mode = .add ∨ row.mode = .delete) ∧
      (∃ digits, (∀ digit ∈ digits, Text.isDigit digit = true) ∧ row.prop = propertyOf digits) ∧
      ∀ id, row.value = some id →
        ∃ digits, (∀ digit ∈ digits, Text.isDigit digit = true) ∧ id = itemOf digits := by
  unfold read? readChars? at ok
  split at ok
  next =>
    obtain ⟨⟨digits, rest⟩, found, rfl⟩ := Option.map_eq_some_iff.mp ok
    refine ⟨.inr rfl, ⟨digits, readId?_digits found, rfl⟩, fun id value => ?_⟩
    obtain ⟨⟨digits, rest⟩, found, rfl⟩ := Option.map_eq_some_iff.mp value
    exact ⟨digits, readValue?_digits found, rfl⟩
  next =>
    unfold readAddition? at ok
    split at ok
    next property rest found =>
      split at ok
      next item rest valued =>
        split at ok
        next =>
          cases ok
          refine ⟨.inl rfl, ⟨property, readId?_digits found, rfl⟩, fun id value => ?_⟩
          cases value
          exact ⟨item, readValue?_digits valued, rfl⟩
        next => simp at ok
      next => simp at ok
    next => simp at ok

theorem plain_of_read? {text : String} {row : Row} (ok : read? text = some row) : row.Plain := by
  obtain ⟨mode, ⟨digits, all, prop⟩, values⟩ := parts_of_read? ok
  refine ⟨mode, prop ▸ isId_ofList (by decide) all, fun id value => ?_⟩
  obtain ⟨digits, all, rfl⟩ := values id value
  exact isId_ofList (by decide) all

end Row

theorem Sheet.plain_of_mem_rows {text : String} {row : Row}
    (member : row ∈ (Sheet.read text).rows) : row.Plain := by
  obtain ⟨line, -, found⟩ := Sheet.read?_of_mem_rows member
  exact Row.plain_of_read? found

/-! ## Selections -/

theorem Selection.ref_cases {selection : Selection} {index : Nat} {ref : String}
    (ok : selection.ref index = .ok ref) :
    (selection.entityRef = none ∨ selection.entityRef = some "") ∧ selection.create = true ∧
        ref = Item.placeholder index ∨
      selection.entityRef = some ref ∧ Item.isPlaceholder ref = true ∨
      (∃ given, selection.entityRef = some given ∧ given ≠ "" ∧
        Item.isPlaceholder given = false) ∧ IsId 'Q' ref := by
  have generated (unnamed : selection.entityRef = none ∨ selection.entityRef = some "")
      (ok : (if selection.create then .ok (Item.placeholder index)
        else .error ⟨index, .nothingSelected⟩ : Except MalformedSelection String) = .ok ref) :
      (selection.entityRef = none ∨ selection.entityRef = some "") ∧ selection.create = true ∧
        ref = Item.placeholder index := by
    split at ok
    next creates => exact ⟨unnamed, creates, (Except.ok.inj ok).symm⟩
    next => simp at ok
  unfold Selection.ref at ok
  split at ok
  next missing => exact .inl (generated (.inl missing) ok)
  next empty => exact .inl (generated (.inr empty) ok)
  next given named found =>
    split at ok
    next stands =>
      cases ok
      exact .inr (.inl ⟨found, stands⟩)
    next concrete =>
      refine .inr (.inr ⟨⟨given, found, named, Bool.eq_false_iff.mpr concrete⟩, ?_⟩)
      split at ok
      next id normal =>
        cases ok
        exact isId_of_normalizeId normal
      next => simp at ok

/-- New items go without an id, and placeholders are not given as items. -/
structure Selection.Named (selection : Selection) : Prop where
  unnamed : selection.create = true →
    selection.entityRef = none ∨ selection.entityRef = some ""
  concrete : ∀ ref, selection.entityRef = some ref → Item.isPlaceholder ref = false

theorem Selection.Named.cases {selection : Selection} {index : Nat} {ref : String}
    (named : selection.Named) (ok : selection.ref index = .ok ref) :
    selection.create = true ∧ ref = Item.placeholder index ∨
      selection.create = false ∧ IsId 'Q' ref := by
  rcases Selection.ref_cases ok with ⟨-, creates, generated⟩ | ⟨given, stands⟩ |
    ⟨⟨given, isGiven, nonempty, -⟩, isId⟩
  · exact .inl ⟨creates, generated⟩
  · simp [named.concrete ref given] at stands
  · refine .inr ⟨Bool.eq_false_iff.mpr fun creates => ?_, isId⟩
    rcases named.unnamed creates with missing | empty
    · simp [missing] at isGiven
    · exact nonempty (Option.some.inj (isGiven.symm.trans empty))

/-! ## Groups -/

/-- Creations take up new placeholders, and edits on a placeholder belong to the latest one. -/
inductive Grouped : (used : List String) → (latest : Option String) → List Command → Prop where
  | nil {used : List String} {latest : Option String} : Grouped used latest []
  | create {used : List String} {latest : Option String} {command : Command}
      {rest : List Command} (creates : command.mode = .create)
      (stands : Item.isPlaceholder command.entityRef = true) (fresh : command.entityRef ∉ used)
      (later : Grouped (command.entityRef :: used) (some command.entityRef) rest) :
      Grouped used latest (command :: rest)
  | edit {used : List String} {latest : Option String} {command : Command}
      {rest : List Command} (edits : command.mode ≠ .create)
      (belongs : Item.isPlaceholder command.entityRef = true → latest = some command.entityRef)
      (later : Grouped used latest rest) : Grouped used latest (command :: rest)

namespace Grouped

variable {used : List String} {latest : Option String} {commands rest : List Command}

theorem closeGroup (grouped : Grouped used latest (commands ++ rest)) :
    Grouped used latest (EditBatch.closeGroup commands ++ rest) := by
  fun_induction EditBatch.closeGroup commands generalizing used latest with
  | case1 => exact grouped
  | case2 last =>
    cases grouped with
    | create creates stands fresh later => exact .create creates stands fresh later
    | edit edits belongs later => exact .edit edits belongs later
  | case3 command others _ ih =>
    cases grouped with
    | create creates stands fresh later => exact .create creates stands fresh (ih later)
    | edit edits belongs later => exact .edit edits belongs (ih later)

theorem edits {ref : String} {rows : List Row} (selection : Selection)
    (plain : ∀ row ∈ rows, row.Plain)
    (belongs : Item.isPlaceholder ref = true → latest = some ref)
    (grouped : Grouped used latest rest) (id : Nat) :
    Grouped used latest (selection.edits id ref rows ++ rest) := by
  induction rows generalizing id with
  | nil => exact grouped
  | cons row others ih =>
    obtain ⟨first, later⟩ := List.forall_mem_cons.mp plain
    refine .edit ?_ belongs (ih later (id + 1))
    rcases first.mode with adds | deletes
    · simp [Selection.edit, adds]
    · simp [Selection.edit, deletes]

end Grouped

theorem grouped_of_combine {rows : List Row} {index id : Nat} {selections : List Selection}
    {commands : List Command} {used : List String} {latest : Option String}
    (ok : combine rows index id selections = .ok commands)
    (plain : ∀ row ∈ rows, row.Plain) (named : ∀ selection ∈ selections, selection.Named)
    (fresh : ∀ number : Nat, index ≤ number → Item.placeholder number ∉ used) :
    Grouped used latest commands := by
  -- The numbers of selections go up, so no placeholder ahead is among the used ones.
  induction selections generalizing index id commands used latest with
  | nil =>
    cases ok
    exact .nil
  | cons selection rest ih =>
    obtain ⟨ref, others, next, found, made, rfl⟩ := combine_cons ok
    obtain ⟨first, later⟩ := List.forall_mem_cons.mp named
    refine Grouped.closeGroup ?_
    unfold Selection.openGroup
    rcases first.cases found with ⟨creates, rfl⟩ | ⟨edits, isId⟩
    · rw [if_pos creates]
      have stands := Item.isPlaceholder_placeholder index
      refine .create rfl stands (fresh index (Nat.le_refl _)) ?_
      refine Grouped.edits selection plain (fun _ => rfl) (ih made later ?_) (id + 1)
      intro number after among
      rcases List.mem_cons.mp among with same | taken
      · have := Item.placeholder_inj same
        omega
      · exact fresh number (by omega) taken
    · rw [if_neg (by simp [edits])]
      refine Grouped.edits selection plain ?_ (ih made later ?_) id
      · simp [isPlaceholder_of_isId isId]
      · exact fun number after => fresh number (by omega)

/-! ## Exports -/

theorem exportable_closeGroup {commands : List Command}
    (exportable : ∀ command ∈ commands, Exportable command) :
    ∀ command ∈ closeGroup commands, Exportable command :=
  forall_closeGroup (fun _ ⟨page, edits, prop, value, ref⟩ => ⟨page, edits, prop, value, ref⟩)
    exportable

theorem exportable_openGroup {ref : String} {rows : List Row} {selection : Selection}
    (plain : ∀ row ∈ rows, row.Plain) (page : '|' ∉ selection.page.toList)
    (item : Item.isPlaceholder ref = false → IsId 'Q' ref) (id : Nat) :
    ∀ command ∈ selection.openGroup id ref rows, Exportable command := by
  intro command member
  obtain rfl | ⟨row, among, number, rfl⟩ := Selection.mem_openGroup member
  · exact ⟨page, fun edits => absurd rfl edits, fun edits => absurd rfl edits,
      fun id value => by simp [Selection.creation] at value, item⟩
  · have ids := plain row among
    exact ⟨by simp [Selection.edit], fun _ => ids.mode, fun _ => ids.prop, ids.value, item⟩

theorem exportable_of_combine {rows : List Row} {index id : Nat} {selections : List Selection}
    {commands : List Command} (ok : combine rows index id selections = .ok commands)
    (plain : ∀ row ∈ rows, row.Plain) (named : ∀ selection ∈ selections, selection.Named)
    (pages : ∀ selection ∈ selections, '|' ∉ selection.page.toList) :
    ∀ command ∈ commands, Exportable command := by
  induction selections generalizing index id commands with
  | nil =>
    cases ok
    simp
  | cons selection rest ih =>
    obtain ⟨ref, others, next, found, made, rfl⟩ := combine_cons ok
    obtain ⟨first, later⟩ := List.forall_mem_cons.mp named
    obtain ⟨page, morePages⟩ := List.forall_mem_cons.mp pages
    have item : Item.isPlaceholder ref = false → IsId 'Q' ref := by
      intro concrete
      rcases first.cases found with ⟨-, rfl⟩ | ⟨-, isId⟩
      · simp [Item.isPlaceholder_placeholder] at concrete
      · exact isId
    intro command member
    rcases List.mem_append.mp member with here | there
    · exact exportable_closeGroup (exportable_openGroup plain page item id) command here
    · exact ih made later morePages command there

namespace Batch

variable {text : String} {selections : List Selection} {batch : Batch}

theorem grouped_of_read (ok : Batch.read text selections = .ok batch)
    (named : ∀ selection ∈ selections, selection.Named) : Grouped [] none batch.commands :=
  grouped_of_combine (combine_of_read ok) (fun _ => Sheet.plain_of_mem_rows) named (by simp)

/-- A batch whose pages have no bars in their titles can be exported. -/
theorem exportable_of_read (ok : Batch.read text selections = .ok batch)
    (named : ∀ selection ∈ selections, selection.Named)
    (pages : ∀ selection ∈ selections, '|' ∉ selection.page.toList) :
    ∀ command ∈ batch.commands, Exportable command :=
  exportable_of_combine (combine_of_read ok) (fun _ => Sheet.plain_of_mem_rows) named pages

end Batch

end EditBatch

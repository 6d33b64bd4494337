import EditBatch.Proofs.Row.Grouping

/-! Which selections of a batch are on one placeholder.

The placeholders that a batch makes up differ from one another, for they carry the numbers of their
selections. Those that selections are given are taken as they are, so that two selections are on one
placeholder if and only if at least one of them was given it.
-/

set_option autoImplicit false

namespace EditBatch

namespace Selection

/-- A selection was given a placeholder, or it was given no ref and this is the placeholder of its
number. -/
def OnPlaceholder (index : Nat) (selection : Selection) (name : String) : Prop :=
  selection.entityRef = some name ∨
    (selection.entityRef = none ∨ selection.entityRef = some "") ∧ name = Item.placeholder index

theorem ref_of_given {selection : Selection} {name : String} (index : Nat)
    (given : selection.entityRef = some name) (stands : Item.isPlaceholder name = true) :
    selection.ref index = .ok name := by
  have nonempty : name ≠ "" := by
    rintro rfl
    exact absurd stands (by decide +kernel)
  rw [ref_of_nonempty index given nonempty, if_pos stands]

theorem ref_eq_iff {selection : Selection} {index : Nat} {ref name : String}
    (ok : selection.ref index = .ok ref) (stands : Item.isPlaceholder name = true) :
    ref = name ↔ selection.OnPlaceholder index name := by
  constructor
  · rintro rfl
    rcases ref_cases ok with ⟨unnamed, -, generated⟩ | ⟨given, -⟩ | ⟨-, isId⟩
    · exact .inr ⟨unnamed, generated⟩
    · exact .inl given
    · simp [isPlaceholder_of_isId isId] at stands
  · rintro (given | ⟨unnamed, rfl⟩)
    · exact Except.ok.inj (ok.symm.trans (ref_of_given index given stands))
    · cases creates : selection.create with
      | true => exact Except.ok.inj (ok.symm.trans (ref_of_unnamed index creates unnamed))
      | false =>
        unfold Selection.ref at ok
        rcases unnamed with missing | empty
        · simp [missing, creates] at ok
        · simp [empty, creates] at ok

end Selection

/-- Two commands of different selections are on one placeholder if and only if both selections are
on it, and it was given to at least one of them. -/
theorem placeholder_shared_iff {text : String} {selections : List Selection} {batch : Batch}
    (ok : Batch.read text selections = .ok batch) {number other : Nat} {one two : Selection}
    (here : selections[number]? = some one) (there : selections[other]? = some two)
    (apart : number ≠ other) (offset place : Nat)
    (bound : offset < one.size (Sheet.read text).rows)
    (within : place < two.size (Sheet.read text).rows) {former latter : Command}
    (found : batch.commands[groupStart (Sheet.read text).rows selections number + offset]? =
      some former)
    (met : batch.commands[groupStart (Sheet.read text).rows selections other + place]? =
      some latter) :
    former.entityRef = latter.entityRef ∧ Item.isPlaceholder former.entityRef = true ↔
      ∃ name, Item.isPlaceholder name = true ∧
        (one.entityRef = some name ∨ two.entityRef = some name) ∧
        one.OnPlaceholder number name ∧ two.OnPlaceholder other name := by
  obtain ⟨ref, _, named, same, rfl, -⟩ := Batch.command_of_read ok here bound
  cases found.symm.trans same
  obtain ⟨ref', _, named', same', rfl, -⟩ := Batch.command_of_read ok there within
  cases met.symm.trans same'
  constructor
  · rintro ⟨together, stands⟩
    have first := (Selection.ref_eq_iff named stands).mp rfl
    have second := (Selection.ref_eq_iff named' stands).mp together.symm
    refine ⟨former.entityRef, stands, ?_, first, second⟩
    rcases first with given | ⟨-, generated⟩
    · exact .inl given
    · rcases second with given | ⟨-, again⟩
      · exact .inr given
      · -- Two placeholders that were made up have the numbers of their selections.
        exact absurd (Item.placeholder_inj (generated.symm.trans again)) apart
  · rintro ⟨name, stands, -, first, second⟩
    have onFirst := (Selection.ref_eq_iff named stands).mpr first
    have onSecond := (Selection.ref_eq_iff named' stands).mpr second
    exact ⟨onFirst.trans onSecond.symm, onFirst ▸ stands⟩

def referring : List Selection :=
  [{ page := "Foo", create := true }, { page := "Bar", create := true },
    { entityRef := some "create_item_0" }]

def referringBatch : Batch where
  commands :=
    [{ id := 0, entityRef := "create_item_0", mode := .create, page := "Foo" },
     { id := 1, entityRef := "create_item_0", mode := .add, prop := "P31", value := some "Q1"
       closesGroup := true },
     { id := 2, entityRef := "create_item_1", mode := .create, page := "Bar" },
     { id := 3, entityRef := "create_item_1", mode := .add, prop := "P31", value := some "Q1"
       closesGroup := true },
     { id := 4, entityRef := "create_item_0", mode := .add, prop := "P31", value := some "Q1"
       closesGroup := true }]
  malformed := []

/-- The placeholder that was made up for the first selection was given to the last one. -/
theorem placeholder_shared_iff_referring :
    Batch.read "P31:Q1" referring = .ok referringBatch ∧
      ∃ former latter, referringBatch.commands[1]? = some former ∧
        referringBatch.commands[4]? = some latter ∧ former.entityRef = latter.entityRef ∧
        Item.isPlaceholder former.entityRef = true := by
  have read : Batch.read "P31:Q1" referring = .ok referringBatch := rfl
  have first : referring[0]? = some { page := "Foo", create := true } := rfl
  have last : referring[2]? = some { entityRef := some "create_item_0" } := rfl
  refine ⟨read, _, _, rfl, rfl, ?_⟩
  apply (placeholder_shared_iff read first last (by decide) 1 0 (by decide +kernel)
    (by decide +kernel) rfl rfl).mpr
  exact ⟨"create_item_0", by decide +kernel, .inr rfl, .inr ⟨.inl rfl, by decide +kernel⟩, .inl rfl⟩

/-- A new item on a placeholder that is given, and another one for which the same is made up. -/
def colliding : List Selection :=
  [{ entityRef := some "create_item_1", page := "Foo", create := true },
    { page := "Bar", create := true }]

def collidingBatch : Batch where
  commands :=
    [{ id := 0, entityRef := "create_item_1", mode := .create, page := "Foo" },
     { id := 1, entityRef := "create_item_1", mode := .add, prop := "P31", value := some "Q1"
       closesGroup := true },
     { id := 2, entityRef := "create_item_1", mode := .create, page := "Bar" },
     { id := 3, entityRef := "create_item_1", mode := .add, prop := "P31", value := some "Q1"
       closesGroup := true }]
  malformed := []

/-- Both creations are on the placeholder that was made up for the second one. -/
theorem placeholder_given_and_made_up :
    Batch.read "P31:Q1" colliding = .ok collidingBatch ∧
      (colliding[1]?.map (·.entityRef)) = some none ∧
      (collidingBatch.commands[groupStart (Sheet.read "P31:Q1").rows colliding 0]?.map
        (·.entityRef)) = some (Item.placeholder 1) ∧
      (collidingBatch.commands[groupStart (Sheet.read "P31:Q1").rows colliding 1]?.map
        (·.entityRef)) = some (Item.placeholder 1) ∧
      Item.isPlaceholder (Item.placeholder 1) = true := by
  refine ⟨rfl, rfl, by decide +kernel, by decide +kernel, by decide +kernel⟩

end EditBatch

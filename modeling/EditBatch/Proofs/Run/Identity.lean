import EditBatch.Proofs.Row.Structure
import EditBatch.Proofs.Run.Order

/-! Spellings of an item are one item to a run.

However an item is spelled in a selection, its commands are on the normal form of its id, which no
placeholder is. So two selections of one item wait for one another, command by command, whatever
their spellings.
-/

set_option autoImplicit false

namespace EditBatch

open Row (itemOf)

namespace Item

theorem Spells.nonempty {text : String} {digits : List Char} (spelled : Spells text.toList digits) :
    text ≠ "" := by
  rintro rfl
  obtain ⟨first, head, -⟩ := spelled.exists_head
  simp at head

theorem normalizeId_of_normal {text id : String} (normal : normalizeId text = .ok id) :
    normalizeId id = .ok id ∧ isPlaceholder id = false ∧ isPlaceholder text = false := by
  obtain ⟨digits, spelled, rfl⟩ := normalizeId_eq_ok_iff.mp normal
  have again := spells_itemOf spelled.number
  exact ⟨normalizeId_eq_ok_iff.mpr ⟨digits, again, rfl⟩, again.isPlaceholder,
    spelled.isPlaceholder⟩

end Item

/-- A selection of the item with given digits, in one of their spellings. -/
def Selection.On (digits : List Char) (selection : Selection) : Prop :=
  ∃ given, selection.entityRef = some given ∧ Item.Spells given.toList digits

theorem Selection.On.ref_eq {digits : List Char} {selection : Selection} (isOn : selection.On digits)
    (number : Nat) : selection.ref number = .ok (itemOf digits) := by
  obtain ⟨given, isGiven, spelled⟩ := isOn
  rw [Selection.ref_of_nonempty number isGiven spelled.nonempty, spelled.isPlaceholder,
    if_neg (by simp), Item.normalizeId_eq_ok_iff.mpr ⟨digits, spelled, rfl⟩]
  rfl

def Selection.At (rows : List Row) (selections : List Selection) (position : Nat)
    (selection : Selection) : Prop :=
  ∃ number offset, selections[number]? = some selection ∧ offset < selection.size rows ∧
    position = groupStart rows selections number + offset

theorem Batch.command_on {text : String} {selections : List Selection} {batch : Batch}
    {digits : List Char} {position : Nat} {selection : Selection}
    (read : Batch.read text selections = .ok batch)
    (there : selection.At (Sheet.read text).rows selections position)
    (isOn : selection.On digits) :
    ∃ command, batch.commands[position]? = some command ∧ command.entityRef = itemOf digits := by
  obtain ⟨number, offset, among, bound, rfl⟩ := there
  obtain ⟨ref, command, named, found, same, -⟩ := Batch.command_of_read read among bound
  cases (isOn.ref_eq number).symm.trans named
  exact ⟨command, found, same⟩

/-- Texts have a normal form if and only if they spell an item, and it is that of the id. It is its
own normal form and no placeholder, nor is any text that has one. The commands of selections that
spell the same item are on its normal form, and in every run each of them waits behind those that
come before it. -/
theorem spellings_are_one_item :
    (∀ text id : String, Item.normalizeId text = .ok id ↔
        ∃ digits, Item.Spells text.toList digits ∧ id = itemOf digits) ∧
      (∀ text id : String, Item.normalizeId text = .ok id →
        Item.normalizeId id = .ok id ∧ Item.isPlaceholder id = false ∧
          Item.isPlaceholder text = false) ∧
      ∀ (text : String) (selections : List Selection) (batch : Batch) (digits : List Char)
        (one other : Selection) (earlier later : Nat),
        Batch.read text selections = .ok batch → one.On digits → other.On digits →
        one.At (Sheet.read text).rows selections earlier →
        other.At (Sheet.read text).rows selections later → earlier < later →
        (∃ former latter, batch.commands[earlier]? = some former ∧
          batch.commands[later]? = some latter ∧
          former.entityRef = itemOf digits ∧ latter.entityRef = itemOf digits) ∧
        ∀ {σ : Type} (setup : Setup σ) (clock limit throttle : Nat) (client : σ)
          (machine : Machine σ),
          (Machine.start clock batch.commands limit throttle client).Reaches setup machine →
          machine.Queued earlier later := by
  refine ⟨fun _ _ => Item.normalizeId_eq_ok_iff, fun _ _ => Item.normalizeId_of_normal, ?_⟩
  intro text selections batch digits one other earlier later read isOn isOnToo first second before
  obtain ⟨former, here, onFormer⟩ := Batch.command_on read first isOn
  obtain ⟨latter, there, onLatter⟩ := Batch.command_on read second isOnToo
  refine ⟨⟨former, latter, here, there, onFormer, onLatter⟩, ?_⟩
  intro σ setup clock limit throttle client machine reached
  exact Machine.Reaches.queued reached (Batch.waiting_of_read read) before here there
    (onFormer.trans onLatter.symm)

def twice : List Selection := [{ entityRef := some " q42\n" }, { entityRef := some "42" }]

def editedTwice : List Command :=
  [{ id := 0, entityRef := "Q42", mode := .add, prop := "P31", value := some "Q5",
     closesGroup := true },
   { id := 1, entityRef := "Q42", mode := .add, prop := "P31", value := some "Q5",
     closesGroup := true }]

def editingTwice : Machine Rehearsal.ClientState :=
  (Machine.start 0 editedTwice 2 0 { delay := 30 }).steps Machine.rehearsed 10 10

theorem spellings_are_one_item_twice :
    Batch.read "P31:Q5" twice = .ok ⟨editedTwice, []⟩ ∧
      editingTwice.run.commands.map (·.status) = [.running, .waiting] ∧
      Item.normalizeId "Q42" = .ok "Q42" ∧ editingTwice.Queued 0 1 := by
  have read : Batch.read "P31:Q5" twice = .ok ⟨editedTwice, []⟩ := by rfl
  have number : Row.Number ['4', '2'] := Item.isNumber_iff.mp (by decide +kernel)
  have blanks (text : List Char) (all : text.all Text.isBlank = true) : Row.Blanks text :=
    List.all_eq_true.mp all
  have lettered : Item.Spells " q42\n".toList ['4', '2'] :=
    .lettered (blanks [' '] (by decide +kernel)) (.inr rfl) number
      (blanks ['\n'] (by decide +kernel))
  have bare : Item.Spells "42".toList ['4', '2'] :=
    .bare (blanks [] rfl) number (blanks [] rfl)
  obtain ⟨spelled, normal, queued⟩ := spellings_are_one_item
  have accepted : Item.normalizeId "42" = .ok "Q42" := (spelled _ _).mpr ⟨_, bare, rfl⟩
  obtain ⟨-, waits⟩ := queued "P31:Q5" twice _ _ _ _ 0 1 read ⟨_, rfl, lettered⟩ ⟨_, rfl, bare⟩
    ⟨0, 0, rfl, by decide +kernel, by decide +kernel⟩
    ⟨1, 0, rfl, by decide +kernel, by decide +kernel⟩ (by decide)
  exact ⟨read, by decide +kernel, (normal _ _ accepted).1,
    waits Machine.rehearsed 0 2 0 { delay := 30 } _ (Machine.reaches_steps _ 10 10 _)⟩

end EditBatch

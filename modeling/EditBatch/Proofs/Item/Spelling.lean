import EditBatch.Item.Id
import EditBatch.Proofs.Text.Blank

/-! The texts that spell the id of an item.

An id is told by its digits. The letter in front of them may be small or missing, and blanks may
stand around the whole; no two ids are spelled alike, and no text that spells an id is a placeholder.
-/

set_option autoImplicit false

namespace EditBatch

open EditBatch.Text
open Row (Blanks Number ItemLetter itemOf)

namespace Item

/-! ## Spelling -/

/-- An item id with blanks or none around it, with or without its letter. -/
inductive Spells : (text digits : List Char) → Prop where
  | bare {before digits after : List Char} (blankBefore : Blanks before) (number : Number digits)
      (blankAfter : Blanks after) : Spells (before ++ digits ++ after) digits
  | lettered {before digits after : List Char} {letter : Char} (blankBefore : Blanks before)
      (isLetter : ItemLetter letter) (number : Number digits) (blankAfter : Blanks after) :
      Spells (before ++ letter :: digits ++ after) digits

theorem isNumber_iff {digits : List Char} : isNumber digits = true ↔ Number digits := by
  simp only [isNumber, Bool.and_eq_true, Bool.not_eq_true', List.isEmpty_eq_false_iff,
    List.all_eq_true]
  exact ⟨fun ⟨nonempty, all⟩ => ⟨nonempty, all⟩, fun ⟨nonempty, all⟩ => ⟨nonempty, all⟩⟩

theorem not_blank_of_isDigit {c : Char} (digit : isDigit c = true) : isBlank c = false := by
  refine Bool.eq_false_iff.mpr fun blank => ?_
  simp [isDigit_of_isBlank blank] at digit

theorem exists_ends {digits : List Char} (number : Number digits) :
    (∃ first rest, digits = first :: rest ∧ isDigit first = true) ∧
      ∃ front last, digits = front ++ [last] ∧ isDigit last = true := by
  obtain ⟨nonempty, all⟩ := number
  constructor
  · obtain ⟨first, rest, rfl⟩ := List.exists_cons_of_ne_nil nonempty
    exact ⟨first, rest, rfl, all first List.mem_cons_self⟩
  · refine ⟨digits.dropLast, digits.getLast nonempty, ?_, all _ (List.getLast_mem nonempty)⟩
    exact (List.dropLast_append_getLast nonempty).symm

theorem Spells.number {text digits : List Char} (spelled : Spells text digits) :
    Number digits := by
  cases spelled with
  | bare _ number => exact number
  | lettered _ _ number => exact number

theorem Spells.afterItemLetter_trim {text digits : List Char} (spelled : Spells text digits) :
    afterItemLetter (trim text) = digits := by
  cases spelled with
  | bare blankBefore number blankAfter =>
    obtain ⟨⟨first, rest, rfl, digit⟩, front, last, core, lastDigit⟩ := exists_ends number
    rw [trim_of_ends blankBefore blankAfter (not_blank_of_isDigit digit)
      (not_blank_of_isDigit lastDigit) core]
    have noLetter : ¬ (first = 'Q' ∨ first = 'q') := by
      rintro (rfl | rfl) <;> exact absurd digit (by decide)
    simp [afterItemLetter, noLetter]
  | @lettered before _ after letter blankBefore isLetter number blankAfter =>
    obtain ⟨-, front, last, rfl, lastDigit⟩ := exists_ends number
    rw [trim_of_ends blankBefore blankAfter isLetter.not_blank (not_blank_of_isDigit lastDigit)
      (List.cons_append (a := letter)).symm]
    rcases isLetter with rfl | rfl <;> rfl

theorem spells_of_isNumber {text : List Char}
    (number : isNumber (afterItemLetter (trim text)) = true) :
    Spells text (afterItemLetter (trim text)) := by
  obtain ⟨before, blankBefore, front⟩ := Row.exists_blanks text
  obtain ⟨after, blankAfter, back⟩ := exists_blanks_behind (trimStart text)
  have parts : text = before ++ trim text ++ after := by
    rw [List.append_assoc, trim, ← back, ← front]
  generalize trim text = core at number parts
  subst parts
  rw [isNumber_iff] at number
  cases core with
  | nil => exact absurd rfl number.nonempty
  | cons first rest =>
    by_cases isLetter : first = 'Q' ∨ first = 'q'
    · have letter : afterItemLetter (first :: rest) = rest := by simp [afterItemLetter, isLetter]
      rw [letter] at number ⊢
      exact .lettered blankBefore isLetter number blankAfter
    · have noLetter : afterItemLetter (first :: rest) = first :: rest := by
        simp [afterItemLetter, isLetter]
      rw [noLetter] at number ⊢
      exact .bare blankBefore number blankAfter

/-- Texts that spell an id, and no others, have a normal form, which is made of its digits. -/
theorem normalizeId?_eq_some_iff {text id : String} :
    normalizeId? text = some id ↔ ∃ digits, Spells text.toList digits ∧ id = itemOf digits := by
  constructor
  · intro normal
    simp only [normalizeId?] at normal
    split at normal
    next number =>
      cases normal
      exact ⟨_, spells_of_isNumber number, rfl⟩
    next => simp at normal
  · rintro ⟨digits, spelled, rfl⟩
    simp only [normalizeId?, spelled.afterItemLetter_trim, isNumber_iff.mpr spelled.number, if_true]
    rfl

theorem normalizeId_eq_ok_iff {text id : String} :
    normalizeId text = .ok id ↔ ∃ digits, Spells text.toList digits ∧ id = itemOf digits := by
  rw [← normalizeId?_eq_some_iff, normalizeId]
  split <;> simp_all

theorem normalizeId_eq_error_iff {text : String} {reason : InvalidId} :
    normalizeId text = .error reason ↔
      (∀ digits, ¬ Spells text.toList digits) ∧ reason = ⟨.item, quoted text⟩ := by
  cases normal : normalizeId? text with
  | none =>
    have unspelled (digits : List Char) (spelled : Spells text.toList digits) : False := by
      rw [normalizeId?_eq_some_iff.mpr ⟨digits, spelled, rfl⟩] at normal
      simp at normal
    simp only [normalizeId, normal, Except.error.injEq, eq_comm (a := reason)]
    exact ⟨fun same => ⟨unspelled, same⟩, And.right⟩
  | some id =>
    obtain ⟨digits, spelled, -⟩ := normalizeId?_eq_some_iff.mp normal
    simp only [normalizeId, normal]
    exact ⟨by simp, fun ⟨unspelled, _⟩ => absurd spelled (unspelled digits)⟩

theorem spells_itemOf {digits : List Char} (number : Number digits) :
    Spells (itemOf digits).toList digits := by
  have lettered : Spells ([] ++ 'Q' :: digits ++ []) digits :=
    .lettered (by simp [Blanks]) (.inl rfl) number (by simp [Blanks])
  rwa [List.nil_append, List.append_nil, ← String.toList_ofList (l := 'Q' :: digits)] at lettered

theorem Spells.exists_head {text digits : List Char} (spelled : Spells text digits) :
    ∃ first, text.head? = some first ∧
      (isBlank first = true ∨ ItemLetter first ∨ isDigit first = true) := by
  cases spelled with
  | @bare before _ _ blankBefore number =>
    cases before with
    | cons c _ => exact ⟨c, rfl, .inl (blankBefore c List.mem_cons_self)⟩
    | nil =>
      obtain ⟨⟨first, rest, rfl, digit⟩, -⟩ := exists_ends number
      exact ⟨first, rfl, .inr (.inr digit)⟩
  | @lettered before _ _ letter blankBefore isLetter =>
    cases before with
    | cons c _ => exact ⟨c, rfl, .inl (blankBefore c List.mem_cons_self)⟩
    | nil => exact ⟨letter, rfl, .inr (.inl isLetter)⟩

theorem head?_of_isPlaceholder {ref : String} (stands : isPlaceholder ref = true) :
    ref.toList.head? = some 'c' := by
  obtain ⟨rest, parts⟩ := List.isPrefixOf_iff_prefix.mp stands
  have stem : placeholderStem.toList = 'c' :: "reate_item_".toList := by decide +kernel
  rw [← parts, stem]
  rfl

theorem Spells.isPlaceholder {text : String} {digits : List Char}
    (spelled : Spells text.toList digits) : Item.isPlaceholder text = false := by
  refine Bool.eq_false_iff.mpr fun stands => ?_
  obtain ⟨first, head, starts⟩ := spelled.exists_head
  cases head.symm.trans (head?_of_isPlaceholder stands)
  exact absurd starts (by unfold ItemLetter; decide)

end Item

end EditBatch

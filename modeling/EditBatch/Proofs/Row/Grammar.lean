import EditBatch.Row.Basic

/-! The texts that spell a row, and the row that each of them spells.

The grammar is told by what stands behind what, and the reader by what it takes off the front of a
text. They agree because nothing that the reader takes could also be taken in part: no blank is a
digit, and neither is a colon or a letter of an id.
-/

set_option autoImplicit false

namespace EditBatch

open EditBatch.Text

/-! ## Blanks and digits -/

theorem Text.isDigit_of_isBlank {c : Char} (blank : isBlank c = true) : isDigit c = false := by
  have apart : ∀ range ∈ blankRanges, ∀ start ∈ digitZeros,
      range.2 < start ∨ start + 10 ≤ range.1 := by decide +kernel
  apply Bool.eq_false_iff.mpr
  intro digit
  obtain ⟨range, isRange, first, last⟩ := (inRanges_iff _ _).mp blank
  obtain ⟨start, isStart, low, high⟩ := (isDigit_iff c).mp digit
  have := apart range isRange start isStart
  omega

namespace Row

def Blanks (text : List Char) : Prop := ∀ c ∈ text, isBlank c = true

/-- One digit at least, and nothing but digits. -/
structure Number (digits : List Char) : Prop where
  nonempty : digits ≠ []
  all : ∀ c ∈ digits, isDigit c = true

/-- Digits in front of a rest that goes on with something else. -/
structure DigitRun (digits rest : List Char) : Prop extends Number digits where
  stops : ∀ c, rest.head? = some c → isDigit c = false

section runs

variable {blanks digits rest : List Char} {c : Char}

theorem trimStart_blanks (blank : Blanks blanks) (rest : List Char) :
    trimStart (blanks ++ rest) = trimStart rest :=
  List.dropWhile_append_of_pos blank

theorem trimStart_of_head (other : isBlank c = false) : trimStart (c :: rest) = c :: rest :=
  List.dropWhile_cons_of_neg (by simp [other])

theorem exists_blanks (text : List Char) :
    ∃ blanks, Blanks blanks ∧ text = blanks ++ trimStart text :=
  ⟨text.takeWhile isBlank, List.all_eq_true.mp List.all_takeWhile,
    List.takeWhile_append_dropWhile.symm⟩

theorem DigitRun.takeWhile (run : DigitRun digits rest) :
    (digits ++ rest).takeWhile isDigit = digits := by
  have stop : rest.takeWhile isDigit = [] := by
    cases rest with
    | nil => rfl
    | cons c more => exact List.takeWhile_cons_of_neg (by simp [run.stops c rfl])
  rw [List.takeWhile_append_of_pos run.all, stop, List.append_nil]

theorem DigitRun.dropWhile (run : DigitRun digits rest) :
    (digits ++ rest).dropWhile isDigit = rest := by
  rw [List.dropWhile_append_of_pos run.all]
  cases rest with
  | nil => rfl
  | cons c more => exact List.dropWhile_cons_of_neg (by simp [run.stops c rfl])

theorem digitRun_takeWhile {text : List Char} (nonempty : text.takeWhile isDigit ≠ []) :
    DigitRun (text.takeWhile isDigit) (text.dropWhile isDigit) := by
  refine ⟨⟨nonempty, List.all_eq_true.mp List.all_takeWhile⟩, fun c first => ?_⟩
  have stops := List.head?_dropWhile_not isDigit text
  rw [first] at stops
  exact stops

end runs

/-! ## The grammar -/

def PropertyLetter (letter : Char) : Prop := letter = 'P' ∨ letter = 'p'

def ItemLetter (letter : Char) : Prop := letter = 'Q' ∨ letter = 'q'

/-- A text that starts with a colon and an item id, with blanks or none in front of either. -/
inductive Valued : (text item rest : List Char) → Prop where
  | intro {before after item rest : List Char} {letter : Char} (blankBefore : Blanks before)
      (blankAfter : Blanks after) (isLetter : ItemLetter letter) (run : DigitRun item rest) :
      Valued (before ++ ':' :: (after ++ letter :: (item ++ rest))) item rest

-- What stands behind the property of a deletion counts as its value or not at all, whereas an
-- addition goes on to the end of the text.
inductive Spells : (text : List Char) → Row → Prop where
  | delete {blanks property rest : List Char} {letter : Char} (blank : Blanks blanks)
      (isLetter : PropertyLetter letter) (run : DigitRun property rest)
      (unvalued : ∀ item behind, ¬ Valued rest item behind) :
      Spells (blanks ++ '-' :: letter :: (property ++ rest)) ⟨.delete, propertyOf property, none⟩
  | deleteValue {blanks property rest item behind : List Char} {letter : Char}
      (blank : Blanks blanks) (isLetter : PropertyLetter letter) (run : DigitRun property rest)
      (valued : Valued rest item behind) :
      Spells (blanks ++ '-' :: letter :: (property ++ rest))
        ⟨.delete, propertyOf property, some (itemOf item)⟩
  | add {blanks property rest item behind : List Char} {letter : Char}
      (blank : Blanks blanks) (isLetter : PropertyLetter letter) (number : Number property)
      (valued : Valued rest item behind) (blankBehind : Blanks behind) :
      Spells (blanks ++ letter :: (property ++ rest))
        ⟨.add, propertyOf property, some (itemOf item)⟩

theorem PropertyLetter.not_blank {letter : Char} (isLetter : PropertyLetter letter) :
    isBlank letter = false := by
  rcases isLetter with rfl | rfl <;> decide

theorem ItemLetter.not_blank {letter : Char} (isLetter : ItemLetter letter) :
    isBlank letter = false := by
  rcases isLetter with rfl | rfl <;> decide

theorem Number.digitRun {digits rest item behind : List Char} (number : Number digits)
    (valued : Valued rest item behind) : DigitRun digits rest := by
  refine ⟨number, fun first isFirst => ?_⟩
  cases valued with
  | @intro before _ _ _ _ blankBefore =>
    cases before with
    | nil =>
      cases isFirst
      decide
    | cons blank more =>
      cases isFirst
      exact isDigit_of_isBlank (blankBefore first List.mem_cons_self)

/-! ## Reading -/

theorem readId?_eq_some_iff {capital small : Char} {text digits rest : List Char} :
    readId? capital small text = some (digits, rest) ↔
      ∃ letter, (letter = capital ∨ letter = small) ∧ DigitRun digits rest ∧
        text = letter :: (digits ++ rest) := by
  cases text with
  | nil => simp [readId?]
  | cons c more =>
    constructor
    · intro found
      simp only [readId?] at found
      split at found
      next spelled =>
        obtain ⟨rfl, rfl⟩ := Prod.mk.inj (Option.some.inj found)
        simp only [Bool.and_eq_true, Bool.or_eq_true, decide_eq_true_eq, Bool.not_eq_true',
          List.isEmpty_eq_false_iff] at spelled
        exact ⟨c, spelled.1, digitRun_takeWhile spelled.2,
          by rw [List.takeWhile_append_dropWhile]⟩
      next => simp at found
    · rintro ⟨letter, isLetter, run, same⟩
      obtain ⟨rfl, rfl⟩ := List.cons.inj same
      simp [readId?, isLetter, run.takeWhile, run.dropWhile, run.nonempty]

theorem readValue?_eq_some_iff {text item rest : List Char} :
    readValue? text = some (item, rest) ↔ Valued text item rest := by
  constructor
  · intro found
    unfold readValue? at found
    split at found
    next more colon =>
      obtain ⟨letter, isLetter, run, ends⟩ := readId?_eq_some_iff.mp found
      obtain ⟨before, blank, text_eq⟩ := exists_blanks text
      obtain ⟨after, blank', more_eq⟩ := exists_blanks more
      rw [text_eq, colon, more_eq, ends]
      exact .intro blank blank' isLetter run
    next => simp at found
  · rintro ⟨blankBefore, blankAfter, isLetter, run⟩
    have colon : isBlank ':' = false := by decide
    simp only [readValue?, trimStart_blanks blankBefore, trimStart_of_head colon,
      trimStart_blanks blankAfter, trimStart_of_head isLetter.not_blank]
    exact readId?_eq_some_iff.mpr ⟨_, isLetter, run, rfl⟩

theorem readDeletion?_eq_some_iff {text : List Char} {row : Row} :
    readDeletion? text = some row ↔
      ∃ letter property rest, PropertyLetter letter ∧ DigitRun property rest ∧
        text = letter :: (property ++ rest) ∧
        row = ⟨.delete, propertyOf property,
          (readValue? rest).map fun (digits, _) => itemOf digits⟩ := by
  simp only [readDeletion?, Option.map_eq_some_iff, Prod.exists, readId?_eq_some_iff]
  constructor
  · rintro ⟨property, rest, ⟨letter, isLetter, run, rfl⟩, rfl⟩
    exact ⟨letter, property, rest, isLetter, run, rfl, rfl⟩
  · rintro ⟨letter, property, rest, isLetter, run, rfl, rfl⟩
    exact ⟨property, rest, ⟨letter, isLetter, run, rfl⟩, rfl⟩

theorem readAddition?_eq_some_iff {text : List Char} {row : Row} :
    readAddition? text = some row ↔
      ∃ letter property rest item behind, PropertyLetter letter ∧ DigitRun property rest ∧
        Valued rest item behind ∧ Blanks behind ∧ text = letter :: (property ++ rest) ∧
        row = ⟨.add, propertyOf property, some (itemOf item)⟩ := by
  constructor
  · intro found
    unfold readAddition? at found
    split at found
    next property rest named =>
      split at found
      next item behind valued =>
        split at found
        next blank =>
          cases found
          obtain ⟨letter, isLetter, run, rfl⟩ := readId?_eq_some_iff.mp named
          exact ⟨letter, property, rest, item, behind, isLetter, run,
            readValue?_eq_some_iff.mp valued, List.all_eq_true.mp blank, rfl, rfl⟩
        next => simp at found
      next => simp at found
    next => simp at found
  · rintro ⟨letter, property, rest, item, behind, isLetter, run, valued, blank, rfl, rfl⟩
    have named := readId?_eq_some_iff.mpr ⟨letter, isLetter, run, rfl⟩
    simp only [readAddition?, named, readValue?_eq_some_iff.mpr valued,
      if_pos (List.all_eq_true.mpr blank)]

theorem readChars?_eq_some_iff {text : List Char} {row : Row} :
    readChars? text = some row ↔ Spells text row := by
  constructor
  · intro found
    obtain ⟨blanks, blank, text_eq⟩ := exists_blanks text
    unfold readChars? at found
    split at found
    next rest minus =>
      obtain ⟨letter, property, rest, isLetter, run, rfl, rfl⟩ :=
        readDeletion?_eq_some_iff.mp found
      rw [text_eq, minus]
      cases valued : readValue? rest with
      | none =>
        refine .delete blank isLetter run fun item behind is => ?_
        simp [readValue?_eq_some_iff.mpr is] at valued
      | some pair => exact .deleteValue blank isLetter run (readValue?_eq_some_iff.mp valued)
    next =>
      obtain ⟨letter, property, rest, item, behind, isLetter, run, valued, blankBehind, same, rfl⟩ :=
        readAddition?_eq_some_iff.mp found
      rw [text_eq, same]
      exact .add blank isLetter run.toNumber valued blankBehind
  · intro spelled
    have minus : isBlank '-' = false := by decide
    cases spelled with
    | @delete blanks property rest letter blank isLetter run unvalued =>
      have none : readValue? rest = none := by
        refine Option.eq_none_iff_forall_not_mem.mpr fun pair is => ?_
        exact unvalued _ _ (readValue?_eq_some_iff.mp is)
      rw [readChars?, trimStart_blanks blank, trimStart_of_head minus]
      exact readDeletion?_eq_some_iff.mpr ⟨_, _, _, isLetter, run, rfl, by rw [none]; rfl⟩
    | @deleteValue blanks property rest item behind letter blank isLetter run valued =>
      rw [readChars?, trimStart_blanks blank, trimStart_of_head minus]
      refine readDeletion?_eq_some_iff.mpr ⟨_, _, _, isLetter, run, rfl, ?_⟩
      rw [readValue?_eq_some_iff.mpr valued]
      rfl
    | @add blanks property rest item behind letter blank isLetter number valued blankBehind =>
      have added := readAddition?_eq_some_iff.mpr ⟨letter, property, rest, item, behind, isLetter,
        number.digitRun valued, valued, blankBehind, rfl, rfl⟩
      rw [readChars?, trimStart_blanks blank, trimStart_of_head isLetter.not_blank]
      rcases isLetter with rfl | rfl <;> exact added

/-- A line reads as a row if and only if it spells this row. A line that spells none is given back
unchanged, with its number. -/
theorem read_as_spelled (text : String) (line : Int) :
    (∀ row, read text line = .ok row ↔ Spells text.toList row) ∧
      ∀ e, read text line = .error e ↔
        (∀ row, ¬ Spells text.toList row) ∧ e = ⟨text, line⟩ := by
  simp only [← readChars?_eq_some_iff]
  cases found : readChars? text.toList with
  | none =>
    have none : read text line = .error ⟨text, line⟩ := by rw [read, read?, found]
    rw [none]
    exact ⟨by simp, fun e => by simp [eq_comm]⟩
  | some row =>
    have some : read text line = .ok row := by rw [read, read?, found]
    rw [some]
    exact ⟨by simp, fun e => by simp⟩

-- A value that is cut short does not count.
example : read? "-p31 : q" = some ⟨.delete, "P31", none⟩ := by decide +kernel

end Row

end EditBatch

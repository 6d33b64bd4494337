/-! The parts of a text between separators. -/

set_option autoImplicit false

namespace EditBatch.Text

/-- There is one part more than there are separators. -/
def splitAt (separator : Char) : List Char → List (List Char)
  | [] => [[]]
  | c :: rest =>
    if c = separator then [] :: splitAt separator rest
    else
      match splitAt separator rest with
      | [] => [[c]]
      | part :: parts => (c :: part) :: parts

theorem length_splitAt (separator : Char) (text : List Char) :
    (splitAt separator text).length = text.count separator + 1 := by
  induction text with
  | nil => rfl
  | cons c rest ih =>
    simp only [splitAt]
    split
    · next same => simp [same, ih]
    · next other =>
      split
      · next none => simp [none] at ih
      · next part parts some =>
        rw [List.count_cons_of_ne (fun same => other same), ← ih, some]
        rfl

theorem splitAt_ne_nil (separator : Char) (text : List Char) : splitAt separator text ≠ [] := by
  intro empty
  simpa [empty] using length_splitAt separator text

theorem intercalate_splitAt (separator : Char) (text : List Char) :
    [separator].intercalate (splitAt separator text) = text := by
  induction text with
  | nil => rfl
  | cons c rest ih =>
    simp only [splitAt]
    split
    · next same =>
      cases parts : splitAt separator rest with
      | nil => exact absurd parts (splitAt_ne_nil separator rest)
      | cons part more =>
        rw [parts] at ih
        simp [List.intercalate_cons_cons, ih, same]
    · cases parts : splitAt separator rest with
      | nil => exact absurd parts (splitAt_ne_nil separator rest)
      | cons part more =>
        rw [parts] at ih
        cases more with
        | nil => simpa using ih
        | cons next more =>
          simp only [List.intercalate_cons_cons, List.cons_append] at ih ⊢
          rw [ih]

example : splitAt '/' "a//b".toList = [['a'], [], ['b']] := by decide +kernel

end EditBatch.Text

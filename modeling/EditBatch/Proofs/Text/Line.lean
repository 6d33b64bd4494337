import EditBatch.Text.Line

/-! Lines of texts that are put together.

A line feed ends a line in whatever text it stands, and what stands behind it has no effect on the
lines before. Only what stands in front of it matters: a carriage return takes it up, so that the
two end one line.
-/

set_option autoImplicit false

namespace EditBatch.Text

theorem consToLines_ne_nil (c : Char) (lines : List (List Char)) : consToLines c lines ≠ [] := by
  cases lines <;> simp [consToLines]

theorem consToLines_append (c : Char) {lines : List (List Char)} (nonempty : lines ≠ [])
    (more : List (List Char)) : consToLines c (lines ++ more) = consToLines c lines ++ more := by
  cases lines with
  | nil => exact absurd rfl nonempty
  | cons line rest => rfl

theorem splitLines_ne_nil {text : List Char} (nonempty : text ≠ []) : splitLines text ≠ [] := by
  fun_cases splitLines text with
  | case1 => exact absurd rfl nonempty
  | case2 rest => simp
  | case3 c rest apart => simp
  | case4 c rest apart => exact consToLines_ne_nil c _

/-! ## Line feeds -/

theorem splitLines_feed (rest : List Char) :
    splitLines ('\n' :: rest) = [] :: splitLines rest := by
  rw [splitLines.eq_3 _ _ (by simp), if_pos (by decide +kernel)]

theorem ne_return {c : Char} (unbroken : ¬ isLineBreak c = true) : c ≠ '\r' := by
  rintro rfl
  exact unbroken (by decide +kernel)

theorem splitLines_cons_feed {c : Char} {rest : List Char} (behind : List Char)
    (apart : ∀ others, c = '\r' → rest = '\n' :: others → False)
    (other : c = '\r' → rest ≠ []) :
    splitLines (c :: rest ++ '\n' :: behind) =
      if isLineBreak c then [] :: splitLines (rest ++ '\n' :: behind)
      else consToLines c (splitLines (rest ++ '\n' :: behind)) := by
  refine splitLines.eq_3 _ _ fun others isReturn follows => ?_
  cases rest with
  | nil => exact other isReturn rfl
  | cons next rest =>
    cases follows
    exact apart rest isReturn rfl

/-- The lines of a text that a line feed ends are followed by those of what stands behind. -/
theorem splitLines_append_feed (text behind : List Char) :
    splitLines (text ++ '\n' :: behind) = splitLines (text ++ ['\n']) ++ splitLines behind := by
  -- What is taken off the text at a time is what ends a line, or a character that ends none.
  induction text using splitLines.induct with
  | case1 => simp [splitLines_feed, splitLines]
  | case2 rest ih => simp [splitLines, ih]
  | case3 c rest apart breaks ih =>
    by_cases taken : c = '\r' ∧ rest = []
    · -- The last character of the text and the line feed end one line.
      obtain ⟨rfl, rfl⟩ := taken
      rfl
    · have other (isReturn : c = '\r') (empty : rest = []) := taken ⟨isReturn, empty⟩
      rw [splitLines_cons_feed behind apart other, splitLines_cons_feed [] apart other]
      simp [breaks, ih]
  | case4 c rest apart breaks ih =>
    have other (isReturn : c = '\r') : rest ≠ [] := absurd isReturn (ne_return breaks)
    rw [splitLines_cons_feed behind apart other, splitLines_cons_feed [] apart other,
      if_neg breaks, if_neg breaks, ih, consToLines_append c (splitLines_ne_nil (by simp))]

theorem splitLines_append_singleton_feed (text : List Char) :
    splitLines (text ++ ['\n']) = splitLines text ∨
      splitLines (text ++ ['\n']) = splitLines text ++ [[]] := by
  induction text using splitLines.induct with
  | case1 => exact .inr (splitLines_feed [])
  | case2 rest ih => simpa [splitLines] using ih
  | case3 c rest apart breaks ih =>
    by_cases taken : c = '\r' ∧ rest = []
    · obtain ⟨rfl, rfl⟩ := taken
      exact .inl (by decide +kernel)
    · have other (isReturn : c = '\r') (empty : rest = []) := taken ⟨isReturn, empty⟩
      rw [splitLines_cons_feed [] apart other, splitLines.eq_3 c rest apart]
      simpa [breaks] using ih
  | case4 c rest apart breaks ih =>
    have other (isReturn : c = '\r') : rest ≠ [] := absurd isReturn (ne_return breaks)
    rw [splitLines_cons_feed [] apart other, splitLines.eq_3 c rest apart, if_neg breaks,
      if_neg breaks]
    cases rest with
    | nil => exact .inl (by simp [splitLines_feed, splitLines, consToLines])
    | cons next rest =>
      refine ih.imp (congrArg _) fun same => ?_
      rw [same, consToLines_append c (splitLines_ne_nil (by simp))]

/-! ## Texts without a break -/

theorem unbroken_of_mem_splitLines {text : List Char} :
    ∀ line ∈ splitLines text, ∀ c ∈ line, isLineBreak c = false := by
  induction text using splitLines.induct with
  | case1 => simp [splitLines]
  | case2 rest ih => simpa [splitLines] using ih
  | case3 head rest apart breaks ih =>
    rw [splitLines.eq_3 head rest apart, if_pos breaks]
    simpa using ih
  | case4 head rest apart breaks ih =>
    rw [splitLines.eq_3 head rest apart, if_neg breaks]
    cases split : splitLines rest with
    | nil => simpa [consToLines] using breaks
    | cons first others =>
      rw [split, List.forall_mem_cons] at ih
      rw [consToLines, List.forall_mem_cons, List.forall_mem_cons]
      exact ⟨⟨by simpa using breaks, ih.1⟩, ih.2⟩

theorem splitLines_of_unbroken {text : List Char} (nonempty : text ≠ [])
    (unbroken : ∀ c ∈ text, isLineBreak c = false) : splitLines text = [text] := by
  induction text with
  | nil => exact absurd rfl nonempty
  | cons c rest ih =>
    obtain ⟨here, later⟩ := List.forall_mem_cons.mp unbroken
    have goesOn : ¬ isLineBreak c = true := by simp [here]
    rw [splitLines.eq_3 c rest fun _ isReturn _ => ne_return goesOn isReturn, if_neg goesOn]
    cases rest with
    | nil => rfl
    | cons next rest => rw [ih (by simp) later, consToLines]

end EditBatch.Text

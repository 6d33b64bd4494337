import EditBatch.Json.Encoding

/-! Documents whose arrays lie too deep one inside another.

Reading such a document fails in a way of its own, which is not that of a text that is no document.
-/

set_option autoImplicit false

namespace EditBatch.Json

theorem skipSpace_bracket (rest : List Char) : skipSpace ('[' :: rest) = '[' :: rest := by
  simp [skipSpace, isSpace]

theorem readValue_brackets (nesting depth : Nat) (rest : List Char) (deep : 2 * nesting < depth) :
    readValue nesting depth (List.replicate (nesting + 1) '[' ++ rest) =
      .error (.tooDeep "array") := by
  induction nesting generalizing depth with
  | zero =>
    obtain ⟨depth, rfl⟩ := Nat.exists_eq_add_of_lt deep
    simp [readValue]
  | succ nesting ih =>
    obtain ⟨depth, rfl⟩ : ∃ less, depth = less + 2 := ⟨depth - 2, by omega⟩
    have inner := ih depth (by omega)
    simp only [List.replicate_succ, List.cons_append] at inner ⊢
    generalize List.replicate nesting '[' ++ rest = tail at inner ⊢
    have items : readItems nesting (depth + 1) ('[' :: tail) = .error (.tooDeep "array") := by
      rw [readItems, inner]
      rfl
    unfold readValue
    simp [skipSpace_bracket, items, Except.map]

theorem decoded?_brackets (rest : List Char) :
    decoded? (String.ofList ('[' :: '[' :: '[' :: '[' :: rest)) =
      some (String.ofList ('[' :: '[' :: '[' :: '[' :: rest)) := by
  have bracket : "[".toByteArray.data.toList = [0x5B] := by decide +kernel
  have bytes : (String.ofList ('[' :: '[' :: '[' :: '[' :: rest)).toUTF8.data.toList =
      0x5B :: 0x5B :: 0x5B :: 0x5B :: (String.ofList rest).toUTF8.data.toList := by
    simp [bracket]
  simp only [decoded?, bytes, List.map_cons]
  rfl

theorem read_bracket {rest : List Char} {failure : ReadFailure}
    (fails : readValue nestingLimit (2 * (rest.length + 1) + 2) ('[' :: rest) = .error failure) :
    read (String.ofList ('[' :: rest)) = .error failure := by
  unfold read
  simp [skipSpace_bracket, fails, bind, Except.bind]

/-- A text of nothing but opening brackets is refused for its depth if there are enough of them. -/
theorem readDocument_brackets {count : Nat} (deep : nestingLimit < count) :
    readDocument (String.ofList (List.replicate count '[')) = .error (.tooDeep "array") := by
  obtain ⟨more, rfl⟩ := Nat.exists_eq_add_of_lt deep
  have text : List.replicate (nestingLimit + more + 1) '[' =
      List.replicate (nestingLimit + 1) '[' ++ List.replicate more '[' := by
    rw [List.replicate_append_replicate, Nat.add_right_comm]
  have begins : List.replicate (nestingLimit + 1) '[' ++ List.replicate more '[' =
      '[' :: '[' :: '[' :: '[' :: (List.replicate 967 '[' ++ List.replicate more '[') := rfl
  rw [text, begins, readDocument, decoded?_brackets]
  refine read_bracket ?_
  rw [← begins]
  refine readValue_brackets _ _ _ ?_
  simp only [List.length_cons, List.length_append, List.length_replicate, nestingLimit]
  omega

end EditBatch.Json

import EditBatch.Proofs.Row.Grammar
import Mathlib.Data.List.DropRight

/-! Text without the blanks around it. -/

set_option autoImplicit false

namespace EditBatch.Text

open Row (Blanks)

variable {c : Char} {text : List Char}

theorem trimEnd_blanks {blanks : List Char} (blank : Blanks blanks) (text : List Char) :
    trimEnd (text ++ blanks) = trimEnd text := by
  rw [trimEnd, List.reverse_append, List.dropWhile_append_of_pos, trimEnd]
  exact fun c member => blank c (List.mem_reverse.mp member)

theorem trimEnd_of_last (other : isBlank c = false) (text : List Char) :
    trimEnd (text ++ [c]) = text ++ [c] :=
  List.rdropWhile_concat_neg isBlank text c (by simp [other])

theorem exists_blanks_behind (text : List Char) :
    ∃ blanks, Blanks blanks ∧ text = trimEnd text ++ blanks := by
  obtain ⟨blanks, blank, parts⟩ := Row.exists_blanks text.reverse
  refine ⟨blanks.reverse, fun c member => blank c (List.mem_reverse.mp member), ?_⟩
  rw [trimEnd, ← trimStart, ← List.reverse_append, ← parts, List.reverse_reverse]

/-- Blanks around a text are taken off, and no more if it neither starts nor ends with one. -/
theorem trim_of_ends {before after : List Char} {first : Char} {rest front : List Char} {last : Char}
    (blankBefore : Blanks before) (blankAfter : Blanks after) (starts : isBlank first = false)
    (ends : isBlank last = false) (core : first :: rest = front ++ [last]) :
    trim (before ++ (first :: rest) ++ after) = first :: rest := by
  rw [trim, List.append_assoc, Row.trimStart_blanks blankBefore, List.cons_append,
    Row.trimStart_of_head starts, ← List.cons_append, trimEnd_blanks blankAfter, core,
    trimEnd_of_last ends]

/-! ## Ends -/

theorem isPrefix_trimEnd (text : List Char) : trimEnd text <+: text :=
  List.rdropWhile_prefix isBlank text

theorem isSuffix_trimStart (text : List Char) : trimStart text <:+ text :=
  List.dropWhile_suffix isBlank

theorem mem_of_mem_trim (member : c ∈ trim text) : c ∈ text :=
  (isSuffix_trimStart text).subset ((isPrefix_trimEnd _).subset member)

theorem not_blank_of_head?_trimStart (first : (trimStart text).head? = some c) :
    isBlank c = false := by
  have stops := List.head?_dropWhile_not isBlank text
  rw [← trimStart, first] at stops
  exact stops

theorem not_blank_of_getLast?_trimEnd (last : (trimEnd text).getLast? = some c) :
    isBlank c = false := by
  rw [trimEnd, List.getLast?_reverse] at last
  exact not_blank_of_head?_trimStart last

theorem not_blank_of_head?_trim (first : (trim text).head? = some c) : isBlank c = false := by
  obtain ⟨blanks, parts⟩ := isPrefix_trimEnd (trimStart text)
  have starts : (trimStart text).head? = some c := by
    rw [← parts, List.head?_append, ← trim, first, Option.some_or]
  exact not_blank_of_head?_trimStart starts

theorem trimEnd_cons (other : ¬ Blanks (c :: text)) : trimEnd (c :: text) = c :: trimEnd text := by
  obtain ⟨blanks, blank, parts⟩ := exists_blanks_behind text
  have whole : trimEnd (c :: text) = trimEnd (c :: trimEnd text) := by
    conv_lhs => rw [parts, ← List.cons_append, trimEnd_blanks blank]
  rw [whole]
  rcases List.eq_nil_or_concat' (trimEnd text) with none | ⟨front, last, core⟩
  · have stays : isBlank c = false := by
      refine Bool.eq_false_iff.mpr fun first => other ?_
      rw [parts, none]
      exact List.forall_mem_cons.mpr ⟨first, blank⟩
    rw [none]
    exact trimEnd_of_last stays []
  · have ends : (trimEnd text).getLast? = some last := by rw [core, List.getLast?_concat]
    rw [core]
    exact trimEnd_of_last (not_blank_of_getLast?_trimEnd ends) (c :: front)

end EditBatch.Text

import EditBatch.CommandLine.Program
import EditBatch.Proofs.Wiki.Replies

/-! What the program shows of a batch, letter by letter.

Control sequences are taken out of what the program prints. What it shows of a batch consists of its
own words, of numbers, and of ids in their normal form, so that nothing is taken out of it.
-/

set_option autoImplicit false

namespace EditBatch

namespace Text

def Unescaped (text : String) : Prop := '\x1b' ∉ text.toList

theorem dropSequences_of_not_mem {text : List Char} (unescaped : '\x1b' ∉ text) :
    dropSequences text = text := by
  fun_induction dropSequences text with
  | case1 | case2 => simp at unescaped
  | case3 c tail _ ih =>
    rw [ih fun member => unescaped (List.mem_cons_of_mem c member)]
  | case4 => rfl

theorem plain_of_unescaped {text : String} (unescaped : Unescaped text) : plain text = text := by
  rw [plain, dropSequences_of_not_mem unescaped, String.ofList_toList]

instance (text : String) : Decidable (Unescaped text) :=
  inferInstanceAs (Decidable ('\x1b' ∉ text.toList))

@[simp] theorem unescaped_append {former latter : String} :
    Unescaped (former ++ latter) ↔ Unescaped former ∧ Unescaped latter := by
  rw [Unescaped, String.toList_append, List.mem_append, not_or, Unescaped, Unescaped]

theorem unescaped_join {texts : List String} (all : ∀ text ∈ texts, Unescaped text) :
    Unescaped (String.join texts) := by
  induction texts with
  | nil => simp [Unescaped]
  | cons text rest ih =>
    rw [String.join_cons, unescaped_append]
    exact ⟨all text List.mem_cons_self,
      ih fun other member => all other (List.mem_cons_of_mem text member)⟩

@[simp] theorem unescaped_toString (number : Nat) : Unescaped (toString number) := by
  intro member
  have digits : '\x1b' ∈ Nat.toDigits 10 number := by
    rwa [Nat.toString_eq_repr, Nat.toList_repr] at member
  have isDigit := Nat.isDigit_of_mem_toDigits (by decide) (by decide) digits
  revert isDigit
  decide

end Text

open Text

theorem Item.IsNormal.unescaped {id : String} (normal : IsNormal id) : Unescaped id := by
  obtain ⟨digits, number, rfl⟩ := normal
  have all : ∀ c ∈ digits, Text.isDigit c = true :=
    List.all_eq_true.mp (Bool.and_eq_true_iff.mp number).2
  rw [Unescaped, String.toList_ofList, List.mem_cons]
  rintro (letter | digit)
  · exact absurd letter (by decide)
  · exact absurd (all _ digit) (by decide +kernel)

namespace CommandLine

theorem unescaped_progressShown (run : Run) (moments : List Nat) :
    Unescaped (progressShown run moments) := by
  refine unescaped_join fun text member => ?_
  obtain ⟨time, -, rfl⟩ := List.mem_map.mp member
  simp only [unescaped_append, unescaped_toString, and_true]
  decide

theorem unescaped_watch {σ : Type} (setup : Setup σ) (interruptAt : Option Nat)
    (machine : Machine σ) : Unescaped (watch setup interruptAt machine).shown := by
  unfold watch
  split
  · exact unescaped_progressShown _ _
  · simp only
    split
    · exact unescaped_progressShown _ _
    · exact unescaped_append.mpr ⟨unescaped_progressShown _ _, by decide⟩

theorem unescaped_summary {report : Report} (ids : ∀ id ∈ report.createdIds, Unescaped id) :
    Unescaped (summary report) := by
  have outcome : Unescaped report.outcome.name := by cases report.outcome <;> decide
  have created : Unescaped (if report.createdIds.isEmpty then "" else
      "Created items:\n" ++ String.join (report.createdIds.map fun id => "  " ++ id ++ "\n")) := by
    split
    · decide
    · refine unescaped_append.mpr ⟨by decide, unescaped_join fun text member => ?_⟩
      obtain ⟨id, isId, rfl⟩ := List.mem_map.mp member
      simp only [unescaped_append, ids id isId, and_true]
      decide
  unfold summary
  refine unescaped_append.mpr ⟨?_, created⟩
  simp only [unescaped_append, unescaped_toString, outcome, and_true]
  decide

end CommandLine

end EditBatch

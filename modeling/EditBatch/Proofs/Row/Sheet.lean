import EditBatch.Proofs.Text.Line
import EditBatch.Row.Sheet
import Mathlib.Data.List.Basic

/-! Sheets of texts that are put together.

Each line stands for itself, whatever its number is. So a sheet of joined texts is made of theirs,
as long as the joint ends a line and its line feed adds none but a blank one.
-/

set_option autoImplicit false

namespace EditBatch.Sheet

open EditBatch.Text

/-! ## Line by line -/

def entriesFrom (number : Nat) (lines : List String) : List (Except MalformedRow Row) :=
  ((lines.zipIdx number).filter fun numbered => !isBlankLine numbered.1).map
    fun numbered => Row.read numbered.1 numbered.2

def entries (text : String) : List (Except MalformedRow Row) := entriesFrom 1 (lines text)

def rejected? : Except MalformedRow Row → Option MalformedRow
  | .ok _ => none
  | .error e => some e

def ofEntries (entries : List (Except MalformedRow Row)) : Sheet :=
  ⟨entries.filterMap Except.toOption, entries.filterMap rejected?⟩

theorem entriesFrom_cons (number : Nat) (line : String) (rest : List String) :
    entriesFrom number (line :: rest) =
      if isBlankLine line then entriesFrom (number + 1) rest
      else Row.read line number :: entriesFrom (number + 1) rest := by
  simp only [entriesFrom, List.zipIdx_cons, List.filter_cons]
  cases isBlankLine line <;> rfl

theorem ofLines_eq_ofEntries (number : Nat) (lines : List String) :
    ofLines number lines = ofEntries (entriesFrom number lines) := by
  induction lines generalizing number with
  | nil => rfl
  | cons line rest ih =>
    rw [ofLines, ih, entriesFrom_cons]
    cases isBlankLine line with
    | true => rfl
    | false => cases Row.read line number <;> rfl

theorem read?_of_mem_rows {lines : List String} {number : Nat} {row : Row}
    (member : row ∈ (ofLines number lines).rows) :
    ∃ line ∈ lines, Row.read? line = some row := by
  rw [ofLines_eq_ofEntries] at member
  obtain ⟨entry, among, isRow⟩ := List.mem_filterMap.mp member
  obtain ⟨⟨line, position⟩, numbered, rfl⟩ := List.mem_map.mp among
  refine ⟨line, List.fst_mem_of_mem_zipIdx (List.mem_filter.mp numbered).1, ?_⟩
  unfold Row.read at isRow
  split at isRow
  next found =>
    cases isRow
    exact found
  next => simp [Except.toOption] at isRow

/-! ## Sheets one below the other -/

def append (former latter : Sheet) : Sheet :=
  ⟨former.rows ++ latter.rows, former.malformed ++ latter.malformed⟩

def after (count : Nat) (sheet : Sheet) : Sheet :=
  { sheet with malformed := sheet.malformed.map fun e => { e with line := e.line + count } }

-- The lines of a text have other numbers than those of its parts, so that without the numbers more
-- can be compared.
def rejectedTexts (sheet : Sheet) : List String := sheet.malformed.map MalformedRow.text

theorem rejectedTexts_append (former latter : Sheet) :
    (former.append latter).rejectedTexts = former.rejectedTexts ++ latter.rejectedTexts := by
  simp [rejectedTexts, append]

theorem rejectedTexts_after (count : Nat) (sheet : Sheet) :
    (sheet.after count).rejectedTexts = sheet.rejectedTexts := by
  simp [rejectedTexts, after, Function.comp_def]

theorem ofLines_append (number : Nat) (former latter : List String) :
    ofLines number (former ++ latter) =
      (ofLines number former).append (ofLines (number + former.length) latter) := by
  induction former generalizing number with
  | nil => rfl
  | cons line rest ih =>
    have shifted : number + 1 + rest.length = number + (rest.length + 1) := by omega
    simp only [List.cons_append, ofLines, ih, List.length_cons, shifted]
    cases isBlankLine line with
    | true => rfl
    | false => cases Row.read line number <;> rfl

theorem read_line (line : String) (number : Int) (count : Nat) :
    Row.read line (number + count) =
      (Row.read line number).mapError fun e => { e with line := e.line + count } := by
  unfold Row.read
  cases Row.read? line <;> rfl

theorem ofLines_add (number count : Nat) (lines : List String) :
    ofLines (number + count) lines = (ofLines number lines).after count := by
  induction lines generalizing number with
  | nil => rfl
  | cons line rest ih =>
    have later : number + count + 1 = number + 1 + count := by omega
    simp only [ofLines, later, ih, Int.natCast_add, read_line]
    cases isBlankLine line with
    | true => rfl
    | false => cases Row.read line number <;> rfl

/-! ## Joined texts -/

theorem ofLines_lines_feed (number : Nat) (text : String) :
    ofLines number (lines (text ++ "\n")) = ofLines number (lines text) := by
  unfold lines
  rw [String.toList_append]
  rcases splitLines_append_singleton_feed text.toList with same | more
  · exact congrArg (fun lines => ofLines number (lines.map String.ofList)) same
  · have blank (number : Nat) : ofLines number [""] = ⟨[], []⟩ := by
      rw [ofLines, if_pos (by decide +kernel), ofLines]
    rw [show "\n".toList = ['\n'] from rfl, more, List.map_append, ofLines_append]
    simp [append, blank]

theorem read_append_feed (former latter : String) :
    read (former ++ "\n" ++ latter) =
      (read former).append ((read latter).after (lines (former ++ "\n")).length) := by
  have joined : lines (former ++ "\n" ++ latter) = lines (former ++ "\n") ++ lines latter := by
    simp [lines, splitLines_append_feed former.toList latter.toList]
  rw [read, joined, ofLines_append, ofLines_lines_feed, ofLines_add]
  rfl

/-- A sheet of joined texts holds what theirs hold. -/
theorem read_intercalate (texts : List String) :
    (read ("\n".intercalate texts)).rows = texts.flatMap (fun text => (read text).rows) ∧
      (read ("\n".intercalate texts)).rejectedTexts =
        texts.flatMap fun text => (read text).rejectedTexts := by
  induction texts with
  | nil => exact ⟨by decide +kernel, by decide +kernel⟩
  | cons text rest ih =>
    cases rest with
    | nil => simp
    | cons next rest =>
      obtain ⟨rows, texts⟩ := ih
      rw [String.intercalate_cons_cons, read_append_feed, rejectedTexts_append,
        rejectedTexts_after, texts, append, after, rows]
      exact ⟨rfl, rfl⟩

theorem ofLines_eq_flatMap (number : Nat) (lines : List String) :
    (ofLines number lines).rows = lines.flatMap (fun line => (ofLines 1 [line]).rows) ∧
      (ofLines number lines).rejectedTexts =
        lines.flatMap fun line => (ofLines 1 [line]).rejectedTexts := by
  induction lines generalizing number with
  | nil => exact ⟨rfl, rfl⟩
  | cons line rest ih =>
    obtain ⟨rows, texts⟩ := ih (number + 1)
    have first : (ofLines number [line]).rows = (ofLines 1 [line]).rows ∧
        (ofLines number [line]).rejectedTexts = (ofLines 1 [line]).rejectedTexts := by
      rw [← Nat.zero_add number, ofLines_add, ofLines_add 0 1, rejectedTexts_after,
        rejectedTexts_after]
      exact ⟨rfl, rfl⟩
    have split : ofLines number (line :: rest) =
        (ofLines number [line]).append (ofLines (number + 1) rest) :=
      ofLines_append number [line] rest
    rw [split, rejectedTexts_append, append, first.1, first.2, rows, texts]
    exact ⟨rfl, rfl⟩

theorem read_of_mem_lines {text line : String} (member : line ∈ lines text) :
    read line = ofLines 1 [line] := by
  obtain ⟨chars, split, rfl⟩ := List.mem_map.mp member
  unfold read lines
  rw [String.toList_ofList]
  by_cases empty : chars = []
  · subst empty
    decide +kernel
  · rw [splitLines_of_unbroken empty (unbroken_of_mem_splitLines chars split)]
    rfl

theorem read_lines (text : String) :
    (lines text).flatMap (fun line => (read line).rows) = (read text).rows ∧
      (lines text).flatMap (fun line => (read line).rejectedTexts) =
        (read text).rejectedTexts := by
  obtain ⟨rows, texts⟩ := ofLines_eq_flatMap 1 (lines text)
  have alone (line) (member : line ∈ lines text) : read line = ofLines 1 [line] :=
    read_of_mem_lines member
  rw [List.flatMap_congr fun line member => congrArg Sheet.rows (alone line member),
    List.flatMap_congr fun line member => congrArg rejectedTexts (alone line member), ← rows,
    ← texts]
  exact ⟨rfl, rfl⟩

end EditBatch.Sheet

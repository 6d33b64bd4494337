import EditBatch.CommandLine.Preparation
import EditBatch.Proofs.Row.Sheet

/-! Where the rows of a batch come from.

The statements given as options and the lines of the file with rows become one text, which is taken
apart again. A statement may have several lines then, and the file has lost how its lines ended.
-/

set_option autoImplicit false

namespace EditBatch.CommandLine.Options

open EditBatch.Text

variable (surroundings : Surroundings) (options : Options)

def fileText? : Option String :=
  match options.file.map surroundings.files with
  | some (.file content) => some content
  | _ => none

/-- The texts with rows: the statements given as options, then what is in the file. -/
def sources : List String := options.statements ++ (options.fileText? surroundings).toList

def sourceRows : List Row :=
  (options.sources surroundings).flatMap fun source => (Sheet.read source).rows

theorem fileRows_eq_flatMap : options.fileRows surroundings =
    (options.fileText? surroundings).toList.flatMap lines := by
  unfold fileRows fileText?
  cases options.file.map surroundings.files with
  | none => rfl
  | some state => cases state <;> simp

theorem flatMap_sources {α : Type} (held : Sheet → List α)
    (kept : ∀ content, (lines content).flatMap (fun line => held (Sheet.read line)) =
      held (Sheet.read content)) :
    (options.statements ++ options.fileRows surroundings).flatMap
        (fun text => held (Sheet.read text)) =
      (options.sources surroundings).flatMap fun source => held (Sheet.read source) := by
  rw [sources, List.flatMap_append, List.flatMap_append, fileRows_eq_flatMap, List.flatMap_assoc]
  simp only [kept]

theorem rows_rowText : (Sheet.read (options.rowText surroundings)).rows =
    options.sourceRows surroundings :=
  (Sheet.read_intercalate _).1.trans
    (flatMap_sources surroundings options Sheet.rows fun content => (Sheet.read_lines content).1)

theorem rejectedTexts_rowText : (Sheet.read (options.rowText surroundings)).rejectedTexts =
    (options.sources surroundings).flatMap fun source => (Sheet.read source).rejectedTexts :=
  (Sheet.read_intercalate _).2.trans
    (flatMap_sources surroundings options Sheet.rejectedTexts fun content =>
      (Sheet.read_lines content).2)

theorem batch_eq_ok_iff (batch : Batch) : options.batch surroundings = .ok batch ↔
    options.selections ≠ [] ∧
      combine (options.sourceRows surroundings) 0 0 options.selections = .ok batch.commands ∧
      batch.malformed = (Sheet.read (options.rowText surroundings)).malformed := by
  unfold Options.batch Batch.read
  simp only [rows_rowText]
  cases selected : options.selections with
  | nil => simp
  | cons selection rest =>
    obtain ⟨commands, malformed⟩ := batch
    cases made : combine (options.sourceRows surroundings) 0 0 (selection :: rest) with
    | error reason => simp [bind, Except.bind]
    | ok others => simp [bind, Except.bind, pure, Except.pure, eq_comm]

/-- No row is lost, doubled or moved, neither in a text nor where texts are put together. -/
theorem rows_kept_in_order (text former latter : String) (surroundings : Surroundings)
    (options : Options) :
    Sheet.read text = Sheet.ofEntries (Sheet.entries text) ∧
    Sheet.read (former ++ "\n" ++ latter) =
      (Sheet.read former).append ((Sheet.read latter).after (lines (former ++ "\n")).length) ∧
    (Sheet.read (options.rowText surroundings)).rows = options.sourceRows surroundings ∧
    (Sheet.read (options.rowText surroundings)).rejectedTexts =
      (options.sources surroundings).flatMap (fun source => (Sheet.read source).rejectedTexts) ∧
    ∀ batch, options.batch surroundings = .ok batch ↔
      options.selections ≠ [] ∧
        combine (options.sourceRows surroundings) 0 0 options.selections = .ok batch.commands ∧
        batch.malformed = (Sheet.read (options.rowText surroundings)).malformed :=
  ⟨Sheet.ofLines_eq_ofEntries 1 (lines text), Sheet.read_append_feed former latter,
    rows_rowText surroundings options, rejectedTexts_rowText surroundings options,
    batch_eq_ok_iff surroundings options⟩

end EditBatch.CommandLine.Options

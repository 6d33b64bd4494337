import EditBatch.Command.QuickStatements
import EditBatch.Proofs.Wiki.Qualifiers
import Mathlib.Data.List.Basic

/-! Reading an export.

An export is split into rows at double bars and these into cells at single ones. `LAST` denotes
the item of the latest `CREATE` above, and a minus in front of an item means removal. What commands
write can be read back row by row, whatever stands in front of it or behind it.
-/

set_option autoImplicit false

namespace EditBatch.QuickStatements

/-! ## Rows and cells -/

def splitRows : List Char → List (List Char)
  | [] => [[]]
  | '|' :: '|' :: rest => [] :: splitRows rest
  | c :: rest =>
    match splitRows rest with
    | [] => [[c]]
    | row :: rows => (c :: row) :: rows

theorem splitRows_cons {c : Char} {text row : List Char} {rows : List (List Char)}
    (apart : c = '|' → text.head? ≠ some '|') (split : splitRows text = row :: rows) :
    splitRows (c :: text) = (c :: row) :: rows := by
  rw [splitRows.eq_def]
  split
  next none => simp at none
  next rest bars =>
    obtain ⟨rfl, rfl⟩ := List.cons.inj bars
    simp at apart
  next same =>
    obtain ⟨rfl, rfl⟩ := List.cons.inj same
    rw [split]

def isRow : List Char → Bool
  | [] => true
  | c :: rest => (c != '|' || rest.head?.any (· != '|')) && isRow rest

theorem isRow_cons {c : Char} {rest : List Char} (row : isRow (c :: rest) = true) :
    isRow rest = true ∧ (c = '|' → ∃ d more, rest = d :: more ∧ d ≠ '|') := by
  obtain ⟨followed, later⟩ := Bool.and_eq_true_iff.mp row
  refine ⟨later, ?_⟩
  rintro rfl
  cases rest with
  | nil => simp at followed
  | cons d more => exact ⟨d, more, rfl, by simpa using followed⟩

theorem splitRows_of_isRow {row : List Char} (plain : isRow row = true) :
    splitRows row = [row] := by
  induction row with
  | nil => rfl
  | cons c rest ih =>
    obtain ⟨later, followed⟩ := isRow_cons plain
    refine splitRows_cons (fun bar => ?_) (ih later)
    obtain ⟨d, more, rfl, other⟩ := followed bar
    simpa using other

theorem splitRows_append {row : List Char} (plain : isRow row = true) (text : List Char) :
    splitRows (row ++ '|' :: '|' :: text) = row :: splitRows text := by
  induction row with
  | nil => rfl
  | cons c rest ih =>
    obtain ⟨later, followed⟩ := isRow_cons plain
    refine splitRows_cons (fun bar => ?_) (ih later)
    obtain ⟨d, more, rfl, other⟩ := followed bar
    simpa using other

theorem splitRows_intercalate {rows : List (List Char)}
    (plain : ∀ row ∈ rows, isRow row = true) (nonempty : rows ≠ []) :
    splitRows (rowSeparator.toList.intercalate rows) = rows := by
  induction rows with
  | nil => exact absurd rfl nonempty
  | cons row rest ih =>
    obtain ⟨first, later⟩ := List.forall_mem_cons.mp plain
    cases rest with
    | nil => rw [List.intercalate_singleton, splitRows_of_isRow first]
    | cons next rest =>
      rw [List.intercalate_cons_cons, List.append_assoc]
      exact (splitRows_append first _).trans (congrArg _ (ih later (by simp)))

structure IsCell (cell : List Char) : Prop where
  ne_nil : cell ≠ []
  plain : '|' ∉ cell

theorem isRow_of_plain {cell : List Char} (plain : '|' ∉ cell) : isRow cell = true := by
  induction cell with
  | nil => rfl
  | cons c rest ih =>
    obtain ⟨other, later⟩ := List.ne_and_not_mem_of_not_mem_cons plain
    simp [isRow, Ne.symm other, ih later]

theorem isRow_append {cell rest : List Char} (plain : '|' ∉ cell) (row : isRow rest = true)
    (starts : rest.head?.any (· != '|') = true) : isRow (cell ++ '|' :: rest) = true := by
  induction cell with
  | nil => simp [isRow, starts, row]
  | cons c cell ih =>
    obtain ⟨other, later⟩ := List.ne_and_not_mem_of_not_mem_cons plain
    simp [isRow, Ne.symm other, ih later]

theorem isRow_intercalate {cells : List (List Char)} (plain : ∀ cell ∈ cells, IsCell cell)
    (nonempty : cells ≠ []) :
    isRow (['|'].intercalate cells) = true ∧
      (['|'].intercalate cells).head?.any (· != '|') = true := by
  induction cells with
  | nil => exact absurd rfl nonempty
  | cons cell rest ih =>
    obtain ⟨first, later⟩ := List.forall_mem_cons.mp plain
    obtain ⟨c, more, rfl⟩ := List.exists_cons_of_ne_nil first.ne_nil
    have other := (List.ne_and_not_mem_of_not_mem_cons first.plain).1
    cases rest with
    | nil =>
      rw [List.intercalate_singleton]
      exact ⟨isRow_of_plain first.plain, by simpa using Ne.symm other⟩
    | cons next rest =>
      obtain ⟨row, starts⟩ := ih later (by simp)
      rw [List.intercalate_cons_cons, List.append_assoc]
      exact ⟨isRow_append first.plain row starts, by simpa using Ne.symm other⟩

/-! ## Instructions -/

/-- What a row asks for. An item that is missing is the one created last. -/
inductive Instruction where
  | create
  | link (site page : String)
  | label (language text : String)
  | edit (removes : Bool) (item : Option String) (prop : String) (value : Option String)
  deriving DecidableEq, Repr

def unquoted? : List Char → Option String
  | '\x22' :: rest =>
    if rest.getLast? = some '\x22' then some (String.ofList rest.dropLast) else none
  | _ => none

def latest : List Char := "LAST".toList

def itemOf (cell : List Char) : Option String :=
  if cell = latest then none else some (String.ofList cell)

def editOf? (item prop : List Char) (value : Option String) : Option Instruction :=
  match item with
  | '-' :: item => some (.edit true (itemOf item) (String.ofList prop) value)
  | item => some (.edit false (itemOf item) (String.ofList prop) value)

/-- The second cell tells by its first letter what a row is about. -/
def ofCells? : List (List Char) → Option Instruction
  | [word] => if word = "CREATE".toList then some .create else none
  | [item, 'P' :: digits] => editOf? item ('P' :: digits) none
  | [item, 'P' :: digits, value] => editOf? item ('P' :: digits) (some (String.ofList value))
  | [item, 'S' :: site, page] =>
    if item = latest then (unquoted? page).map (.link (String.ofList site)) else none
  | [item, 'L' :: language, text] =>
    if item = latest then (unquoted? text).map (.label (String.ofList language)) else none
  | _ => none

/-- The instructions of an export, if all of its rows can be read. An empty row asks for nothing. -/
def instructions? (text : String) : Option (List Instruction) :=
  ((splitRows text.toList).filter (!·.isEmpty)).mapM fun row => ofCells? (row.splitOn '|')

def Instruction.cells : Instruction → List (List Char)
  | .create => ["CREATE".toList]
  | .link site page => [latest, 'S' :: site.toList, (inQuotes page).toList]
  | .label language text => [latest, 'L' :: language.toList, (inQuotes text).toList]
  | .edit removes item prop value =>
    ((if removes then "-" else "") ++ item.getD "LAST").toList :: prop.toList ::
      (value.map String.toList).toList

def Instruction.write (instruction : Instruction) : List Char :=
  ['|'].intercalate instruction.cells

def IsId (letter : Char) (id : String) : Prop :=
  ∃ digits, id.toList = letter :: digits ∧ '|' ∉ letter :: digits

theorem IsId.isCell {letter : Char} {id : String} (isId : IsId letter id) : IsCell id.toList := by
  obtain ⟨digits, text, plain⟩ := isId
  rw [text]
  exact ⟨by simp, plain⟩

def Instruction.Legible : Instruction → Prop
  | .create => True
  | .link site page => '|' ∉ site.toList ∧ '|' ∉ page.toList
  | .label language text => '|' ∉ language.toList ∧ '|' ∉ text.toList
  | .edit _ item prop value =>
    (∀ id, item = some id → IsId 'Q' id) ∧ IsId 'P' prop ∧ ∀ id, value = some id → IsId 'Q' id

theorem isCell_inQuotes {text : String} (plain : '|' ∉ text.toList) :
    IsCell (inQuotes text).toList := by
  constructor
  · simp [inQuotes]
  · simpa [inQuotes] using plain

theorem isCell_cons {letter : Char} {text : String} (other : letter ≠ '|')
    (plain : '|' ∉ text.toList) : IsCell (letter :: text.toList) :=
  ⟨by simp, List.not_mem_cons_of_ne_of_not_mem (Ne.symm other) plain⟩

theorem isCell_latest : IsCell latest := ⟨by decide, by decide⟩

theorem unquoted?_inQuotes (text : String) : unquoted? (inQuotes text).toList = some text := by
  simp [inQuotes, unquoted?]

namespace Instruction

variable {instruction : Instruction}

theorem itemOf_target {item : Option String} (ids : ∀ id, item = some id → IsId 'Q' id) :
    itemOf (item.getD "LAST").toList = item ∧ IsCell (item.getD "LAST").toList ∧
      (item.getD "LAST").toList.head? ≠ some '-' := by
  cases item with
  | none => exact ⟨rfl, isCell_latest, by decide⟩
  | some id =>
    obtain ⟨digits, text, -⟩ := ids id rfl
    have named : id.toList ≠ latest := by
      rw [text]
      intro same
      simp [latest] at same
    refine ⟨?_, (ids id rfl).isCell, ?_⟩
    · rw [Option.getD_some, itemOf, if_neg named, String.ofList_toList]
    · rw [Option.getD_some, text]
      simp

theorem Legible.isCell (legible : instruction.Legible) :
    ∀ cell ∈ instruction.cells, IsCell cell := by
  cases instruction with
  | create =>
    rintro cell (_ | ⟨_, ⟨⟩⟩)
    exact ⟨by decide, by decide⟩
  | link site page =>
    simp only [cells, List.forall_mem_cons]
    exact ⟨isCell_latest, isCell_cons (by decide) legible.1, isCell_inQuotes legible.2, by simp⟩
  | label language text =>
    simp only [cells, List.forall_mem_cons]
    exact ⟨isCell_latest, isCell_cons (by decide) legible.1, isCell_inQuotes legible.2, by simp⟩
  | edit removes item prop value =>
    obtain ⟨items, isProp, values⟩ := legible
    obtain ⟨-, target, -⟩ := itemOf_target items
    simp only [cells, List.forall_mem_cons]
    refine ⟨?_, isProp.isCell, ?_⟩
    · cases removes with
      | false => simpa using target
      | true =>
        rw [if_pos rfl, String.toList_append]
        exact isCell_cons (by decide) target.plain
    · cases value with
      | none => simp
      | some id => simpa using (values id rfl).isCell

theorem Legible.ofCells? (legible : instruction.Legible) :
    QuickStatements.ofCells? instruction.cells = some instruction := by
  cases instruction with
  | create => rfl
  | link site page =>
    simp only [cells, QuickStatements.ofCells?, if_true, unquoted?_inQuotes, Option.map_some,
      String.ofList_toList]
  | label language text =>
    simp only [cells, QuickStatements.ofCells?, if_true, unquoted?_inQuotes, Option.map_some,
      String.ofList_toList]
  | edit removes item prop value =>
    obtain ⟨items, ⟨digits, text, -⟩, -⟩ := legible
    obtain ⟨named, -, unsigned⟩ := itemOf_target items
    have reads (value : Option String) : editOf?
        ((if removes then "-" else "") ++ item.getD "LAST").toList ('P' :: digits) value =
          some (.edit removes item prop value) := by
      cases removes with
      | true => simp [editOf?, named, ← text]
      | false =>
        rw [if_neg (by decide), String.empty_append]
        unfold editOf?
        split
        next rest signed => simp [signed] at unsigned
        next => rw [named, ← text, String.ofList_toList]
    cases value with
    | none =>
      simp only [cells, text]
      exact reads none
    | some id =>
      simp only [cells, text]
      rw [← reads (some id)]
      simp [QuickStatements.ofCells?]

theorem Legible.isRow (legible : instruction.Legible) :
    isRow instruction.write = true ∧ instruction.write ≠ [] := by
  obtain ⟨row, starts⟩ :=
    isRow_intercalate legible.isCell (by cases instruction <;> simp [cells])
  refine ⟨row, ?_⟩
  intro empty
  rw [write] at empty
  simp [empty] at starts

theorem Legible.read (legible : instruction.Legible) :
    QuickStatements.ofCells? (instruction.write.splitOn '|') = some instruction := by
  rw [write, List.splitOn_intercalate '|' (fun cell member => (legible.isCell cell member).plain)
    (by cases instruction <;> simp [cells])]
  exact legible.ofCells?

end Instruction

theorem instructions?_of_written {text : String} {instructions : List Instruction}
    (written : text.toList =
      rowSeparator.toList.intercalate (instructions.map Instruction.write))
    (legible : ∀ instruction ∈ instructions, instruction.Legible) :
    instructions? text = some instructions := by
  have rows : (splitRows text.toList).filter (!·.isEmpty) =
      instructions.map Instruction.write := by
    rw [written]
    cases instructions with
    | nil => rfl
    | cons first rest =>
      rw [splitRows_intercalate ?_ (by simp), List.filter_eq_self]
      · intro row member
        obtain ⟨instruction, among, rfl⟩ := List.mem_map.mp member
        simpa using (legible instruction among).isRow.2
      · intro row member
        obtain ⟨instruction, among, rfl⟩ := List.mem_map.mp member
        exact (legible instruction among).isRow.1
  rw [instructions?, rows]
  clear rows written
  induction instructions with
  | nil => rfl
  | cons first rest ih =>
    obtain ⟨one, others⟩ := List.forall_mem_cons.mp legible
    rw [List.map_cons, List.mapM_cons, one.read, ih others]
    rfl

/-! ## Commands -/

def instructionsOf (wiki : String) (command : Command) : List Instruction :=
  if command.mode = .create then
    .create :: .link wiki command.page ::
      ((Wiki.wikipediaLanguage? wiki).map fun language =>
        .label language (Wiki.stripDisambiguation command.page)).toList
  else
    [.edit (command.mode = .delete)
      (if Item.isPlaceholder command.entityRef then none else some command.entityRef)
      command.prop command.value]

theorem instructionsOf_ne_nil (wiki : String) (command : Command) :
    instructionsOf wiki command ≠ [] := by
  unfold instructionsOf
  split <;> simp

theorem toList_ofCommand (wiki : String) (command : Command) :
    (ofCommand wiki command).toList =
      rowSeparator.toList.intercalate ((instructionsOf wiki command).map Instruction.write) := by
  unfold ofCommand instructionsOf
  split
  · unfold ofCreation
    cases Wiki.wikipediaLanguage? wiki with
    | none => simp [Instruction.write, Instruction.cells, rowSeparator, latest]
    | some language => simp [Instruction.write, Instruction.cells, rowSeparator, latest]
  · unfold ofStatement
    have target : (if Item.isPlaceholder command.entityRef then none
        else some command.entityRef).getD "LAST" =
        if Item.isPlaceholder command.entityRef then "LAST" else command.entityRef := by
      split <;> rfl
    cases command.value <;> simp [Instruction.write, Instruction.cells, target]

theorem intercalate_append {separator : List Char} {rows more : List (List Char)}
    (nonempty : rows ≠ []) (follows : more ≠ []) :
    separator.intercalate (rows ++ more) =
      separator.intercalate rows ++ separator ++ separator.intercalate more := by
  induction rows with
  | nil => exact absurd rfl nonempty
  | cons row rest ih =>
    cases rest with
    | nil =>
      obtain ⟨next, more, rfl⟩ := List.exists_cons_of_ne_nil follows
      rw [List.singleton_append, List.intercalate_cons_cons, List.intercalate_singleton]
    | cons next rest =>
      have later := ih (by simp)
      simp only [List.cons_append] at later ⊢
      rw [List.intercalate_cons_cons, later, List.intercalate_cons_cons]
      simp only [List.append_assoc]

theorem toList_ofCommands (wiki : String) (commands : List Command) :
    (ofCommands wiki commands).toList = rowSeparator.toList.intercalate
      ((commands.flatMap (instructionsOf wiki)).map Instruction.write) := by
  rw [ofCommands, String.toList_intercalate, List.map_map]
  induction commands with
  | nil => rfl
  | cons command rest ih =>
    rw [List.flatMap_cons, List.map_append, List.map_cons, Function.comp_apply, toList_ofCommand]
    cases rest with
    | nil => simp
    | cons next rest =>
      rw [List.map_cons] at ih ⊢
      rw [intercalate_append (by simp [instructionsOf_ne_nil])
        (by simp [instructionsOf_ne_nil]), List.intercalate_cons_cons, ih]

theorem plain_wikipediaLanguage? {wiki language : String}
    (found : Wiki.wikipediaLanguage? wiki = some language) : '|' ∉ language.toList := by
  unfold Wiki.wikipediaLanguage? at found
  simp only at found
  split at found
  next letters _ =>
    split at found
    next shaped =>
      cases found
      intro member
      rw [String.toList_ofList, List.mem_reverse] at member
      obtain ⟨-, all⟩ := Bool.and_eq_true_iff.mp shaped
      have letter := List.all_eq_true.mp all _ member
      revert letter
      decide
    next => simp at found
  next => simp at found

/-- A command whose ids are ids and whose page has no bar in its title. -/
structure Exportable (command : Command) : Prop where
  page : '|' ∉ command.page.toList
  edits : command.mode ≠ .create → command.mode = .add ∨ command.mode = .delete
  prop : command.mode ≠ .create → IsId 'P' command.prop
  value : ∀ id, command.value = some id → IsId 'Q' id
  ref : Item.isPlaceholder command.entityRef = false → IsId 'Q' command.entityRef

theorem Exportable.legible {wiki : String} {command : Command} (plain : '|' ∉ wiki.toList)
    (exportable : Exportable command) :
    ∀ instruction ∈ instructionsOf wiki command, instruction.Legible := by
  intro instruction member
  unfold instructionsOf at member
  split at member
  next creates =>
    simp only [List.mem_cons, Option.mem_toList, Option.map_eq_some_iff] at member
    rcases member with rfl | rfl | ⟨language, found, rfl⟩
    · trivial
    · exact ⟨plain, exportable.page⟩
    · exact ⟨plain_wikipediaLanguage? found, Wiki.plain_stripDisambiguation exportable.page⟩
  next edits =>
    obtain rfl := List.mem_singleton.mp member
    refine ⟨?_, exportable.prop edits, exportable.value⟩
    intro id item
    split at item
    · simp at item
    next real =>
      cases item
      exact exportable.ref (by simpa using real)

/-- The export of a batch can be read back. -/
theorem instructions?_ofCommands {wiki : String} {commands : List Command}
    (plain : '|' ∉ wiki.toList) (exportable : ∀ command ∈ commands, Exportable command) :
    instructions? (ofCommands wiki commands) = some (commands.flatMap (instructionsOf wiki)) := by
  refine instructions?_of_written (toList_ofCommands wiki commands) ?_
  intro instruction member
  obtain ⟨command, among, stands⟩ := List.mem_flatMap.mp member
  exact (exportable command among).legible plain instruction stands

/-! ## Operations -/

/-- A creation with its page, or a statement that is added to an item or removed from it. -/
inductive Operation where
  | create (item page : String)
  | edit (removes : Bool) (item prop : String) (value : Option String)
  deriving DecidableEq, Repr

/-- What instructions do, given the items that are created, one for each creation. -/
def operations? : (newItems : List String) → (last : Option String) → List Instruction →
    Option (List Operation)
  | [], _, [] => some []
  | item :: newItems, _, .create :: .link _ page :: rest =>
    (operations? newItems (some item) rest).map (.create item page :: ·)
  | newItems, last, .label _ _ :: rest => operations? newItems last rest
  | newItems, last, .edit removes item prop value :: rest =>
    match item <|> last with
    | some item => (operations? newItems last rest).map (.edit removes item prop value :: ·)
    | none => none
  | _, _, _ => none

/-- What an export does, if it can be read, and its new items are given ones. -/
def read? (newItems : List String) (text : String) : Option (List Operation) :=
  (instructions? text).bind (operations? newItems none)

theorem operations?_create {wiki : String} {command : Command} {item : String}
    {newItems : List String} {last : Option String} {rest : List Instruction}
    (creates : command.mode = .create) :
    operations? (item :: newItems) last (instructionsOf wiki command ++ rest) =
      (operations? newItems (some item) rest).map (.create item command.page :: ·) := by
  unfold instructionsOf
  rw [if_pos creates]
  cases Wiki.wikipediaLanguage? wiki <;> simp [operations?]

theorem operations?_edit {wiki : String} {command : Command} {item : String}
    {newItems : List String} {last : Option String} {rest : List Instruction}
    (edits : command.mode ≠ .create)
    (target : (if Item.isPlaceholder command.entityRef then last else some command.entityRef) =
      some item) :
    operations? newItems last (instructionsOf wiki command ++ rest) =
      (operations? newItems last rest).map
        (.edit (command.mode = .delete) item command.prop command.value :: ·) := by
  unfold instructionsOf
  rw [if_neg edits, List.singleton_append]
  split at target
  next stands => simp [operations?, stands, target]
  next real =>
    cases target
    simp [operations?, real]

example : read? ["Q9"]
    "Q1|P31|Q5||CREATE||LAST|Senwiki|\x22Foo\x22||LAST|Len|\x22Foo\x22||-LAST|P31" =
      some [.edit false "Q1" "P31" (some "Q5"), .create "Q9" "Foo",
        .edit true "Q9" "P31" none] := by
  decide +kernel

end EditBatch.QuickStatements

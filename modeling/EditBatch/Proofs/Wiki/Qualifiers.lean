import EditBatch.Proofs.Text.Blank
import EditBatch.Proofs.Text.Pattern
import EditBatch.Wiki.Label

/-! The qualifier that labels leave out of a page title.

A qualifier opens at the first bracket that is closed on its line, and ends with the first bracket
that closes it, but brackets with nothing between them are not closed yet. It is taken out together
with the blanks around it, and all other brackets stay. A search for a pattern finds the same: blanks,
a bracket, a short run on one line, a bracket and blanks.
-/

set_option autoImplicit false

namespace EditBatch.Wiki

open EditBatch.Text
open Row (Blanks)

variable {text before inside after : List Char} {c : Char}

/-! ## Brackets -/

def afterBrackets? : List Char → Option (List Char)
  | '(' :: rest => afterQualifier? rest
  | _ => none

theorem afterQualifier?_close (line : c ≠ '\n') (after : List Char) :
    afterQualifier? (c :: ')' :: after) = some after := by
  simp [afterQualifier?, line]

theorem afterQualifier?_cons {next : Char} (line : c ≠ '\n') (goesOn : next ≠ ')')
    (rest : List Char) : afterQualifier? (c :: next :: rest) = afterQualifier? (next :: rest) := by
  by_cases ends : next = '\n'
  · simp [afterQualifier?, line, ends]
  · simp [afterQualifier?, line, ends, goesOn]

theorem afterQualifier?_append (nonempty : inside ≠ []) (unclosed : ')' ∉ inside)
    (line : '\n' ∉ inside) (after : List Char) :
    afterQualifier? (inside ++ ')' :: after) = some after := by
  induction inside with
  | nil => exact absurd rfl nonempty
  | cons c rest ih =>
    obtain ⟨sameLine, restLine⟩ := List.ne_and_not_mem_of_not_mem_cons line
    have restUnclosed := List.not_mem_of_not_mem_cons unclosed
    cases rest with
    | nil => exact afterQualifier?_close sameLine.symm after
    | cons next rest =>
      have goesOn := List.ne_of_not_mem_cons restUnclosed
      calc afterQualifier? (c :: next :: (rest ++ ')' :: after))
        _ = afterQualifier? (next :: rest ++ ')' :: after) :=
          afterQualifier?_cons sameLine.symm goesOn.symm _
        _ = some after := ih (by simp) restUnclosed restLine

theorem exists_inside (found : afterQualifier? text = some after) :
    ∃ inside, text = inside ++ ')' :: after := by
  induction text with
  | nil => simp [afterQualifier?] at found
  | cons c rest ih =>
    by_cases feed : c = '\n'
    · simp [feed, afterQualifier?] at found
    cases rest with
    | nil => simp [afterQualifier?] at found
    | cons next rest =>
      by_cases closes : next = ')'
      · rw [closes, afterQualifier?_close feed] at found
        cases found
        exact ⟨[c], by rw [closes]; rfl⟩
      · rw [afterQualifier?_cons feed closes] at found
        obtain ⟨inside, parts⟩ := ih found
        exact ⟨c :: inside, congrArg (c :: ·) parts⟩

theorem exists_brackets (found : afterBrackets? text = some after) :
    ∃ inside, text = '(' :: inside ++ ')' :: after := by
  unfold afterBrackets? at found
  split at found
  next rest =>
    obtain ⟨inside, rfl⟩ := exists_inside found
    exact ⟨inside, rfl⟩
  next => simp at found

/-! ## The first qualifier -/

theorem splitQualifier?_here (found : afterBrackets? text = some after) :
    splitQualifier? text = some ([], after) := by
  obtain ⟨inside, rfl⟩ := exists_brackets found
  rw [List.cons_append, afterBrackets?] at found
  rw [List.cons_append, splitQualifier?, if_pos rfl, found]

theorem splitQualifier?_later {rest : List Char} (none : afterBrackets? (c :: rest) = none) :
    splitQualifier? (c :: rest) =
      (splitQualifier? rest).map fun (before, after) => (c :: before, after) := by
  rw [splitQualifier?]
  split
  next after found =>
    split at found
    next bracket => simp [afterBrackets?, bracket, found] at none
    next => simp at found
  next => rfl

theorem afterBrackets?_of_ne (other : c ≠ '(') (rest : List Char) :
    afterBrackets? (c :: rest) = none := by
  simp [afterBrackets?, other]

theorem parts_of_splitQualifier? (found : splitQualifier? text = some (before, after)) :
    ∃ behind, text = before ++ behind ∧ afterBrackets? behind = some after := by
  induction text generalizing before with
  | nil => simp [splitQualifier?] at found
  | cons c rest ih =>
    cases here : afterBrackets? (c :: rest) with
    | some behind =>
      rw [splitQualifier?_here here] at found
      cases found
      exact ⟨c :: rest, rfl, here⟩
    | none =>
      rw [splitQualifier?_later here, Option.map_eq_some_iff] at found
      obtain ⟨⟨front, back⟩, later, same⟩ := found
      cases same
      obtain ⟨behind, parts, opens⟩ := ih later
      exact ⟨behind, congrArg (c :: ·) parts, opens⟩

theorem splitQualifier?_append {behind : List Char} (plain : '(' ∉ before)
    (found : afterBrackets? behind = some after) :
    splitQualifier? (before ++ behind) = some (before, after) := by
  induction before with
  | nil => exact splitQualifier?_here found
  | cons c rest ih =>
    obtain ⟨other, later⟩ := List.ne_and_not_mem_of_not_mem_cons plain
    rw [List.cons_append, splitQualifier?_later (afterBrackets?_of_ne other.symm _), ih later]
    rfl

theorem splitQualifier?_of_plain (plain : '(' ∉ text) : splitQualifier? text = none := by
  cases found : splitQualifier? text with
  | none => rfl
  | some pair =>
    obtain ⟨behind, rfl, opens⟩ := parts_of_splitQualifier? found
    obtain ⟨inside, rfl⟩ := exists_brackets opens
    simp at plain

/-- A text with something in brackets, which are on one line and the first ones. -/
structure Qualified (text before inside after : List Char) : Prop where
  parts : text = before ++ '(' :: inside ++ ')' :: after
  first : '(' ∉ before
  nonempty : inside ≠ []
  unclosed : ')' ∉ inside
  line : '\n' ∉ inside

theorem Qualified.splitQualifier?_eq (qualified : Qualified text before inside after) :
    splitQualifier? text = some (before, after) := by
  obtain ⟨rfl, first, nonempty, unclosed, line⟩ := qualified
  have opens : afterBrackets? ('(' :: inside ++ ')' :: after) = some after :=
    afterQualifier?_append nonempty unclosed line after
  rw [List.append_assoc]
  exact splitQualifier?_append first opens

/-! ## The pattern -/

def closingPattern : List Piece := [.lazy (· != '\n'), .one (· == ')'), .greedy isBlank]

def qualifierPattern : List Piece := .greedy isBlank :: .one (· == '(') :: closingPattern

theorem head?_rests_closingPattern (text : List Char) :
    (rests closingPattern text).head? = (afterQualifier? text).map trimStart := by
  induction text with
  | nil => rfl
  | cons c rest ih =>
    rw [closingPattern, head?_rests_lazy_cons, ← closingPattern]
    by_cases feed : c = '\n'
    · simp [feed, afterQualifier?]
    rw [if_pos (by simpa using feed), ih]
    cases rest with
    | nil => simp [afterQualifier?, rests, Piece.rests]
    | cons next rest =>
      rw [rests_one_cons]
      by_cases closes : next = ')'
      · rw [closes, if_pos (by decide), head?_rests_greedy, afterQualifier?_close feed]
        rfl
      · rw [if_neg (by simpa using closes), afterQualifier?_cons feed closes]
        rfl

theorem head?_rests_qualifierPattern (text : List Char) :
    (rests qualifierPattern text).head? = (afterBrackets? (trimStart text)).map trimStart := by
  -- A blank is no bracket, so that the blanks in front have only one place to end.
  have apart (c : Char) (rest : List Char) (blank : isBlank c = true) :
      rests (.one (· == '(') :: closingPattern) (c :: rest) = [] := by
    rw [rests_one_cons, if_neg]
    intro bracket
    rw [eq_of_beq bracket] at blank
    exact absurd blank (by decide)
  rw [qualifierPattern, rests_greedy_of_apart apart, ← trimStart]
  cases trimStart text with
  | nil => rfl
  | cons c rest =>
    rw [rests_one_cons]
    by_cases bracket : c = '('
    · rw [bracket, if_pos (by decide), head?_rests_closingPattern]
      rfl
    · rw [if_neg (by simpa using bracket), afterBrackets?_of_ne bracket]
      rfl

theorem afterBrackets?_trimStart (found : afterBrackets? text = some after) :
    afterBrackets? (trimStart text) = some after := by
  obtain ⟨inside, rfl⟩ := exists_brackets found
  rwa [List.cons_append, Row.trimStart_of_head (by decide), ← List.cons_append]

/-- The pattern matches at the first qualifier, and takes the blanks on either side of it. -/
theorem firstMatch?_qualifierPattern (text : List Char) :
    firstMatch? qualifierPattern text =
      (splitQualifier? text).map fun (before, after) => (trimEnd before, trimStart after) := by
  induction text with
  | nil => rfl
  | cons c rest ih =>
    have matching := head?_rests_qualifierPattern (c :: rest)
    cases opens : afterBrackets? (trimStart (c :: rest)) with
    | some after =>
      -- Nothing but blanks is in front of the qualifier, so that the match leaves nothing there.
      obtain ⟨blanks, blank, parts⟩ := Row.exists_blanks (c :: rest)
      have plain : '(' ∉ blanks := fun member => absurd (blank _ member) (by decide)
      have none : trimEnd blanks = [] := trimEnd_blanks blank []
      rw [opens, Option.map_some] at matching
      rw [firstMatch?_here matching, parts, splitQualifier?_append plain opens]
      exact congrArg (fun front => some (front, trimStart after)) none.symm
    | none =>
      have here : afterBrackets? (c :: rest) = none := by
        refine Option.eq_none_iff_forall_ne_some.mpr fun after found => ?_
        simp [afterBrackets?_trimStart found] at opens
      rw [opens, Option.map_none] at matching
      rw [firstMatch?_later matching, ih, splitQualifier?_later here, Option.map_map, Option.map_map]
      refine Option.map_congr fun ⟨before, after⟩ later => ?_
      -- If there were only blanks in front of a later qualifier, the match would start here.
      have other : ¬ Blanks (c :: before) := by
        intro blank
        obtain ⟨behind, rfl, found⟩ := parts_of_splitQualifier? later
        rw [← List.cons_append, Row.trimStart_blanks blank, afterBrackets?_trimStart found] at opens
        simp at opens
      exact congrArg (·, trimStart after) (trimEnd_cons other).symm

/-- What is left of a text is the text with a space in the place of the pattern's first match. -/
theorem dropQualifier_eq_substitute (text : List Char) :
    dropQualifier text = substitute qualifierPattern [' '] text := by
  rw [dropQualifier, substitute, firstMatch?_qualifierPattern]
  cases splitQualifier? text with
  | none => rfl
  | some pair => simp

/-! ## Labels -/

/-- A label has no underscore in it, and no blank at either end. -/
structure IsLabel (label : List Char) : Prop where
  spaced : '_' ∉ label
  starts : ∀ c, label.head? = some c → isBlank c = false
  ends : ∀ c, label.getLast? = some c → isBlank c = false

theorem isLabel_trim (spaced : '_' ∉ text) : IsLabel (trim text) where
  spaced member := spaced (mem_of_mem_trim member)
  starts _ first := not_blank_of_head?_trim first
  ends _ last := not_blank_of_getLast?_trimEnd last

theorem mem_spaceUnderscores {title : List Char} (member : c ∈ spaceUnderscores title) :
    c = ' ' ∨ c ∈ title ∧ c ≠ '_' := by
  obtain ⟨d, among, same⟩ := List.mem_map.mp member
  split at same
  next => exact .inl same.symm
  next other =>
    cases same
    exact .inr ⟨among, other⟩

theorem mem_of_mem_dropQualifier (member : c ∈ dropQualifier text) : c = ' ' ∨ c ∈ text := by
  unfold dropQualifier at member
  split at member
  next before after found =>
    obtain ⟨behind, rfl, opens⟩ := parts_of_splitQualifier? found
    obtain ⟨inside, rfl⟩ := exists_brackets opens
    rcases List.mem_append.mp member with front | back
    · exact .inr (List.mem_append_left _ ((isPrefix_trimEnd before).subset front))
    · refine (List.mem_cons.mp back).imp id fun back => ?_
      have kept := (isSuffix_trimStart after).subset back
      simp [kept]
  next => exact .inr member

theorem mem_dropQualifier_spaceUnderscores {title : List Char}
    (member : c ∈ dropQualifier (spaceUnderscores title)) : c = ' ' ∨ c ∈ title ∧ c ≠ '_' :=
  (mem_of_mem_dropQualifier member).elim .inl mem_spaceUnderscores

theorem isLabel_stripDisambiguation (title : String) :
    IsLabel (stripDisambiguation title).toList := by
  rw [stripDisambiguation, String.toList_ofList]
  refine isLabel_trim fun member => ?_
  simpa using mem_dropQualifier_spaceUnderscores member

theorem plain_stripDisambiguation {title : String} (plain : '|' ∉ title.toList) :
    '|' ∉ (stripDisambiguation title).toList := by
  rw [stripDisambiguation, String.toList_ofList]
  intro member
  rcases mem_dropQualifier_spaceUnderscores (mem_of_mem_trim member) with space | ⟨among, -⟩
  · exact absurd space (by decide)
  · exact plain among

theorem stripDisambiguation_of_plain {title : String} (plain : '(' ∉ title.toList) :
    stripDisambiguation title = pageLabel title := by
  have none : splitQualifier? (spaceUnderscores title.toList) = none := by
    refine splitQualifier?_of_plain fun member => ?_
    rcases mem_spaceUnderscores member with space | ⟨among, -⟩
    · exact absurd space (by decide)
    · exact plain among
  rw [stripDisambiguation, dropQualifier, none, pageLabel]

/-- Of every title the first match of the pattern gives way to a space. So the first brackets go, if
they are closed on their line and hold something, with the blanks around them; without an opening
bracket nothing goes. -/
theorem first_qualifier_dropped (title : String) :
    stripDisambiguation title =
        String.ofList (trim (substitute qualifierPattern [' '] (spaceUnderscores title.toList))) ∧
      (∀ before inside after, Qualified (spaceUnderscores title.toList) before inside after →
        stripDisambiguation title =
          String.ofList (trim (trimEnd before ++ ' ' :: trimStart after))) ∧
      ('(' ∉ title.toList → stripDisambiguation title = pageLabel title) ∧
      IsLabel (stripDisambiguation title).toList ∧
      ('|' ∉ title.toList → '|' ∉ (stripDisambiguation title).toList) := by
  refine ⟨?_, fun before inside after qualified => ?_, stripDisambiguation_of_plain,
    isLabel_stripDisambiguation title, plain_stripDisambiguation⟩
  · rw [stripDisambiguation, dropQualifier_eq_substitute]
  · rw [stripDisambiguation, dropQualifier, qualified.splitQualifier?_eq]

def twiceQualified : String := "Foo\u2003_(a\u00a0b(c)__bar_(d)\u2003"

theorem first_qualifier_dropped_twiceQualified :
    Qualified (spaceUnderscores twiceQualified.toList) "Foo\u2003 ".toList "a\u00a0b(c".toList
        "  bar (d)\u2003".toList ∧
      stripDisambiguation twiceQualified = "Foo bar (d)" ∧
      '|' ∉ twiceQualified.toList ∧ '|' ∉ (stripDisambiguation twiceQualified).toList ∧
      '(' ∉ "_Douglas_)Adams".toList ∧ stripDisambiguation "_Douglas_)Adams" = "Douglas )Adams" := by
  have qualified : Qualified (spaceUnderscores twiceQualified.toList) "Foo\u2003 ".toList
      "a\u00a0b(c".toList "  bar (d)\u2003".toList :=
    ⟨by decide +kernel, by decide +kernel, by decide +kernel, by decide +kernel, by decide +kernel⟩
  have plain : '(' ∉ "_Douglas_)Adams".toList := by decide +kernel
  have single : '|' ∉ twiceQualified.toList := by decide +kernel
  obtain ⟨-, dropped, -, -, single'⟩ := first_qualifier_dropped twiceQualified
  obtain ⟨-, -, kept, -⟩ := first_qualifier_dropped "_Douglas_)Adams"
  exact ⟨qualified, (dropped _ _ _ qualified).trans (by decide +kernel), single, single' single,
    plain, (kept plain).trans (by decide +kernel)⟩

end EditBatch.Wiki

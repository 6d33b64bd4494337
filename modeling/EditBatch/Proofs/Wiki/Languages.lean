import EditBatch.Command.QuickStatements
import EditBatch.Proofs.Command.Conduct
import EditBatch.Proofs.Run.Creation

/-! In which language a new item is labelled.

An export reads the language off the name of a Wikipedia. A run cuts the name off where the family of
the wiki seems to begin, and puts English in the place of Commons. On the names that exports take for
those of Wikipedias the two agree if and only if nothing follows `wiki` and the language in front of
it has neither of the words that runs look for.
-/

set_option autoImplicit false

namespace EditBatch

namespace Wiki

def familyWord : List Char := ['w', 'i', 'k']

def commonsWord : List Char := "commons".toList

/-! ## Names of Wikipedias -/

/-- A language with `wiki` behind it, which a line feed may close. -/
structure IsWikipedia (name language closing : List Char) : Prop where
  parts : name = language ++ 'w' :: 'i' :: 'k' :: 'i' :: closing
  nonempty : language ≠ []
  letters : ∀ c ∈ language, isLanguageChar c = true
  closes : closing = [] ∨ closing = ['\n']

theorem wikipediaLanguage?_eq_some_iff {wiki language : String} :
    wikipediaLanguage? wiki = some language ↔
      ∃ closing, IsWikipedia wiki.toList language.toList closing := by
  constructor
  · intro found
    simp only [wikipediaLanguage?] at found
    split at found
    next letters reversed =>
      split at found
      next shaped =>
        cases found
        simp only [Bool.and_eq_true, Bool.not_eq_true', List.isEmpty_eq_false_iff,
          List.all_eq_true] at shaped
        have line := List.reverse_eq_iff.mp reversed
        simp only [List.reverse_cons, List.append_assoc, List.cons_append, List.nil_append] at line
        rw [String.toList_ofList]
        have nonempty : letters.reverse ≠ [] := by simpa using shaped.1
        have all : ∀ c ∈ letters.reverse, isLanguageChar c = true := by simpa using shaped.2
        split at line
        next last =>
          refine ⟨['\n'], ?_, nonempty, all, .inr rfl⟩
          rw [← List.dropLast_append_getLast? _ last, line]
          simp
        next => exact ⟨[], line, nonempty, all, .inl rfl⟩
      next => simp at found
    next => simp at found
  · rintro ⟨closing, parts, nonempty, letters, rfl | rfl⟩
    all_goals
      have all : language.toList.reverse.all isLanguageChar = true := by simpa using letters
      have some : language.toList.reverse.isEmpty = false := by simpa using nonempty
      simp [wikipediaLanguage?, parts, all, some]

theorem closingLineFeed_append {text closing : List Char} (plain : '\n' ∉ text)
    (closes : closing = [] ∨ closing = ['\n']) : closingLineFeed (text ++ closing) = closing := by
  rcases closes with rfl | rfl
  · have other : text.getLast? ≠ some '\n' := fun last => plain (List.mem_of_getLast? last)
    simp [closingLineFeed, other]
  · simp [closingLineFeed]

theorem isLineRest_append {text closing : List Char} (nonempty : text ≠ []) (plain : '\n' ∉ text)
    (closes : closing = [] ∨ closing = ['\n']) : isLineRest (text ++ closing) = true := by
  rcases closes with rfl | rfl
  · have front : '\n' ∉ text.dropLast := fun member => plain (List.dropLast_subset _ member)
    have other : text ≠ ['\n'] := fun same => plain (by simp [same])
    simp [isLineRest, nonempty, front, other]
  · simp [isLineRest, nonempty, plain]

/-! ## The family -/

theorem dropFamily_of_family {rest : List Char} (more : isLineRest rest = true) :
    dropFamily (familyWord ++ rest) = closingLineFeed rest := by
  simp [familyWord, dropFamily, more]

theorem dropFamily_cons {c : Char} {rest : List Char} (other : ¬ familyWord <+: c :: rest) :
    dropFamily (c :: rest) = c :: dropFamily rest := by
  rw [dropFamily]
  rintro behind rfl rfl
  exact other ⟨behind, rfl⟩

theorem not_family_append {language behind : List Char} (nonempty : language ≠ [])
    (other : ¬ familyWord <+: language) : ¬ familyWord <+: language ++ 'w' :: behind := by
  -- Whatever of the word goes beyond the language would have to go on with a `w`.
  match language with
  | [] => exact absurd rfl nonempty
  | [_] => simp [familyWord]
  | [_, _] => simp [familyWord]
  | first :: second :: third :: rest =>
    simpa [familyWord] using other

theorem dropFamily_cons_append {c : Char} {rest behind : List Char}
    (other : ¬ familyWord <+: c :: rest) :
    dropFamily (c :: rest ++ 'w' :: behind) = c :: dropFamily (rest ++ 'w' :: behind) :=
  dropFamily_cons (not_family_append (by simp) other)

section

variable {language closing : List Char}

theorem plain_behind (closes : closing = [] ∨ closing = ['\n']) :
    closingLineFeed ('i' :: closing) = closing ∧ isLineRest ('i' :: closing) = true := by
  have text : 'i' :: closing = ['i'] ++ closing := rfl
  rw [text]
  exact ⟨closingLineFeed_append (by decide) closes, isLineRest_append (by simp) (by decide) closes⟩

theorem dropFamily_of_plain (closes : closing = [] ∨ closing = ['\n'])
    (plain : ¬ familyWord <:+: language) :
    dropFamily (language ++ 'w' :: 'i' :: 'k' :: 'i' :: closing) = language ++ closing := by
  induction language with
  | nil =>
    obtain ⟨left, more⟩ := plain_behind closes
    exact (dropFamily_of_family more).trans left
  | cons c rest ih =>
    obtain ⟨head, tail⟩ := not_or.mp (List.infix_cons_iff.not.mp plain)
    rw [dropFamily_cons_append head, ih tail]
    rfl

theorem length_dropFamily_lt (closes : closing = [] ∨ closing = ['\n'])
    (letters : '\n' ∉ language) (word : familyWord <:+: language) :
    (dropFamily (language ++ 'w' :: 'i' :: 'k' :: 'i' :: closing)).length < language.length := by
  induction language with
  | nil => simp [familyWord] at word
  | cons c rest ih =>
    by_cases head : familyWord <+: c :: rest
    · -- All that is left is the line feed, which is shorter than the word.
      obtain ⟨behind, parts⟩ := head
      rw [← parts] at letters ⊢
      have text : familyWord ++ behind ++ 'w' :: 'i' :: 'k' :: 'i' :: closing =
          familyWord ++ (behind ++ ['w', 'i', 'k', 'i'] ++ closing) := by simp
      have plain : '\n' ∉ behind ++ ['w', 'i', 'k', 'i'] := by
        simpa [familyWord] using letters
      rw [text, dropFamily_of_family (isLineRest_append (by simp) plain closes),
        closingLineFeed_append plain closes]
      rcases closes with rfl | rfl <;> simp [familyWord]
    · have tail := (List.infix_cons_iff.mp word).resolve_left head
      rw [dropFamily_cons_append head, List.length_cons, List.length_cons]
      exact Nat.succ_lt_succ (ih (fun member => letters (List.mem_cons_of_mem _ member)) tail)

end

/-! ## Commons -/

section

variable {word replacement text : List Char}

theorem replaceFirst_of_plain (nonempty : word ≠ []) (plain : ¬ word <:+: text) :
    replaceFirst word replacement text = text := by
  induction text with
  | nil => simp [replaceFirst, nonempty]
  | cons c rest ih =>
    obtain ⟨head, tail⟩ := not_or.mp (List.infix_cons_iff.not.mp plain)
    rw [replaceFirst, if_neg (by simpa using head), ih tail]

theorem length_replaceFirst (nonempty : word ≠ []) (found : word <:+: text) :
    (replaceFirst word replacement text).length + word.length =
      text.length + replacement.length := by
  induction text with
  | nil => exact absurd (List.infix_nil.mp found) nonempty
  | cons c rest ih =>
    by_cases head : word <+: c :: rest
    · have short := head.length_le
      rw [replaceFirst, if_pos (by simpa using head), List.length_append, List.length_drop]
      omega
    · have further := ih ((List.infix_cons_iff.mp found).resolve_left head)
      rw [replaceFirst, if_neg (by simpa using head), List.length_cons, List.length_cons]
      omega

end

theorem length_replaceCommons {text : List Char} (found : commonsWord <:+: text) :
    (replaceFirst commonsWord "en".toList text).length + 5 = text.length := by
  have lengths : (replaceFirst commonsWord "en".toList text).length + 7 = text.length + 2 :=
    length_replaceFirst (by decide) found
  omega

theorem length_replaceCommons_le (text : List Char) :
    (replaceFirst commonsWord "en".toList text).length ≤ text.length := by
  by_cases found : commonsWord <:+: text
  · have lengths := length_replaceCommons found
    omega
  · exact Nat.le_of_eq (congrArg List.length (replaceFirst_of_plain (by decide) found))

theorem toList_labelLanguage (wiki : String) : (labelLanguage wiki).toList =
    replaceFirst commonsWord "en".toList (dropFamily wiki.toList) := by
  rw [labelLanguage, String.toList_ofList]
  rfl

/-- A run labels in the language of a Wikipedia if and only if the name closes with `wiki` and the
language has neither word in it. -/
theorem labelLanguage_eq_iff {wiki language : String}
    (wikipedia : wikipediaLanguage? wiki = some language) :
    labelLanguage wiki = language ↔
      wiki = language ++ "wiki" ∧ ¬ familyWord <:+: language.toList ∧
        ¬ commonsWord <:+: language.toList := by
  obtain ⟨closing, parts, nonempty, letters, closes⟩ := wikipediaLanguage?_eq_some_iff.mp wikipedia
  rw [← String.toList_inj, toList_labelLanguage, parts]
  have bare : '\n' ∉ language.toList := fun member => absurd (letters _ member) (by decide)
  -- A language that is cut off or has a word replaced is shorter, even with a line feed behind it.
  by_cases word : familyWord <:+: language.toList
  · have fewer := length_dropFamily_lt closes bare word
    have least := length_replaceCommons_le
      (dropFamily (language.toList ++ 'w' :: 'i' :: 'k' :: 'i' :: closing))
    refine iff_of_false (fun same => ?_) fun named => named.2.1 word
    rw [same] at least
    omega
  · have named : wiki = language ++ "wiki" ↔ closing = [] := by
      rw [← String.toList_inj, parts, String.toList_append]
      simp
    rw [dropFamily_of_plain closes word, named]
    by_cases commons : commonsWord <:+: language.toList ++ closing
    · have lengths := length_replaceCommons commons
      refine iff_of_false (fun same => ?_) fun ⟨unclosed, _, other⟩ => ?_
      · have short : closing.length ≤ 1 := by rcases closes with rfl | rfl <;> simp
        rw [same, List.length_append] at lengths
        omega
      · exact other (by simpa [unclosed] using commons)
    · rw [replaceFirst_of_plain (by decide) commons, List.append_right_eq_self]
      refine ⟨fun none => ⟨none, word, fun inside => commons ?_⟩, And.left⟩
      exact inside.trans (List.prefix_append _ _).isInfix

end Wiki

/-! ## Labels of new items -/

/-- An export for a wiki labels every new item in a language. -/
def QuickStatements.LabelsIn (wiki language : String) : Prop :=
  ∀ command : Command, command.mode = .create → ofCommand wiki command =
    "CREATE||LAST|S" ++ wiki ++ "|" ++ inQuotes command.page ++
      "||LAST|L" ++ language ++ "|" ++ inQuotes (Wiki.stripDisambiguation command.page)

namespace Machine

variable {σ : Type}

/-- A run labels the item that it has created for a redlink in a language. -/
def LabelsIn (language : String) (setup : Setup σ) : Prop :=
  ∀ (clock limit throttle : Nat) (client : σ) (commands : List Command) (before last : Machine σ)
    (index : Nat) (command : Command) (id : String),
    (start clock commands limit throttle client).Reaches setup before →
    before.Sends index command → command.mode = .create → command.fromRedlink = true →
    (before.exchanges setup command).findSome? Exchange.newId? = some id →
    (before.sendOff setup index command).Reaches setup last →
    last.run.callsFor index =
      [.createEntity none none, .setLabel id language (Wiki.pageLabel command.page)]

theorem labelsIn_labelLanguage (setup : Setup σ) :
    LabelsIn (Wiki.labelLanguage setup.wiki) setup := by
  intro clock limit throttle client commands before last index command id reached sends creates
    redlink created later
  have makes : Execution.Makes command command.entityRef setup.wiki
      (before.exchanges setup command) :=
    Execution.makes_exchanges (by simp [creates]) _ _ _ _ _
  rw [(sends.stemsFrom reached later).2.calls]
  have told : (before.exchanges setup command).map (·.call) =
      (before.performance setup command).calls.map (·.call) := Run.map_call_exchanges ..
  rw [← told]
  generalize before.exchanges setup command = exchanges at makes created
  cases makes with
  | labelled =>
    cases created
    rfl
  | unborn => simp [Exchange.newId?] at created
  | _ => simp_all [Execution.Orphaned]

end Machine

/-- On the name of a Wikipedia, exports label in the language of the name, and runs in the one that
they make of it. It is the same if and only if there is nothing but `wiki` behind it and it has
neither of the words in it that runs look for. -/
theorem Wiki.labelled_alike_iff {wiki language : String}
    (wikipedia : wikipediaLanguage? wiki = some language) :
    QuickStatements.LabelsIn wiki language ∧
      (∀ {σ : Type} (setup : Setup σ), setup.wiki = wiki →
        Machine.LabelsIn (labelLanguage wiki) setup) ∧
      (labelLanguage wiki = language ↔
        wiki = language ++ "wiki" ∧ ¬ familyWord <:+: language.toList ∧
          ¬ commonsWord <:+: language.toList) := by
  refine ⟨fun command creates => ?_, ?_, labelLanguage_eq_iff wikipedia⟩
  · simp only [QuickStatements.ofCommand, if_pos creates, QuickStatements.ofCreation, wikipedia,
      String.append_assoc]
  · rintro σ setup rfl
    exact Machine.labelsIn_labelLanguage setup

theorem Wiki.labelled_alike_iff_english :
    wikipediaLanguage? "enwiki" = some "en" ∧ labelLanguage "enwiki" = "en" ∧
      QuickStatements.ofCommand "enwiki" Machine.redlinked =
        "CREATE||LAST|Senwiki|\x22Foo\x22||LAST|Len|\x22Foo\x22" ∧
      (Machine.labelled (.remote "no answer")).run.callsFor 0 =
        [.createEntity none none, .setLabel "Q101" "en" "Foo"] := by
  have wikipedia : wikipediaLanguage? "enwiki" = some "en" := by decide +kernel
  obtain ⟨exported, ran, alike⟩ := labelled_alike_iff wikipedia
  have english : labelLanguage "enwiki" = "en" := alike.mpr (by decide +kernel)
  have sends : (Machine.labelling (.remote "no answer")).Sends 0 Machine.redlinked :=
    ⟨by decide +kernel, by decide +kernel, by decide +kernel⟩
  have called := ran Machine.rehearsed rfl 0 1 0 _ _ _ _ 0 _ "Q101"
    (Machine.reaches_steps Machine.rehearsed 10 1 _) sends rfl rfl (by decide +kernel)
    (Machine.reaches_steps Machine.rehearsed 10 20 _)
  have label : pageLabel Machine.redlinked.page = "Foo" := by decide +kernel
  rw [english, label] at called
  exact ⟨wikipedia, english, (exported Machine.redlinked rfl).trans (by decide +kernel), called⟩

/-- The labels on Commons are English, but an export says otherwise. -/
theorem Wiki.commons_labelled_apart :
    wikipediaLanguage? "commonswiki" = some "commons" ∧
      QuickStatements.ofCommand "commonswiki" Machine.redlinked =
        "CREATE||LAST|Scommonswiki|\x22Foo\x22||LAST|Lcommons|\x22Foo\x22" ∧
      labelLanguage "commonswiki" = "en" ∧ "commons" ≠ labelLanguage "commonswiki" := by
  decide +kernel

end EditBatch

import EditBatch.Text.Blank

/-! Labels of new items: their language, and their text from a page title.

A wiki is known by its database name, such as `enwiki` or `dewikisource`.
-/

set_option autoImplicit false

namespace EditBatch.Wiki

open EditBatch.Text

/-- Whether a text is a non-empty piece of one line, apart from a line feed that closes it. -/
def isLineRest (text : List Char) : Bool :=
  !text.isEmpty && !(text.dropLast.contains '\n') && text != ['\n']

def closingLineFeed (text : List Char) : List Char :=
  if text.getLast? = some '\n' then ['\n'] else []

/-- A name without its ending from the first `wik` on that has more of its line behind it. A
line feed that closes the name stays. -/
def dropFamily : List Char → List Char
  | 'w' :: 'i' :: 'k' :: rest =>
    if isLineRest rest then closingLineFeed rest else 'w' :: dropFamily ('i' :: 'k' :: rest)
  | c :: rest => c :: dropFamily rest
  | [] => []

def replaceFirst (word replacement : List Char) : List Char → List Char
  | [] => if word.isEmpty then replacement else []
  | c :: rest =>
    if word.isPrefixOf (c :: rest) then replacement ++ (c :: rest).drop word.length
    else c :: replaceFirst word replacement rest

/-- The language of labels for pages of a wiki; labels for Commons are English. -/
def labelLanguage (wiki : String) : String :=
  String.ofList (replaceFirst "commons".toList "en".toList (dropFamily wiki.toList))

def isLanguageChar (c : Char) : Bool := ('a' ≤ c && c ≤ 'z') || c = '-'

def wikipediaLanguage? (wiki : String) : Option String :=
  let name := wiki.toList
  let line := if name.getLast? = some '\n' then name.dropLast else name
  match line.reverse with
  | 'i' :: 'k' :: 'i' :: 'w' :: language =>
    if !language.isEmpty && language.all isLanguageChar then
      some (String.ofList language.reverse)
    else none
  | _ => none

def spaceUnderscores (title : List Char) : List Char :=
  title.map fun c => if c = '_' then ' ' else c

def pageLabel (title : String) : String :=
  String.ofList (trim (spaceUnderscores title.toList))

/-- What follows a qualifier whose opening bracket was just passed: at least one character of
the same line up to the next closing bracket. -/
def afterQualifier? : List Char → Option (List Char)
  | [] => none
  | first :: rest =>
    if first = '\n' then none
    else
      match rest.dropWhile fun c => c != ')' && c != '\n' with
      | ')' :: after => some after
      | _ => none

def splitQualifier? : List Char → Option (List Char × List Char)
  | [] => none
  | c :: rest =>
    match (if c = '(' then afterQualifier? rest else none) with
    | some after => some ([], after)
    | none => (splitQualifier? rest).map fun (before, after) => (c :: before, after)

def dropQualifier (text : List Char) : List Char :=
  match splitQualifier? text with
  | some (before, after) => trimEnd before ++ ' ' :: trimStart after
  | none => text

/-- Label text without the first qualifier in brackets: `Paris_(band)` gives `Paris`. -/
def stripDisambiguation (title : String) : String :=
  String.ofList (trim (dropQualifier (spaceUnderscores title.toList)))

example : labelLanguage "be_x_oldwiki" = "be_x_old" ∧ labelLanguage "commonswiki" = "en" := by
  decide +kernel
example : labelLanguage "en\nwikwiki\n" = "en\n\n" ∧ labelLanguage "enwik\nx" = "enwik\nx" := by
  decide +kernel
example : stripDisambiguation "A_(b)_c_(d)" = "A c (d)" ∧ stripDisambiguation "() x" = "() x" := by
  decide +kernel

end EditBatch.Wiki

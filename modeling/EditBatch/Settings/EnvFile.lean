import EditBatch.Text.Blank

/-! Files of environment variables.

A line `NAME=value` sets a variable; the word `export` may stand before it, and a comment
behind it. A value without quotes ends where a number sign follows a blank, so that it is empty
if a comment stands in its place. Values may be quoted, and then span lines. A name alone has no
value. Of a line that is not understood nothing counts. In a value `${NAME}` stands for an
earlier variable of the file or, if there is none, of the environment, and `${NAME:-text}` gives
a text for neither.
-/

set_option autoImplicit false

namespace EditBatch.Settings.EnvFile

open EditBatch.Text

/-- A variable of a file; the value is missing if there was only the name. -/
abbrev Entry := String × Option String

def normalizeBreaks : List Char → List Char
  | [] => []
  | '\r' :: '\n' :: rest => '\n' :: normalizeBreaks rest
  | '\r' :: rest => '\n' :: normalizeBreaks rest
  | c :: rest => c :: normalizeBreaks rest

def isGap (c : Char) : Bool := isBlank c && c ≠ '\n'

def skipGap (text : List Char) : List Char := text.dropWhile isGap

def skipLine (text : List Char) : List Char := (text.dropWhile (· ≠ '\n')).drop 1

def skipExport (text : List Char) : List Char :=
  let word := "export".toList
  if word.isPrefixOf text && ((text.drop word.length).head?.any isGap) then
    skipGap (text.drop word.length)
  else text

def isNameChar (c : Char) : Bool := !(c = '=' || c = '#' || isBlank c)

def readName? (text : List Char) : Option (Option String × List Char) :=
  match text with
  | '#' :: _ => some (none, text)
  | '\'' :: rest =>
    let name := rest.takeWhile (· ≠ '\'')
    match rest.dropWhile (· ≠ '\'') with
    | _ :: after => if name.isEmpty then none else some (some (String.ofList name), after)
    | [] => none
  | _ =>
    let name := text.takeWhile isNameChar
    if name.isEmpty then none else some (some (String.ofList name), text.dropWhile isNameChar)

/-- The inside of a quoted value after its opening quote, and the rest. A backslash protects the
character behind it, so the first quote that is not protected closes the value. -/
def readQuoted? (quote : Char) : List Char → Option (List Char × List Char)
  | [] => none
  | '\\' :: c :: rest =>
    (readQuoted? quote rest).map fun (inside, after) => ('\\' :: c :: inside, after)
  | c :: rest =>
    if c = quote then some ([], rest)
    else (readQuoted? quote rest).map fun (inside, after) => (c :: inside, after)

def singleQuoteEscapes : List (Char × Char) := [('\\', '\\'), ('\'', '\'')]

def doubleQuoteEscapes : List (Char × Char) :=
  [('\\', '\\'), ('\'', '\''), ('\x22', '\x22'), ('a', '\x07'), ('b', '\x08'), ('f', '\x0c'),
   ('n', '\n'), ('r', '\r'), ('t', '\t'), ('v', '\x0b')]

def unescape (escapes : List (Char × Char)) : List Char → List Char
  | [] => []
  | '\\' :: c :: rest =>
    match escapes.lookup c with
    | some meaning => meaning :: unescape escapes rest
    | none => '\\' :: unescape escapes (c :: rest)
  | c :: rest => c :: unescape escapes rest

def dropComment (afterBlank : Bool) : List Char → List Char
  | [] => []
  | c :: rest => if afterBlank && c = '#' then [] else c :: dropComment (isBlank c) rest

def readValue? (text : List Char) : Option (List Char × List Char) :=
  match skipGap text with
  | '\'' :: rest =>
    (readQuoted? '\'' rest).map fun (inside, after) => (unescape singleQuoteEscapes inside, after)
  | '\x22' :: rest =>
    (readQuoted? '\x22' rest).map fun (inside, after) =>
      (unescape doubleQuoteEscapes inside, after)
  | _ =>
    some (trim (dropComment false (text.takeWhile (· ≠ '\n'))), text.dropWhile (· ≠ '\n'))

def readAssignment? (text : List Char) : Option (Option String × List Char) :=
  match skipGap text with
  | '=' :: rest =>
    (readValue? rest).map fun (value, after) => (some (String.ofList value), after)
  | rest => some (none, rest)

def readLineEnd? (text : List Char) : Option (List Char) :=
  match skipGap text with
  | '#' :: _ => some (skipLine text)
  | '\n' :: rest => some rest
  | [] => some []
  | _ => none

def readEntry (text : List Char) : Option Entry × List Char :=
  let start := skipExport text
  match readName? start with
  | none => (none, skipLine start)
  | some (name?, rest) =>
    match readAssignment? rest with
    | none => (none, skipLine rest)
    | some (value?, rest) =>
      match readLineEnd? rest with
      | none => (none, skipLine rest)
      | some rest => (name?.map fun name => (name, value?), rest)

def readEntries (text : List Char) : List Entry :=
  let start := text.dropWhile isBlank
  if start.isEmpty then []
  else
    let (found?, rest) := readEntry start
    if _h : rest.length < text.length then found?.toList ++ readEntries rest else found?.toList
termination_by text.length

def setEntry (entry : Entry) : List Entry → List Entry
  | [] => [entry]
  | other :: rest => if other.1 = entry.1 then entry :: rest else other :: setEntry entry rest

/-- A reference such as `{NAME}` or `{NAME:-text}` behind its dollar sign: the name, the text,
and the rest. -/
def readReference? : List Char → Option (List Char × List Char × List Char)
  | '{' :: text =>
    let name := text.takeWhile fun c => c ≠ '}' && c ≠ ':'
    match text.dropWhile fun c => c ≠ '}' && c ≠ ':' with
    | '}' :: rest => some (name, [], rest)
    | ':' :: '-' :: text =>
      match text.dropWhile (· ≠ '}') with
      | _ :: rest => some (name, text.takeWhile (· ≠ '}'), rest)
      | [] => none
    | _ => none
  | _ => none

def lookUp (environment : List (String × String)) (entries : List Entry) (name fallback : String) :
    String :=
  match entries.lookup name with
  | some value? => value?.getD ""
  | none => (environment.lookup name).getD fallback

def resolve (value : (name fallback : String) → String) (text : List Char) : List Char :=
  match text with
  | [] => []
  | '$' :: rest =>
    match readReference? rest with
    | some (name, fallback, after) =>
      if _h : after.length < rest.length then
        (value (String.ofList name) (String.ofList fallback)).toList ++ resolve value after
      else '$' :: resolve value rest
    | none => '$' :: resolve value rest
  | c :: rest => c :: resolve value rest
termination_by text.length

/-- Adds a variable, whose value may refer to earlier ones. -/
def addEntry (environment : List (String × String)) (entries : List Entry) (entry : Entry) :
    List Entry :=
  let value? := entry.2.map fun value =>
    String.ofList (resolve (lookUp environment entries) value.toList)
  setEntry (entry.1, value?) entries

def dropMark : List Char → List Char
  | '\ufeff' :: text => text
  | text => text

/-- The variables that a file sets. A repeated one keeps its first place and last value. -/
def read (environment : List (String × String)) (text : String) : List Entry :=
  (readEntries (normalizeBreaks (dropMark text.toList))).foldl (addEntry environment) []

example : read [("H", "x")] "A=1 # one\nexport B = '${A}\\''\nC\nA=${H:-y}-${Z:-z}" =
    [("A", some "x-z"), ("B", some "1'"), ("C", none)] := by decide +kernel
example : read [] "\ufeffA= # one\nB=# two\nC='\\\\'\nD='\\'" =
    [("A", some ""), ("B", some "# two"), ("C", some "\\")] := by decide +kernel

end EditBatch.Settings.EnvFile

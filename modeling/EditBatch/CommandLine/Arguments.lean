import EditBatch.CommandLine.Usage
import EditBatch.Text.Similarity

/-! Taking a list of arguments apart.

Options and items may come in any order; everything behind `--` is an item. The value of an
option is the next argument, whatever it looks like, or follows behind an equals sign. One
dash introduces single letters, of which the last one may be followed by its value.
-/

set_option autoImplicit false

namespace EditBatch.CommandLine

open EditBatch.Text

/-- An option that was given; the value of one that takes none is empty. -/
structure Occurrence where
  option : OptionName
  value : String
  deriving DecidableEq, Repr

structure Arguments where
  occurrences : List Occurrence
  items : List String
  deriving DecidableEq, Repr

namespace Arguments

inductive Reading where
  | complete (occurrences : List Occurrence)
  /-- The next argument is the value of an option. -/
  | open (occurrences : List Occurrence) (option : OptionName) (spelling : String)
  deriving DecidableEq, Repr

def Reading.after (first : Occurrence) : Reading → Reading
  | .complete occurrences => .complete (first :: occurrences)
  | .open occurrences option spelling => .open (first :: occurrences) option spelling

def isOption (argument : String) : Bool :=
  match argument.toList with
  | '-' :: _ :: _ => true
  | _ => false

def readLetters (known : List OptionName) : List Char → Except UsageError Reading
  | [] => .ok (.complete [])
  | letter :: rest =>
    match known.find? fun option => option.letter? = some letter with
    | none => .error (.noSuchOption (OptionName.letterSpelling letter) [])
    | some option =>
      if option.takesValue then
        if rest.isEmpty then .ok (.open [] option (OptionName.letterSpelling letter))
        else .ok (.complete [⟨option, String.ofList rest⟩])
      else (readLetters known rest).map (·.after ⟨option, ""⟩)

def splitValue (argument : String) : String × Option String :=
  let text := argument.toList
  match text.dropWhile (· ≠ '=') with
  | _ :: value => (String.ofList (text.takeWhile (· ≠ '=')), some (String.ofList value))
  | [] => (argument, none)

def readWord (option : OptionName) : Option String → Except UsageError Reading
  | some value =>
    if option.takesValue then .ok (.complete [⟨option, value⟩])
    else .error (.unwantedValue option.word)
  | none =>
    if option.takesValue then .ok (.open [] option option.word)
    else .ok (.complete [⟨option, ""⟩])

def readOption (known : List OptionName) (argument : String) : Except UsageError Reading :=
  let (name, value?) := splitValue argument
  match known.find? fun option => option.word = name with
  | some option => readWord option value?
  | none =>
    match argument.toList with
    | '-' :: '-' :: _ =>
      .error (.noSuchOption name (similarWords name (known.map (·.word))))
    | text => readLetters known text.tail

def prepend (occurrences : List Occurrence) (rest : Arguments) : Arguments :=
  { rest with occurrences := occurrences ++ rest.occurrences }

def addItem (item : String) (rest : Arguments) : Arguments :=
  { rest with items := item :: rest.items }

def read (known : List OptionName) : List String → Except UsageError Arguments
  | [] => .ok ⟨[], []⟩
  | argument :: rest =>
    if argument = "--" then .ok ⟨[], rest⟩
    else if isOption argument then
      match readOption known argument with
      | .error e => .error e
      | .ok (.complete occurrences) => (read known rest).map (prepend occurrences)
      | .ok (.open occurrences option spelling) =>
        match rest with
        | [] => .error (.missingValue spelling)
        | value :: rest =>
          (read known rest).map (prepend (occurrences ++ [⟨option, value⟩]))
    else (read known rest).map (addItem argument)

def leading (known : List OptionName) :
    List String → Except UsageError (List Occurrence × List String)
  | [] => .ok ([], [])
  | argument :: rest =>
    if argument = "--" then .ok ([], rest)
    else if isOption argument then
      match readOption known argument with
      | .error e => .error e
      | .ok (.complete occurrences) =>
        (leading known rest).map fun (more, rest) => (occurrences ++ more, rest)
      | .ok (.open occurrences option spelling) =>
        match rest with
        | [] => .error (.missingValue spelling)
        | value :: rest =>
          (leading known rest).map fun (more, rest) =>
            (occurrences ++ ⟨option, value⟩ :: more, rest)
    else .ok ([], argument :: rest)

def values (arguments : Arguments) (option : OptionName) : List String :=
  (arguments.occurrences.filter (·.option = option)).map (·.value)

def value? (arguments : Arguments) (option : OptionName) : Option String :=
  (arguments.values option).getLast?

def has (arguments : Arguments) (option : OptionName) : Bool :=
  !(arguments.values option).isEmpty

end Arguments

inductive Wish where
  | help
  /-- Nothing was asked, which is answered like a wish for help. -/
  | nothing
  | perform (subcommand : Subcommand) (arguments : Arguments)
  deriving DecidableEq, Repr

namespace Wish

def ofSubcommand (name : String) (rest : List String) : Except UsageError Wish :=
  match Subcommand.all.find? fun subcommand => subcommand.word = name with
  | some subcommand => do
    let arguments ← Arguments.read subcommand.options rest
    return if arguments.has .help then .help else .perform subcommand arguments
  | none => do
    let (given, _) ← Arguments.leading [.help] (name :: rest)
    if given.isEmpty then
      .error (.noSuchCommand name (similarWords name (Subcommand.all.map (·.word))))
    else return .help

/-- Before the subcommand only the option for help may stand. What stands there in place of a
subcommand, behind a mark for the end of options, is once more looked at for options. -/
def read : List String → Except UsageError Wish
  | [] => .ok .nothing
  | arguments => do
    let (given, rest) ← Arguments.leading [.help] arguments
    if !given.isEmpty then return .help
    match rest with
    | [] => .error .missingCommand
    | name :: rest => ofSubcommand name rest

def fileNames : Wish → List String
  | .perform _ arguments => ".env" :: (arguments.values .config ++ arguments.values .file)
  | .help | .nothing => []

end Wish

example :
    (Arguments.read Subcommand.runBatch.options
      ["Q1", "-vs-P31", "--wiki=x=y", "-c", "--", "--"]).toOption =
      some ⟨[⟨.verbose, ""⟩, ⟨.statement, "-P31"⟩, ⟨.wiki, "x=y"⟩, ⟨.config, "--"⟩], ["Q1"]⟩ := by
  decide +kernel

end EditBatch.CommandLine

import EditBatch.Row.Batch

/-! What can be said on the command line, and what is said wrongly. -/

set_option autoImplicit false

namespace EditBatch.CommandLine

open EditBatch.Text

inductive OptionName where
  | statement
  | file
  | create
  | redlink
  | wiki
  | config
  | verbose
  | concurrency
  | throttle
  | bot
  | dryRun
  | help
  deriving DecidableEq, Repr

namespace OptionName

def letter? : OptionName → Option Char
  | .statement => some 's'
  | .file => some 'f'
  | .config => some 'c'
  | .verbose => some 'v'
  | _ => none

def word : OptionName → String
  | .statement => "--statement"
  | .file => "--file"
  | .create => "--create"
  | .redlink => "--redlink"
  | .wiki => "--wiki"
  | .config => "--config"
  | .verbose => "--verbose"
  | .concurrency => "--concurrency"
  | .throttle => "--throttle-ms"
  | .bot => "--bot"
  | .dryRun => "--dry-run"
  | .help => "--help"

def takesValue : OptionName → Bool
  | .verbose | .bot | .dryRun | .help => false
  | _ => true

def letterSpelling (letter : Char) : String := String.ofList ['-', letter]

def hint (option : OptionName) : String :=
  let letters := option.letter?.toList.map letterSpelling
  " / ".intercalate ((letters ++ [option.word]).map quoted)

end OptionName

inductive Subcommand where
  /-- Executes the batch. -/
  | runBatch
  /-- Prints the batch for execution elsewhere. -/
  | exportBatch
  deriving DecidableEq, Repr

namespace Subcommand

def word : Subcommand → String
  | .runBatch => "run"
  | .exportBatch => "export"

def all : List Subcommand := [.runBatch, .exportBatch]

def sharedOptions : List OptionName :=
  [.statement, .file, .create, .redlink, .wiki, .config, .verbose]

def options : Subcommand → List OptionName
  | .runBatch => sharedOptions ++ [.concurrency, .throttle, .bot, .dryRun, .help]
  | .exportBatch => sharedOptions ++ [.help]

end Subcommand

inductive ValueFault where
  | notAnInteger (given : String)
  | noSuchFile (name : String)
  | isDirectory (name : String)
  | noSuchPath (name : String)
  /-- No file can have a name with a null character. -/
  | impossibleName
  deriving DecidableEq, Repr

def ValueFault.message : ValueFault → String
  | .notAnInteger given => quoted given ++ " is not a valid integer."
  | .noSuchFile name => "File " ++ quoted name ++ " does not exist."
  | .isDirectory name => "File " ++ quoted name ++ " is a directory."
  | .noSuchPath name => "Path " ++ quoted name ++ " does not exist."
  | .impossibleName => "A file name holds a null character."

inductive UsageError where
  | missingCommand
  | noSuchCommand (name : String) (similar : List String)
  | noSuchOption (name : String) (similar : List String)
  | missingValue (spelling : String)
  | unwantedValue (spelling : String)
  | badValue (option : OptionName) (fault : ValueFault)
  | nothingSelected
  | badSelection (reason : MalformedSelection)
  | nothingToDo
  deriving DecidableEq, Repr

def suggestion : List String → String
  | [] => ""
  | [word] => " Did you mean " ++ quoted word ++ "?"
  | words => " (Did you mean one of: " ++ ", ".intercalate (words.map quoted) ++ "?)"

def UsageError.message : UsageError → String
  | .missingCommand => "Missing command."
  | .noSuchCommand name similar => "No such command " ++ quoted name ++ "." ++ suggestion similar
  | .noSuchOption name similar => "No such option " ++ quoted name ++ "." ++ suggestion similar
  | .missingValue spelling => "Option " ++ quoted spelling ++ " requires an argument."
  | .unwantedValue spelling => "Option " ++ quoted spelling ++ " does not take a value."
  | .badValue option fault => "Invalid value for " ++ option.hint ++ ": " ++ fault.message
  | .nothingSelected => "Give at least one item, --create or --redlink page."
  | .badSelection reason => reason.message
  | .nothingToDo => "Nothing to do: no valid statement rows."

example : (UsageError.badValue .file (.noSuchFile "x")).message =
    "Invalid value for '-f' / '--file': File 'x' does not exist." := by decide +kernel

end EditBatch.CommandLine

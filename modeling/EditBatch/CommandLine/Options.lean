import EditBatch.CommandLine.Arguments
import EditBatch.Text.Integer

/-! The options of a subcommand with their values converted.

Values are checked in the order in which their options first occur; of an option that is given
several times without being a list the last value counts.
-/

set_option autoImplicit false

namespace EditBatch.CommandLine

open EditBatch.Text

inductive FileState where
  | missing
  | directory
  | file (content : String)
  deriving DecidableEq, Repr

abbrev Files := String → FileState

structure Options where
  items : List String := []
  statements : List String := []
  /-- Titles of pages for which items are to be created. -/
  createPages : List String := []
  redlinkPages : List String := []
  file : Option String := none
  config : Option String := none
  wiki : Option String := none
  verbose : Bool := false
  concurrency : Option Int := none
  throttle : Option Int := none
  bot : Bool := false
  dryRun : Bool := false
  deriving DecidableEq, Repr

namespace Options

def fileFault? (files : Files) (name : String) : Option ValueFault :=
  if name.toList.contains '\x00' then some .impossibleName
  else
    match files name with
    | .missing => some (.noSuchFile name)
    | .directory => some (.isDirectory name)
    | .file _ => none

def pathFault? (files : Files) (name : String) : Option ValueFault :=
  if name.toList.contains '\x00' then some .impossibleName
  else if files name = .missing then some (.noSuchPath name)
  else none

def fault? (files : Files) (option : OptionName) (value : String) : Option ValueFault :=
  match option with
  | .file => fileFault? files value
  | .config => pathFault? files value
  | .concurrency | .throttle =>
    if (readInteger? value).isNone then some (.notAnInteger value) else none
  | _ => none

def firstError? (files : Files) (arguments : Arguments) : Option UsageError :=
  arguments.occurrences.findSome? fun occurrence =>
    ((arguments.value? occurrence.option).bind (fault? files occurrence.option)).map
      (.badValue occurrence.option)

def ofArguments (files : Files) (arguments : Arguments) : Except UsageError Options :=
  match firstError? files arguments with
  | some e => .error e
  | none =>
    .ok {
      items := arguments.items
      statements := arguments.values .statement
      createPages := arguments.values .create
      redlinkPages := arguments.values .redlink
      file := arguments.value? .file
      config := arguments.value? .config
      wiki := arguments.value? .wiki
      verbose := arguments.has .verbose
      concurrency := (arguments.value? .concurrency).bind readInteger?
      throttle := (arguments.value? .throttle).bind readInteger?
      bot := arguments.has .bot
      dryRun := arguments.has .dryRun }

end Options

end EditBatch.CommandLine

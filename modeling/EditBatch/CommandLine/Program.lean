import EditBatch.Command.QuickStatements
import EditBatch.CommandLine.Preparation
import EditBatch.CommandLine.Watching
import EditBatch.Text.ControlSequence

/-! The program as a whole: from arguments to what it prints, and to its exit code.

The code is two for wrong arguments and one for a batch in which a command failed.
-/

set_option autoImplicit false

namespace EditBatch.CommandLine

open EditBatch.Text

inductive Ending where
  | exit (code : Nat)
  | breakOff (reason : Breakdown)
  deriving DecidableEq, Repr

structure Transcript where
  output : String := ""
  errors : String := ""
  ending : Ending := .exit 0
  deriving DecidableEq, Repr

namespace Transcript

/-- A wrong use is reported, but an impossible file name makes the program break off. -/
def misuse (notes : String) (e : UsageError) : Transcript :=
  match e with
  | .badValue _ .impossibleName => { errors := notes, ending := .breakOff .impossibleFileName }
  | e => { errors := notes ++ "Error: " ++ e.message ++ "\n", ending := .exit 2 }

def printing (notes output : String) : Transcript where
  output := output
  errors := notes

def withoutControl (transcript : Transcript) : Transcript :=
  { transcript with output := plain transcript.output, errors := plain transcript.errors }

end Transcript

/-- What the program was run for, and the moment at which it is interrupted. -/
structure Occasion (σ : Type) where
  surroundings : Surroundings
  server : Http.Server σ
  interruptAt : Option Nat := none

def helpText : String :=
  "Usage: editbatch (run | export) [OPTIONS] [ITEMS]...\n\nOptions of run:\n" ++
    String.join (Subcommand.runBatch.options.map fun option => "  " ++ option.word ++ "\n")

variable {σ : Type}

def setupFor (settings : Settings) (server : Http.Server σ) : Setup σ where
  client := Wiki.client settings.endpoints server
  wiki := settings.wiki
  poll := max 1 settings.pollInterval.toNat
  poll_pos := Nat.le_max_left 1 _
  listener _ := {}

def begin (settings : Settings) (commands : List Command) (world : σ) : Machine σ :=
  ⟨0, Session.newRun settings.limits { commands := commands }, world⟩

def reportOf (machine : Machine σ) : Report :=
  machine.run.reportWith (machine.outcome?.getD .stopped)

/-- Executes a batch. It counts as failed if one of its commands failed. -/
def executeBatch (occasion : Occasion σ) (settings : Settings) (notes : String)
    (commands : List Command) (world : σ) : Transcript × σ :=
  let watched :=
    watch (setupFor settings occasion.server) occasion.interruptAt (begin settings commands world)
  let report := reportOf watched.machine
  ({ output := watched.shown ++ summary report
     errors := notes
     ending := .exit (if report.failedIds.isEmpty then 0 else 1) },
    watched.machine.client)

def rehearsal (commands : List Command) : String :=
  "[DRY-RUN] " ++ toString commands.length ++ " commands:\n" ++
    String.join (commands.map fun command => "  " ++ command.describe ++ "\n")

def performBatch (occasion : Occasion σ) (subcommand : Subcommand) (settings : Settings)
    (batch : Batch) (world : σ) : Transcript × σ :=
  let notes := String.join (batch.malformed.map skippedNote)
  if batch.commands.isEmpty then (.misuse notes .nothingToDo, world)
  else
    match subcommand with
    | .exportBatch =>
      (.printing notes (QuickStatements.ofCommands settings.wiki batch.commands ++ "\n"), world)
    | .runBatch =>
      if settings.dryRun then (.printing notes (rehearsal batch.commands), world)
      else executeBatch occasion settings notes batch.commands world

def performOptions (occasion : Occasion σ) (subcommand : Subcommand) (options : Options)
    (world : σ) : Transcript × σ :=
  match options.settings occasion.surroundings subcommand with
  | .error reason => ({ ending := .breakOff reason }, world)
  | .ok settings =>
    match options.batch occasion.surroundings with
    | .error e => (.misuse "" e, world)
    | .ok batch => performBatch occasion subcommand settings batch world

def performWish (occasion : Occasion σ) (wish : Wish) (world : σ) : Transcript × σ :=
  match wish with
  | .help => (.printing "" helpText, world)
  | .nothing => ({ errors := helpText, ending := .exit 2 }, world)
  | .perform subcommand arguments =>
    match Options.ofArguments occasion.surroundings.files arguments with
    | .error e => (.misuse "" e, world)
    | .ok options => performOptions occasion subcommand options world

def performArguments (occasion : Occasion σ) (arguments : List String) (world : σ) :
    Transcript × σ :=
  match Wish.read arguments with
  | .error e => (.misuse "" e, world)
  | .ok wish => performWish occasion wish world

def program (occasion : Occasion σ) (arguments : List String) (world : σ) : Transcript × σ :=
  let (transcript, world) := performArguments occasion arguments world
  (transcript.withoutControl, world)

end EditBatch.CommandLine

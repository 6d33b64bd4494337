import EditBatch.CommandLine.Options
import EditBatch.Settings.Source

/-! From options to settings and to the batch. -/

set_option autoImplicit false

namespace EditBatch.CommandLine

open EditBatch.Text

/-- Everything from outside that the program looks at. -/
structure Surroundings where
  environment : List (String × String) := []
  files : Files

inductive Breakdown where
  | rejectedSettings (names : List String)
  | unknownLogLevel (name : String)
  | impossibleFileName
  deriving DecidableEq, Repr

def logLevels : List String :=
  ["TRACE", "DEBUG", "INFO", "SUCCESS", "WARNING", "ERROR", "CRITICAL"]

namespace Options

def executionSettings (options : Options) : List (String × Json) :=
  (options.concurrency.map fun limit => ("concurrency", Json.int limit)).toList ++
  (options.throttle.map fun pause => ("throttle_ms", Json.int pause)).toList ++
  (if options.bot then [("bot_mode", .bool true)] else []) ++
  (if options.dryRun then [("dry_run", .bool true)] else []) ++
  (if options.verbose then [("verbose", .bool true)] else [])

/-- Settings given by options. A switch that is off leaves the matter to other sources. -/
def givenSettings (subcommand : Subcommand) (options : Options) : List (String × Json) :=
  (options.wiki.map fun wiki => ("wiki", Json.str wiki)).toList ++
  (if options.verbose then [("log_level", .str "DEBUG")] else []) ++
  (match subcommand with
   | .runBatch => options.executionSettings
   | .exportBatch => [])

def settingsFile (surroundings : Surroundings) (options : Options) : List Settings.EnvFile.Entry :=
  match surroundings.files (options.config.getD ".env") with
  | .file content => Settings.EnvFile.read surroundings.environment content
  | .missing | .directory => []

def settings (surroundings : Surroundings) (subcommand : Subcommand) (options : Options) :
    Except Breakdown Settings :=
  let sources : Settings.Sources :=
    { given := options.givenSettings subcommand
      environment := surroundings.environment
      file := options.settingsFile surroundings }
  match Settings.read sources with
  | .error names => .error (.rejectedSettings names)
  | .ok settings =>
    if logLevels.contains (uppered settings.logLevel) then .ok settings
    else .error (.unknownLogLevel settings.logLevel)

def fileRows (surroundings : Surroundings) (options : Options) : List String :=
  match options.file.map surroundings.files with
  | some (.file content) => lines content
  | _ => []

/-- The text of all rows: those given as options, then those of the file. -/
def rowText (surroundings : Surroundings) (options : Options) : String :=
  "\n".intercalate (options.statements ++ options.fileRows surroundings)

def selections (options : Options) : List Selection :=
  options.items.map (fun item => { entityRef := some item, groupId := some item }) ++
  options.createPages.map (fun page => { page := page, create := true, groupId := some page }) ++
  options.redlinkPages.map fun page =>
    { page := page, create := true, fromRedlink := true, groupId := some page }

def batch (surroundings : Surroundings) (options : Options) : Except UsageError Batch :=
  if options.selections.isEmpty then .error .nothingSelected
  else
    match Batch.read (options.rowText surroundings) options.selections with
    | .ok batch => .ok batch
    | .error reason => .error (.badSelection reason)

end Options

def skippedNote (row : MalformedRow) : String :=
  "  Skipped unrecognized row: " ++ trimmed row.text ++ "\n"

end EditBatch.CommandLine

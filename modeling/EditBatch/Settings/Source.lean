import EditBatch.Settings.Basic
import EditBatch.Settings.Coercion
import EditBatch.Settings.EnvFile

/-! Settings from several sources.

A value given directly comes before one from the environment, that one before a file, and the
default comes last. Names may be in letters of any case, and of two spellings the last one given
counts. Variables are named `AUTOLIST_` and the name of a setting. All unusable values are
reported together, in the order of the settings.
-/

set_option autoImplicit false

namespace EditBatch.Settings

structure Sources where
  given : List (String × Json) := []
  environment : List (String × String) := []
  file : List EnvFile.Entry := []

/-- A name in small letters. Of the letters outside ASCII only the Kelvin sign has a small form
within. -/
def smallName (name : String) : String :=
  String.ofList (name.toList.map fun c => if c = '\u212a' then 'k' else c.toLower)

def variableStem : String := "autolist_"

def names : List String :=
  ["widar_url", "wikidata_api_url", "tool_hashtag", "request_timeout", "wiki", "bot_mode",
   "concurrency", "throttle_ms", "poll_interval_ms", "dry_run", "verbose", "log_level", "log_dir"]

def variableName (name : String) : String :=
  String.ofList ((variableStem ++ name).toList.map Char.toUpper)

/-- The value of the last variable for a setting; it may be one without value. -/
def variableText? (name : String) (entries : List EnvFile.Entry) : Option String :=
  ((entries.reverse.find? fun entry => smallName entry.1 = variableStem ++ name).bind (·.2))

namespace Sources

def givenValue? (sources : Sources) (name : String) : Option Json :=
  (sources.given.reverse.find? fun entry => smallName entry.1 = name).map (·.2)

def environmentEntries (sources : Sources) : List EnvFile.Entry :=
  sources.environment.map fun (name, value) => (name, some value)

def value? (sources : Sources) (name : String) : Option Json :=
  sources.givenValue? name
    <|> (variableText? name sources.environmentEntries).map .str
    <|> (variableText? name sources.file).map .str

def setting {α : Type} (sources : Sources) (name : String) (read : Json → Option α)
    (default : α) : Except (List String) α :=
  match sources.value? name with
  | none => .ok default
  | some value => (read value).elim (.error [name]) .ok

end Sources

/-- Applies a function that may be rejected to an argument that may be rejected. -/
def applied {α β : Type} :
    Except (List String) (α → β) → Except (List String) α → Except (List String) β
  | .ok make, .ok value => .ok (make value)
  | .error names, .ok _ | .ok _, .error names => .error names
  | .error names, .error more => .error (names ++ more)

def read (sources : Sources) : Except (List String) Settings :=
  let usual : Settings := {}
  let settings := Except.ok Settings.mk
  let settings := applied settings (sources.setting "widar_url" text? usual.editUrl)
  let settings := applied settings (sources.setting "wikidata_api_url" text? usual.queryUrl)
  let settings := applied settings (sources.setting "tool_hashtag" text? usual.hashtag)
  let settings := applied settings (sources.setting "request_timeout" number? usual.requestTimeout)
  let settings := applied settings (sources.setting "wiki" text? usual.wiki)
  let settings := applied settings (sources.setting "bot_mode" switch? usual.botMode)
  let settings :=
    applied settings (sources.setting "concurrency" optionalInteger? usual.concurrency)
  let settings := applied settings (sources.setting "throttle_ms" optionalInteger? usual.throttle)
  let settings := applied settings (sources.setting "poll_interval_ms" integer? usual.pollInterval)
  let settings := applied settings (sources.setting "dry_run" switch? usual.dryRun)
  let settings := applied settings (sources.setting "verbose" switch? usual.verbose)
  let settings := applied settings (sources.setting "log_level" text? usual.logLevel)
  applied settings
    (sources.setting "log_dir" (fun value => (text? value).map some) usual.logDirectory)

example : (read { environment := [("Autolist_Wiki", "a"), ("AUTOLIST_WIKI", "b")] }).toOption.map
    (·.wiki) =
    some "b" := by decide +kernel
example :
    (read { given := [("poll_interval_ms", .null), ("bot_mode", .str "?")] }).isOk = false := by
  decide +kernel

end EditBatch.Settings

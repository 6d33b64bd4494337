import EditBatch.Decimal.Double
import EditBatch.Session.Basic
import EditBatch.Wiki.Client

/-! The settings of the program, and the limits of an account.

A bot account may have five commands in flight and need not pause; a user account has one at a
time and pauses two seconds. Configured limits that are out of range are ignored.
-/

set_option autoImplicit false

namespace EditBatch

open EditBatch.Decimal

structure Settings where
  editUrl : String := "https://tools.wmflabs.org/widar/index.php"
  queryUrl : String := "https://www.wikidata.org/w/api.php"
  hashtag : String := "petscan"
  requestTimeout : Double := .ofDecimal false 30 0
  wiki : String := "enwiki"
  botMode : Bool := false
  concurrency : Option Int := none
  throttle : Option Int := none
  pollInterval : Int := 100
  dryRun : Bool := false
  verbose : Bool := false
  logLevel : String := "INFO"
  /-- Where log files go, if not to the usual place. -/
  logDirectory : Option String := none
  deriving DecidableEq, Repr

namespace Settings

def concurrencyLimit (settings : Settings) : Int := if settings.botMode then 5 else 1

def effectiveConcurrency (settings : Settings) : Int :=
  match settings.concurrency with
  | some given =>
    if 1 ≤ given ∧ given ≤ settings.concurrencyLimit then given else settings.concurrencyLimit
  | none => settings.concurrencyLimit

def accountThrottle (settings : Settings) : Int := if settings.botMode then 1 else 2000

def effectiveThrottle (settings : Settings) : Int :=
  match settings.throttle with
  | some given => if 0 ≤ given then given else settings.accountThrottle
  | none => settings.accountThrottle

def limits (settings : Settings) : Limits where
  concurrency := settings.effectiveConcurrency
  throttle := settings.effectiveThrottle

def endpoints (settings : Settings) : Wiki.Endpoints where
  edits := ⟨settings.editUrl, settings.hashtag⟩
  queries := settings.queryUrl

theorem effectiveConcurrency_bounds (settings : Settings) :
    1 ≤ settings.effectiveConcurrency ∧
      settings.effectiveConcurrency ≤ settings.concurrencyLimit := by
  have : 1 ≤ settings.concurrencyLimit := by unfold concurrencyLimit; split <;> decide
  unfold effectiveConcurrency
  split
  · split <;> omega
  · omega

theorem effectiveThrottle_nonneg (settings : Settings) : 0 ≤ settings.effectiveThrottle := by
  have : 0 ≤ settings.accountThrottle := by unfold accountThrottle; split <;> decide
  unfold effectiveThrottle
  split
  · split <;> omega
  · exact this

end Settings

end EditBatch

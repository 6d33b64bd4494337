import EditBatch.Proofs.Run.Accounting
import EditBatch.Proofs.Run.Stopping
import Mathlib.Data.List.Basic

/-! What becomes of a run whose dispatch loop has been aborted.

When everything that was sent off has ended, the commands in flight are completed one after the
other, in the order in which they were sent off and in the way in which the loop completes them. No
completion gets in the way of another, for a completion changes nothing but unfinished commands on
its own ref. So this works from any state in which the commands in flight run on refs of their own,
however the loop has left the other commands behind.
-/

set_option autoImplicit false

namespace EditBatch

namespace Run

variable {σ : Type}

/-! ## Flights on refs of their own -/

def refAt (commands : List Command) (index : Nat) : String :=
  (commands[index]?.map (·.entityRef)).getD ""

theorem refAt_of_getElem? {commands : List Command} {index : Nat} {command : Command}
    (found : commands[index]? = some command) : refAt commands index = command.entityRef := by
  rw [refAt, found, Option.map_some, Option.getD_some]

-- Nothing is asked of the commands that are not in flight: a loop that is broken off in the middle of
-- a dispatch or of a completion may leave them in any state. As no ref occurs twice, no position does.
/-- The commands of flights run, and no two of them are on one ref. -/
structure Flying (commands : List Command) (flights : List Flight) : Prop where
  running : ∀ flight ∈ flights, commands[flight.index]?.map (·.status) = some .running
  apart : (flights.map fun flight => refAt commands flight.index).Nodup

section flying

variable {commands : List Command} {flight other : Flight} {flights : List Flight}
  {command : Command}

theorem Flying.found (flying : Flying commands flights) (aloft : flight ∈ flights) :
    ∃ command, commands[flight.index]? = some command ∧ command.status = .running :=
  Option.map_eq_some_iff.mp (flying.running flight aloft)

theorem Flying.refAt_ne (flying : Flying commands (flight :: flights)) (aloft : other ∈ flights) :
    refAt commands other.index ≠ refAt commands flight.index := by
  obtain ⟨fresh, -⟩ := List.nodup_cons.mp flying.apart
  exact fun same => fresh (List.mem_map.mpr ⟨other, aloft, same⟩)

theorem Flying.kept (flying : Flying commands (flight :: flights)) (aloft : other ∈ flights)
    (found : commands[flight.index]? = some command) (result : CommandResult) :
    (afterCompletion flight.index command result commands)[other.index]? =
      commands[other.index]? := by
  have apart := flying.refAt_ne aloft
  obtain ⟨held, there, -⟩ := flying.found (List.mem_cons_of_mem flight aloft)
  have elsewhere (same : other.index = flight.index) : False := apart (by rw [same])
  rw [refAt_of_getElem? found, refAt_of_getElem? there] at apart
  rw [getElem?_afterCompletion found, if_neg elsewhere, there, Option.map_some,
    redirected_of_ne command result apart]

theorem Flying.tail (flying : Flying commands (flight :: flights))
    (found : commands[flight.index]? = some command) (result : CommandResult) :
    Flying (afterCompletion flight.index command result commands) flights := by
  have kept (other : Flight) (aloft : other ∈ flights) := flying.kept aloft found result
  constructor
  · intro other aloft
    rw [kept other aloft]
    exact flying.running other (List.mem_cons_of_mem flight aloft)
  · have same : (flights.map fun other =>
        refAt (afterCompletion flight.index command result commands) other.index) =
        flights.map fun other => refAt commands other.index :=
      List.map_congr_left fun other aloft => by rw [refAt, kept other aloft, refAt]
    rw [same]
    exact (List.nodup_cons.mp flying.apart).2

end flying

/-! ## Where landings send those that wait -/

/-- Where the landing of a flight sends those that are on a ref. -/
def goesTo (commands : List Command) (ref : String) (flight : Flight) : String :=
  if refAt commands flight.index = ref then (noted replacement? commands flight).getD ref else ref

def followed (commands : List Command) (flights : List Flight) (ref : String) : String :=
  flights.foldl (goesTo commands) ref

theorem absorb_cons {commands : List Command} {flight : Flight} {command : Command}
    (found : commands[flight.index]? = some command) (flights : List Flight) :
    absorb commands (flight :: flights) =
      absorb (afterCompletion flight.index command flight.outcome commands) flights := by
  rw [absorb, List.foldl_cons, found, absorb]

theorem length_absorb (commands : List Command) (flights : List Flight) :
    (absorb commands flights).length = commands.length := by
  induction flights generalizing commands with
  | nil => rfl
  | cons flight rest ih =>
    rw [absorb, List.foldl_cons, ← absorb, ih]
    split
    · rw [afterCompletion, List.length_map, List.length_set]
    · rfl

theorem noted_eq {α : Type} (note? : Command → CommandResult → Option α)
    {commands others : List Command} {flight : Flight}
    (same : others[flight.index]? = commands[flight.index]?) :
    noted note? others flight = noted note? commands flight := by
  rw [noted, same, noted]

theorem followed_eq {commands others : List Command} {flights : List Flight}
    (same : ∀ flight ∈ flights, others[flight.index]? = commands[flight.index]?) (ref : String) :
    followed others flights ref = followed commands flights ref := by
  refine List.foldl_ext _ _ ref fun ref flight aloft => ?_
  rw [goesTo, goesTo, refAt, same flight aloft, noted_eq replacement? (same flight aloft), refAt]

theorem entityRef_redirected_eq_goesTo {commands : List Command} {flight : Flight}
    {command other : Command} (found : commands[flight.index]? = some command)
    (unfinished : other.status ≠ .done) :
    (redirected command flight.outcome other).entityRef =
      goesTo commands other.entityRef flight := by
  rw [goesTo, refAt_of_getElem? found, noted, found, Option.bind_some]
  by_cases same : command.entityRef = other.entityRef
  · rw [if_pos same, entityRef_redirected _ _ unfinished same.symm]
  · rw [if_neg same, redirected_of_ne _ _ (Ne.symm same)]

def afterLandings (commands : List Command) (flights : List Flight) (index : Nat)
    (command : Command) : Command :=
  if index ∈ flights.map (·.index) then { command with status := .done }
  else if command.status = .done then command
  else { command with entityRef := followed commands flights command.entityRef }

theorem afterLandings_redirected {commands : List Command} {flight : Flight}
    {flights : List Flight} {index : Nat} {command held : Command}
    (flying : Flying commands (flight :: flights)) (found : commands[flight.index]? = some command)
    (there : commands[index]? = some held) (elsewhere : index ≠ flight.index) :
    afterLandings (afterCompletion flight.index command flight.outcome commands) flights index
        (redirected command flight.outcome held) =
      afterLandings commands (flight :: flights) index held := by
  have kept (other : Flight) (aloft : other ∈ flights) := flying.kept aloft found flight.outcome
  have lands : index ∈ (flight :: flights).map (·.index) ↔ index ∈ flights.map (·.index) := by
    simp [elsewhere]
  simp only [afterLandings, lands, status_redirected]
  split
  next landed =>
    obtain ⟨other, aloft, rfl⟩ := List.mem_map.mp landed
    have still := kept other aloft
    rw [getElem?_afterCompletion found, if_neg elsewhere, there, Option.map_some] at still
    rw [Option.some.inj still]
  next =>
    split
    next done => exact redirected_of_done command flight.outcome done
    next unfinished =>
      rw [followed_eq kept, entityRef_redirected_eq_goesTo found unfinished, redirected_eq]
      rfl

theorem getElem?_absorb_of_flying {commands : List Command} {flights : List Flight}
    (flying : Flying commands flights) (index : Nat) :
    (absorb commands flights)[index]? =
      commands[index]?.map (afterLandings commands flights index) := by
  induction flights generalizing commands with
  | nil =>
    have same : afterLandings commands [] index = id := by
      funext command
      simp [afterLandings, followed]
    rw [same, Option.map_id]
    rfl
  | cons flight rest ih =>
    obtain ⟨command, found, running⟩ := flying.found List.mem_cons_self
    rw [absorb_cons found, ih (flying.tail found _), getElem?_afterCompletion found]
    by_cases here : index = flight.index
    · subst here
      have landed : flight.index ∉ rest.map (·.index) := by
        intro member
        obtain ⟨other, aloft, same⟩ := List.mem_map.mp member
        exact flying.refAt_ne aloft (by rw [same])
      rw [if_pos rfl, found]
      simp [afterLandings, landed]
    · rw [if_neg here, Option.map_map]
      exact Option.map_congr fun held there => afterLandings_redirected flying found there here

theorem countP_isDone_absorb {commands : List Command} {flights : List Flight}
    (flying : Flying commands flights) :
    (absorb commands flights).countP (·.isDone) =
      commands.countP (·.isDone) + flights.length := by
  induction flights generalizing commands with
  | nil => rfl
  | cons flight rest ih =>
    obtain ⟨command, found, running⟩ := flying.found List.mem_cons_self
    rw [absorb_cons found, ih (flying.tail found _),
      countP_isDone_afterCompletion found running, List.length_cons]
    omega

/-! ## Completing everything in flight -/

/-- Completes flights one after the other, each of them as it is completed in the loop. -/
def completeAll? (listener : Listener) (now : Nat) : List Flight → Run → Option Run
  | [], run => some run
  | flight :: rest, run =>
    (complete? listener now flight.index flight.outcome { run with inFlight := rest }).bind
      (completeAll? listener now rest)

def landing (now : Nat) (commands : List Command) (flight : Flight) : RunEvent :=
  .completed now flight.index flight.outcome (refAt commands flight.index)

/-- All that completing the flights of a run one after the other amounts to. -/
structure Drained (now : Nat) (flights : List Flight) (run next : Run) : Prop where
  commands : next.commands = absorb run.commands flights
  createdIds : next.createdIds =
    run.createdIds ++ flights.filterMap (noted replacement? run.commands)
  failedIds : next.failedIds = run.failedIds ++ flights.filterMap (noted failedId? run.commands)
  history : next.history = run.history ++ flights.map (landing now run.commands)
  inFlight : next.inFlight = []
  phase : next.phase = run.phase
  report : next.report = run.report
  stopped : run.stop.requested = true → next.stop.requested = true

theorem Drained.cons {now : Nat} {flight : Flight} {rest : List Flight} {run middle next : Run}
    {listener : Listener} (flying : Flying run.commands (flight :: rest))
    (completed : complete? listener now flight.index flight.outcome
      { run with inFlight := rest } = some middle)
    (drained : Drained now rest middle next) : Drained now (flight :: rest) run next := by
  obtain ⟨command, completion⟩ := completion_of_complete? completed
  have found : run.commands[flight.index]? = some command := completion.found
  have kept (other : Flight) (aloft : other ∈ rest) :
      middle.commands[other.index]? = run.commands[other.index]? := by
    rw [completion.commands]
    exact flying.kept aloft found flight.outcome
  -- What is noted and told of the other flights does not depend on which of them comes first.
  have notes {α : Type} (note? : Command → CommandResult → Option α) :
      (flight :: rest).filterMap (noted note? run.commands) =
        (note? command flight.outcome).toList ++ rest.filterMap (noted note? middle.commands) := by
    have same : rest.filterMap (noted note? middle.commands) =
        rest.filterMap (noted note? run.commands) :=
      List.filterMap_congr fun other aloft => noted_eq note? (kept other aloft)
    rw [same, List.filterMap_cons, noted, found, Option.bind_some]
    cases note? command flight.outcome <;> rfl
  have told : rest.map (landing now middle.commands) = rest.map (landing now run.commands) :=
    List.map_congr_left fun other aloft => by
      rw [landing, landing, refAt, kept other aloft, refAt]
  constructor
  · rw [drained.commands, completion.commands, absorb_cons found]
  · rw [drained.createdIds, completion.createdIds, notes, List.append_assoc]
  · rw [drained.failedIds, completion.failedIds, notes, List.append_assoc]
  · rw [drained.history, completion.history, told, List.map_cons, landing,
      refAt_of_getElem? found, List.append_assoc, List.singleton_append]
  · exact drained.inFlight
  · exact drained.phase.trans completion.phase
  · obtain ⟨_, -, -, rfl⟩ := complete?_eq_some completed
    exact drained.report
  · exact fun stopped => drained.stopped (requested_complete? completed stopped)

theorem exists_completeAll? (listener : Listener) (now : Nat) {run : Run} {flights : List Flight}
    (aloft : run.inFlight = flights) (flying : Flying run.commands flights) :
    ∃ next, run.completeAll? listener now flights = some next ∧ Drained now flights run next := by
  induction flights generalizing run with
  | nil => exact ⟨run, rfl, rfl, by simp, by simp, by simp, aloft, rfl, rfl, id⟩
  | cons flight rest ih =>
    obtain ⟨command, found, running⟩ := flying.found List.mem_cons_self
    obtain ⟨middle, completed⟩ := Option.isSome_iff_exists.mp
      (complete?_isSome listener now flight.outcome { run with inFlight := rest } found running)
    obtain ⟨other, completion⟩ := completion_of_complete? completed
    cases found.symm.trans completion.found
    have onward : Flying middle.commands rest := by
      rw [completion.commands]
      exact flying.tail found flight.outcome
    obtain ⟨next, goesOn, drained⟩ := ih completion.inFlight onward
    refine ⟨next, ?_, drained.cons flying completed⟩
    rw [completeAll?, completed, Option.bind_some, goesOn]

end Run

namespace Machine

variable {σ : Type} {setup : Setup σ} {machine : Machine σ}

theorem step?_of_draining (phase : machine.run.phase = .draining) :
    machine.step? setup 0 =
      some { machine with run := machine.run.drain setup machine.clock } := by
  simp [step?, Run.readyAt?, Run.step, phase]

theorem step?_of_leaving {departure : Departure} (phase : machine.run.phase = .leaving departure) :
    machine.step? setup machine.run.lastEnd =
      some { machine with
        clock := max machine.clock machine.run.lastEnd
        run := machine.run.depart departure } := by
  simp [step?, Run.readyAt?, Run.step, phase]

theorem steps_of_draining {flights : List Flight} {landed : Run}
    (phase : machine.run.phase = .draining) (aloft : machine.run.inFlight = flights)
    (completes : machine.run.completeAll? setup.listener machine.clock flights = some landed) :
    machine.Steps setup { machine with run := { landed with phase := .ended .stopped } } := by
  induction flights generalizing machine with
  | nil =>
    cases completes
    have drained : machine.run.drain setup machine.clock =
        { machine.run with phase := .ended .stopped } := by
      simp [Run.drain, aloft]
    rw [← drained]
    exact .single ⟨0, step?_of_draining phase⟩
  | cons flight rest ih =>
    obtain ⟨next, completed, goesOn⟩ := Option.bind_eq_some_iff.mp completes
    obtain ⟨command, completion⟩ := Run.completion_of_complete? completed
    have drained : machine.run.drain setup machine.clock = next := by
      unfold Flight.outcome at completed
      simp [Run.drain, aloft, completed]
    have due : machine.step? setup 0 = some { machine with run := next } := by
      rw [step?_of_draining phase, drained]
    exact .head ⟨0, due⟩ (ih (completion.phase.trans phase) completion.inFlight goesOn)

/-- A run whose loop is aborted waits for all that was sent off and completes it. -/
theorem runUntil_of_aborted {landed : Run} {horizon : Nat}
    (aborted : machine.run.phase = .leaving .aborted)
    (completes : (machine.run.depart .aborted).completeAll? setup.listener
      (max machine.clock machine.run.lastEnd) machine.run.inFlight = some landed)
    (late : max machine.clock machine.run.lastEnd ≤ horizon) :
    machine.runUntil setup horizon =
      ⟨max machine.clock machine.run.lastEnd, { landed with phase := .ended .stopped },
        machine.client⟩ := by
  have steps : Steps setup
      ⟨max machine.clock machine.run.lastEnd, machine.run.depart .aborted, machine.client⟩
      ⟨max machine.clock machine.run.lastEnd, { landed with phase := .ended .stopped },
        machine.client⟩ := steps_of_draining rfl rfl completes
  exact Steps.runUntil_eq (.head ⟨_, step?_of_leaving aborted⟩ steps) (fun horizon => rfl) late

theorem Reaches.flying {clock limit throttle : Nat} {client : σ} {commands : List Command}
    (reached : (start clock commands limit throttle client).Reaches setup machine)
    (startable : Startable commands) :
    Run.Flying machine.run.commands machine.run.inFlight := by
  have exclusive := reached.exclusive startable
  have aloft (flight : Flight) (member : flight ∈ machine.run.inFlight) :
      ∃ command, machine.run.commands[flight.index]? = some command ∧ command.status = .running :=
    (reached.tracked.aloft member).2
  constructor
  · exact fun flight member => Option.map_eq_some_iff.mpr (aloft flight member)
  · have indices := reached.tracked.apart
    rw [List.Nodup, List.pairwise_map] at indices ⊢
    refine indices.imp_of_mem fun {one other} isOne isOther apart same => ?_
    obtain ⟨former, here, oneRuns⟩ := aloft one isOne
    obtain ⟨latter, there, otherRuns⟩ := aloft other isOther
    rw [Run.refAt_of_getElem? here, Run.refAt_of_getElem? there] at same
    exact apart (exclusive.apart here there oneRuns otherRuns same)

end Machine

end EditBatch

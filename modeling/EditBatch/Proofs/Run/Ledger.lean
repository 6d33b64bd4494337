import EditBatch.Proofs.Run.Flights

/-! What runs with one slot do, whatever the time.

Such a run carries out one waiting command after the other. As long as nobody else uses its client,
each of them meets the client as the one before left it; otherwise the client may have changed in
between. A ledger says what that comes to. Requests to stop, pauses and failures of the loop decide
how far a run gets, and nothing else.
-/

set_option autoImplicit false

namespace EditBatch

/-- A command as it was sent off, the calls that were made for it, and what came of them. -/
structure Entry where
  index : Nat
  command : Command
  calls : List EditCall
  result : CommandResult

def RunEvent.dispatch? : RunEvent → Option (Nat × String)
  | .dispatched _ index ref _ => some (index, ref)
  | .called _ _ _ | .completed _ _ _ _ => none

namespace Run

variable {σ : Type}

def dispatches (run : Run) : List (Nat × String) := run.history.filterMap RunEvent.dispatch?

def calls (run : Run) : List EditCall := run.callLog.map (·.call)

/-- A run tells of entries, of which some may still be in flight. -/
structure Tells (sent landed : List Entry) (run : Run) : Prop where
  dispatches : run.dispatches = sent.map fun entry => (entry.index, entry.command.entityRef)
  calls : run.calls = sent.flatMap (·.calls)
  outcomes : run.outcomes = landed.map fun entry => (entry.index, entry.result)
  createdIds : run.createdIds =
    landed.flatMap fun entry => (replacement? entry.command entry.result).toList
  failedIds : run.failedIds =
    landed.flatMap fun entry => (failedId? entry.command entry.result).toList

theorem Tells.alike {sent landed : List Entry} {run next : Run} (tells : run.Tells sent landed)
    (alike : run.Alike next) : next.Tells sent landed := by
  constructor
  · rw [Run.dispatches, alike.history]
    exact tells.dispatches
  · rw [Run.calls, callLog, alike.history]
    exact tells.calls
  · rw [Run.outcomes, alike.history]
    exact tells.outcomes
  · rw [alike.createdIds]
    exact tells.createdIds
  · rw [alike.failedIds]
    exact tells.failedIds

def entry (setup : Setup σ) (now index : Nat) (command : Command) (client : σ) : Entry where
  index := index
  command := command
  calls := (performance setup now command client).calls.map (·.call)
  result := (Flight.ofPerformance index (performance setup now command client)).outcome

theorem Tells.dispatch {setup : Setup σ} {now index : Nat} {entries : List Entry}
    {command : Command} {client : σ} {run : Run} (tells : run.Tells entries entries) :
    (run.dispatch setup now index command client).1.Tells
      (entries ++ [entry setup now index command client]) entries := by
  have history := run.history_dispatch setup now index command client
  constructor
  · rw [Run.dispatches, history, List.filterMap_append, List.map_append]
    refine congrArg₂ (· ++ ·) tells.dispatches ?_
    simp [dispatchEvents, RunEvent.dispatch?, entry]
  · rw [Run.calls, callLog, history, List.filterMap_append, List.map_append, List.flatMap_append]
    refine congrArg₂ (· ++ ·) tells.calls ?_
    simp [dispatchEvents, entry, List.filterMap_map]
  · rw [outcomes_of_dispatched history]
    exact tells.outcomes
  · exact tells.createdIds
  · exact tells.failedIds

theorem Tells.complete {now : Nat} {entries : List Entry} {last : Entry} {run next : Run}
    (tells : run.Tells (entries ++ [last]) entries)
    (history : next.history =
      run.history ++ [.completed now last.index last.result last.command.entityRef])
    (createdIds : next.createdIds =
      run.createdIds ++ (replacement? last.command last.result).toList)
    (failedIds : next.failedIds = run.failedIds ++ (failedId? last.command last.result).toList) :
    next.Tells (entries ++ [last]) (entries ++ [last]) := by
  constructor
  · rw [Run.dispatches, history, List.filterMap_append]
    exact (List.append_nil _).trans tells.dispatches
  · rw [Run.calls, callLog, history, List.filterMap_append, List.map_append]
    exact (List.append_nil _).trans tells.calls
  · rw [outcomes_of_completed history, tells.outcomes, List.map_append, List.map_singleton]
  · rw [createdIds, tells.createdIds, List.flatMap_append, List.flatMap_singleton]
  · rw [failedIds, tells.failedIds, List.flatMap_append, List.flatMap_singleton]

end Run

/-- What commands and client have come to, and the entries that led there. -/
structure Ledger (σ : Type) where
  commands : List Command
  client : σ
  entries : List Entry := []

namespace Ledger

variable {σ : Type} {setup : Setup σ}

def enter (setup : Setup σ) (now index : Nat) (command : Command) (ledger : Ledger σ) :
    Ledger σ where
  commands := Run.afterCompletion index command
    (Run.entry setup now index command ledger.client).result ledger.commands
  client := (Run.performance setup now command ledger.client).client
  entries := ledger.entries ++ [Run.entry setup now index command ledger.client]

/-- The command that is next is carried out, at some time. -/
inductive Turn (setup : Setup σ) (ledger : Ledger σ) : Ledger σ → Prop where
  | enter {index : Nat} {command : Command} (now : Nat)
      (eligible : Command.nextEligible? ledger.commands = some index)
      (found : ledger.commands[index]? = some command) :
      Turn setup ledger (ledger.enter setup now index command)

def Course (setup : Setup σ) : Ledger σ → Ledger σ → Prop := Relation.ReflTransGen (Turn setup)

theorem Turn.startable {ledger next : Ledger σ} (turn : ledger.Turn setup next)
    (startable : Startable ledger.commands) : Startable next.commands := by
  cases turn with
  | enter now eligible found =>
    intro command member
    obtain ⟨position, is⟩ := List.mem_iff_getElem?.mp member
    rcases Run.cases_of_completed found is with ⟨-, rfl⟩ | ⟨-, before, was, rfl⟩
    · exact .inr rfl
    · rw [Run.status_redirected]
      exact startable before (List.mem_of_getElem? was)

theorem Course.startable {first last : Ledger σ} (course : first.Course setup last)
    (startable : Startable first.commands) : Startable last.commands := by
  induction course with
  | refl => exact startable
  | tail _ turn ih => exact turn.startable ih

/-- A course on which others may have used the client between two commands. -/
def SharedCourse (setup : Setup σ) : Ledger σ → Ledger σ → Prop :=
  Relation.ReflTransGen fun ledger next =>
    ledger.Turn setup next ∨ ∃ client, next = { ledger with client }

theorem SharedCourse.startable {first last : Ledger σ} (course : first.SharedCourse setup last)
    (startable : Startable first.commands) : Startable last.commands := by
  induction course with
  | refl => exact startable
  | tail _ further ih =>
    rcases further with turn | ⟨client, rfl⟩
    · exact turn.startable ih
    · exact ih

end Ledger

namespace Run

variable {σ : Type}

/-- A run is where the ledger is, or has the next command in flight. -/
inductive Matches (setup : Setup σ) (ledger : Ledger σ) (client : σ) (run : Run) : Prop where
  | between (landed : run.inFlight = []) (commands : run.commands = ledger.commands)
      (same : client = ledger.client) (tells : run.Tells ledger.entries ledger.entries)
  | during {index now : Nat} {command : Command}
      (eligible : Command.nextEligible? ledger.commands = some index)
      (found : ledger.commands[index]? = some command)
      (aloft : run.inFlight =
        [.ofPerformance index (Run.performance setup now command ledger.client)])
      (commands : run.commands = ledger.commands.set index { command with status := .running })
      (same : client = (Run.performance setup now command ledger.client).client)
      (tells : run.Tells
        (ledger.entries ++ [Run.entry setup now index command ledger.client]) ledger.entries)

variable {setup : Setup σ} {ledger : Ledger σ} {client : σ} {run next : Run}

theorem Matches.alike (is : run.Matches setup ledger client) (alike : run.Alike next) :
    next.Matches setup ledger client := by
  cases is with
  | between landed commands same tells =>
    exact .between (alike.inFlight.trans landed) (alike.commands.trans commands) same
      (tells.alike alike)
  | during eligible found aloft commands same tells =>
    exact .during eligible found (alike.inFlight.trans aloft) (alike.commands.trans commands)
      same (tells.alike alike)

theorem Matches.lend (is : run.Matches setup ledger client) (landed : run.inFlight = [])
    (other : σ) : run.Matches setup { ledger with client := other } other := by
  cases is with
  | between _ commands _ tells => exact .between landed commands rfl tells
  | during _ _ aloft => simp [landed] at aloft

theorem landed_of_single {now index : Nat} (single : run.limit = 1)
    (allowed : run.dispatchable? now = some index) : run.inFlight = [] := by
  obtain ⟨⟨-, room, -⟩, -⟩ := Run.dispatchable?_eq_some_iff.mp allowed
  exact List.length_eq_zero_iff.mp (by omega)

theorem Matches.dispatch {now index : Nat} {command : Command}
    (is : run.Matches setup ledger client) (single : run.limit = 1)
    (allowed : run.dispatchable? now = some index) (found : run.commands[index]? = some command) :
    (run.dispatch setup now index command client).1.Matches setup ledger
      (run.dispatch setup now index command client).2 := by
  have eligible := (Run.dispatchable?_eq_some_iff.mp allowed).2
  cases is with
  | between landed commands same tells =>
    rw [commands] at eligible found
    rw [same]
    have aloft := Run.inFlight_dispatch setup now index command run ledger.client
    rw [landed, List.nil_append] at aloft
    refine .during eligible found aloft ?_ rfl tells.dispatch
    rw [Run.commands_dispatch, commands]
  | during _ _ aloft => simp [landed_of_single single allowed] at aloft

theorem Matches.complete {now : Nat} {flight : Flight} {before after : List Flight}
    {command : Command} {landed : Run} (is : run.Matches setup ledger client)
    (flights : run.inFlight = before ++ flight :: after)
    (completion : Run.Completion now flight.index command flight.outcome
      { run with inFlight := before ++ after } landed)
    (same : landed.Alike { next with notBefore := landed.notBefore }) :
    ∃ entered, ledger.Turn setup entered ∧ next.Matches setup entered client := by
  cases is with
  | between none => simp [none] at flights
  | @during index moment held eligible found aloft commands holder tells =>
    rw [aloft] at flights
    obtain ⟨rfl, rfl, rfl⟩ : before = [] ∧ flight = .ofPerformance index
        (Run.performance setup moment held ledger.client) ∧ after = [] := by
      cases before with
      | nil => simpa [eq_comm] using flights
      | cons other others => simp at flights
    obtain rfl : command = { held with status := .running } := by
      have runs : run.commands[index]? = some command := completion.found
      rw [commands, Run.getElem?_sent found, if_pos rfl] at runs
      exact (Option.some.inj runs).symm
    refine ⟨_, .enter moment eligible found, .between ?_ ?_ holder ?_⟩
    · exact same.inFlight.trans completion.inFlight
    · refine same.commands.trans (completion.commands.trans ?_)
      simp only [commands, Run.afterCompletion, Flight.index_ofPerformance, List.set_set]
      rfl
    · exact tells.complete (same.history.trans completion.history)
        (same.createdIds.trans completion.createdIds) (same.failedIds.trans completion.failedIds)

end Run

namespace Machine

variable {σ : Type}

def HappensAlone (setup : Setup σ) (machine next : Machine σ) : Prop :=
  machine.Happens setup next ∧
    ((∃ horizon, machine.step? setup horizon = some next) ∨ next.client = machine.client)

def Alone (setup : Setup σ) : Machine σ → Machine σ → Prop :=
  Relation.ReflTransGen (HappensAlone setup)

theorem Alone.reaches {setup : Setup σ} {first last : Machine σ}
    (alone : first.Alone setup last) : first.Reaches setup last :=
  Relation.ReflTransGen.mono (fun _ _ happens => happens.1) _ _ alone

theorem Steps.alone {setup : Setup σ} {first last : Machine σ}
    (steps : first.Steps setup last) : first.Alone setup last :=
  Relation.ReflTransGen.mono
    (fun _ _ ⟨horizon, due⟩ => ⟨.step horizon due, .inl ⟨horizon, due⟩⟩) _ _ steps

/-- A fatal failure has broken the run off. -/
def Lost (machine : Machine σ) : Prop :=
  machine.run.phase = .leaving .crashed ∨ machine.run.phase = .crashed

section matches_

variable {setup : Setup σ} {ledger : Ledger σ} {client : σ} {first : List Command}
  {machine next : Machine σ}

/-- At most one turn of the ledger leads to where the run is, unless it is lost. A client of its own
is the one that the ledger has. -/
def Carried (setup : Setup σ) (ledger : Ledger σ) (own : Prop) (machine : Machine σ) : Prop :=
  machine.Lost ∨ ∃ after current, Relation.ReflGen (Ledger.Turn setup) ledger after ∧
    (own → current = machine.client) ∧ machine.run.Matches setup after current

theorem Carried.mono {own less : Prop} (carried : machine.Carried setup ledger own)
    (weaker : less → own) : machine.Carried setup ledger less :=
  carried.imp_right fun ⟨after, current, turn, same, is⟩ =>
    ⟨after, current, turn, fun given => same (weaker given), is⟩

theorem Move.carried (move : machine.Move setup next)
    (is : machine.run.Matches setup ledger client) (tracked : machine.run.Tracked first)
    (single : machine.run.limit = 1) (met : machine.run.inFlight = [] → client = machine.client) :
    next.Carried setup ledger (client = machine.client) := by
  have stays (alike : machine.run.Alike next.run) (same : next.client = machine.client) :
      next.Carried setup ledger (client = machine.client) :=
    .inr ⟨ledger, client, .refl, fun own => own.trans same.symm, is.alike alike⟩
  cases move with
  | begin | overflow | wake | quit | finish => exact stays (Run.alike_update _ _ _ _ _ _) rfl
  | turn => exact stays (Run.alike_turn _ _ _) rfl
  | depart => exact stays (Run.alike_depart _ _) rfl
  | dispatch phase allowed found =>
    obtain rfl := met (Run.landed_of_single single allowed)
    exact .inr ⟨ledger, _, .refl, fun _ => rfl, is.dispatch single allowed found⟩
  | @land time flight result rest landed ready waits popped known completed =>
    obtain ⟨before, after, flights, -, rfl⟩ := Run.popEnded?_spec popped
    obtain ⟨command, completion⟩ := Run.completion_of_complete? completed
    obtain rfl : flight.outcome = result := by rw [Flight.outcome, known, Option.getD_some]
    obtain ⟨entered, turn, further⟩ : ∃ entered, ledger.Turn setup entered ∧
        (landed.resumed (max machine.clock time)).Matches setup entered client :=
      is.complete flights completion ⟨rfl, rfl, rfl, rfl, rfl, rfl, rfl, rfl, rfl⟩
    exact .inr ⟨entered, client, .single turn, id, further⟩
  | lose ready waits popped lost =>
    obtain ⟨before, after, flights, -, rfl⟩ := Run.popEnded?_spec popped
    rcases lost with ⟨-, rfl⟩ | ⟨result, -, -, failed⟩
    · exact .inl (.inl rfl)
    · exact absurd failed (complete?_ne_none tracked (Run.mem_of_leaves flights) rfl)
  | @drain flight rest drained phase head completed =>
    obtain ⟨command, completion⟩ := Run.completion_of_complete? completed
    have flights : machine.run.inFlight = [] ++ flight :: rest := head
    obtain ⟨entered, turn, further⟩ := is.complete flights completion (.refl _)
    exact .inr ⟨entered, client, .single turn, id, further⟩
  | skip phase head failed =>
    have member : _ ∈ machine.run.inFlight := head ▸ List.mem_cons_self
    exact absurd failed (complete?_ne_none tracked member rfl)

theorem Lost.happens (lost : machine.Lost) (happens : machine.Happens setup next) :
    next.Lost := by
  cases happens with
  | wait | share | register | report | finish => exact lost
  | cancel => simpa [Lost] using lost
  | fail looping => rcases lost with lost | lost <;> simp [Run.isLooping, lost] at looping
  | step horizon due =>
    cases move_of_step due with
    | begin phase | overflow phase | dispatch phase | turn phase | drain phase | skip phase
    | finish phase => simp [Lost, phase] at lost
    | land _ waits | lose _ waits | wake _ waits | quit _ waits =>
      have looping := isLooping_of_waits waits
      rcases lost with lost | lost <;> simp [Run.isLooping, lost] at looping
    | depart phase =>
      rcases lost with leaving | crashed
      · cases phase.symm.trans leaving
        exact .inr rfl
      · simp [phase] at crashed

theorem Happens.alike_of_outside (happens : machine.Happens setup next) :
    (∃ horizon, machine.step? setup horizon = some next) ∨ machine.run.Alike next.run := by
  cases happens with
  | step horizon due => exact .inl ⟨horizon, due⟩
  | wait | share => exact .inr (.refl _)
  | cancel => exact .inr (Run.alike_cancel _)
  | fail | register | report | finish => exact .inr (Run.alike_update _ _ _ _ _ _)

theorem Happens.carried (happens : machine.Happens setup next)
    (is : machine.run.Matches setup ledger client) (tracked : machine.run.Tracked first)
    (single : machine.run.limit = 1) (met : machine.run.inFlight = [] → client = machine.client) :
    next.Carried setup ledger (client = machine.client ∧ machine.HappensAlone setup next) := by
  by_cases stepped : ∃ horizon, machine.step? setup horizon = some next
  · obtain ⟨horizon, due⟩ := stepped
    exact ((move_of_step due).carried is tracked single met).mono And.left
  · -- What is no step can only have touched the client, and that is not the ledger's.
    refine .inr ⟨ledger, client, .refl, fun ⟨same, alone⟩ => ?_,
      is.alike (happens.alike_of_outside.resolve_left stepped)⟩
    exact same.trans (alone.2.resolve_left stepped).symm

theorem matches_start (setup : Setup σ) (clock throttle : Nat) (commands : List Command)
    (client : σ) :
    (start clock commands 1 throttle client).run.Matches setup { commands, client } client :=
  .between rfl rfl rfl ⟨rfl, rfl, rfl, rfl, rfl⟩

variable {clock throttle : Nat} {commands : List Command} {outcome : Outcome}

/-- A run with one slot whose client nobody else uses goes the course of a ledger, unless a fatal
failure breaks it off. -/
theorem Alone.matches_ (alone : (start clock commands 1 throttle client).Alone setup machine) :
    machine.Lost ∨ ∃ ledger : Ledger σ, Ledger.Course setup { commands, client } ledger ∧
      machine.run.Matches setup ledger machine.client := by
  induction alone with
  | refl => exact .inr ⟨_, .refl, matches_start setup clock throttle commands client⟩
  | tail before happens ih =>
    have reached := Alone.reaches before
    rcases ih with lost | ⟨ledger, course, is⟩
    · exact .inl (lost.happens happens.1)
    · rcases happens.1.carried is (Reaches.tracked reached) (Reaches.limits reached).1
        (fun _ => rfl) with lost | ⟨after, current, turn, own, further⟩
      · exact .inl lost
      · obtain rfl := own ⟨rfl, happens⟩
        exact .inr ⟨after, course.trans turn.to_reflTransGen, further⟩

theorem Reaches.matches_
    (reached : (start clock commands 1 throttle client).Reaches setup machine) :
    machine.Lost ∨ ∃ (ledger : Ledger σ) (current : σ),
      Ledger.SharedCourse setup { commands, client } ledger ∧
        machine.run.Matches setup ledger current := by
  induction reached with
  | refl => exact .inr ⟨_, _, .refl, matches_start setup clock throttle commands client⟩
  | @tail machine next before happens ih =>
    rcases ih with lost | ⟨ledger, current, course, is⟩
    · exact .inl (lost.happens happens)
    · -- With nothing in flight the ledger takes up the client as others have left it.
      obtain ⟨lent, current, course, is, met⟩ : ∃ (lent : Ledger σ) (current : σ),
          Ledger.SharedCourse setup { commands, client } lent ∧
            machine.run.Matches setup lent current ∧
              (machine.run.inFlight = [] → current = machine.client) := by
        by_cases landed : machine.run.inFlight = []
        · exact ⟨_, _, .tail course (.inr ⟨machine.client, rfl⟩), is.lend landed _, fun _ => rfl⟩
        · exact ⟨ledger, current, course, is, fun none => absurd none landed⟩
      rcases happens.carried is (Reaches.tracked before) (Reaches.limits before).1 met with
        lost | ⟨after, current, turn, -, further⟩
      · exact .inl lost
      · exact .inr ⟨after, current, course.trans
          (Relation.ReflTransGen.mono (fun _ _ => .inl) _ _ turn.to_reflTransGen), further⟩

theorem Reaches.between_of_ended
    (reached : (start clock commands 1 throttle client).Reaches setup machine)
    (ended : machine.run.phase = .ended outcome) {current : σ}
    (is : machine.run.Matches setup ledger current) :
    machine.run.commands = ledger.commands ∧ current = ledger.client ∧
      machine.run.Tells ledger.entries ledger.entries := by
  have landed := reached.aired.landed (by simp [Run.decision?, ended])
  cases is with
  | between _ commands same tells => exact ⟨commands, same, tells⟩
  | during _ _ aloft => simp [landed] at aloft

theorem not_lost_of_ended (ended : machine.run.phase = .ended outcome) : ¬ machine.Lost := by
  rintro (leaving | crashed)
  · simp [ended] at leaving
  · simp [ended] at crashed

theorem Alone.ledger_of_ended
    (alone : (start clock commands 1 throttle client).Alone setup machine)
    (ended : machine.run.phase = .ended outcome) :
    ∃ ledger : Ledger σ, Ledger.Course setup { commands, client } ledger ∧
      machine.run.commands = ledger.commands ∧ machine.client = ledger.client ∧
      machine.run.Tells ledger.entries ledger.entries := by
  obtain ⟨ledger, course, is⟩ := alone.matches_.resolve_left (not_lost_of_ended ended)
  exact ⟨ledger, course, alone.reaches.between_of_ended ended is⟩

theorem Reaches.ledger_of_ended
    (reached : (start clock commands 1 throttle client).Reaches setup machine)
    (ended : machine.run.phase = .ended outcome) :
    ∃ ledger : Ledger σ, Ledger.SharedCourse setup { commands, client } ledger ∧
      machine.run.commands = ledger.commands ∧
      machine.run.Tells ledger.entries ledger.entries := by
  obtain ⟨ledger, current, course, is⟩ := reached.matches_.resolve_left (not_lost_of_ended ended)
  obtain ⟨commands, -, tells⟩ := reached.between_of_ended ended is
  exact ⟨ledger, course, commands, tells⟩

end matches_

/-! ## Runs that complete -/

def Exhausted (machine : Machine σ) : Prop :=
  machine.run.decision? = some .completed →
    ∀ command ∈ machine.run.commands, command.status = .done

section exhausted

variable {setup : Setup σ} {machine next : Machine σ}

theorem Exhausted.move (exhausted : machine.Exhausted) (move : machine.Move setup next) :
    next.Exhausted := by
  intro comes
  cases move with
  | begin | overflow | wake | quit | finish => simp [Run.decision?] at comes
  | dispatch phase => simp [Run.decision?, Run.dispatch_phase, phase] at comes
  | turn =>
    simp only at comes ⊢
    rw [(Run.alike_turn setup machine.clock machine.run).commands]
    unfold Run.turn at comes
    split at comes
    · simp [Run.decision?] at comes
    · split at comes
      next idle => simpa [Command.isDone] using idle.2
      · simp [Run.decision?] at comes
  | @land time _ _ _ landed =>
    have on := Run.isLooping_resumed (max machine.clock time) landed
    simp [Run.decision?_of_looping on] at comes
  | lose ready waits popped lost =>
    rcases lost with ⟨-, rfl⟩ | ⟨result, -, rfl, -⟩ <;> simp [Run.decision?] at comes
  | @depart departure phase =>
    cases departure with
    | returned former =>
      have same : former = .completed := Option.some.inj comes
      exact exhausted (by simp [Run.decision?, phase, same])
    | aborted | crashed => simp [Run.depart, Run.decision?] at comes
  | drain phase first completed =>
    obtain ⟨command, completion⟩ := Run.completion_of_complete? completed
    simp [Run.decision?, completion.phase, phase] at comes
  | skip phase => simp [Run.decision?, phase] at comes

theorem Reaches.exhausted {first : Machine σ} (reached : first.Reaches setup machine)
    (initially : first.Exhausted) : machine.Exhausted := by
  refine reached.invariant Exhausted initially fun happens exhausted => ?_
  cases happens with
  | step horizon due => exact exhausted.move (move_of_step due)
  | wait | share | register | report | finish => exact exhausted
  | cancel =>
    intro comes
    rw [(Run.alike_cancel _).commands]
    exact exhausted (by simpa [Run.decision?] using comes)
  | fail => exact fun comes => by simp [Run.decision?] at comes

theorem Reaches.done_of_completed {clock limit throttle : Nat} {client : σ}
    {commands : List Command}
    (reached : (start clock commands limit throttle client).Reaches setup machine)
    (completed : machine.run.phase = .ended .completed) :
    ∀ command ∈ machine.run.commands, command.status = .done :=
  reached.exhausted (fun comes => by simp [start, Run.decision?] at comes)
    (by simp [Run.decision?, completed])

end exhausted

end Machine

end EditBatch

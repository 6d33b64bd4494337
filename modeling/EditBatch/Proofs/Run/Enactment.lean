import EditBatch.Proofs.Command.Calls
import EditBatch.Proofs.Run.Exclusion
import EditBatch.Proofs.Run.Once
import EditBatch.Proofs.Run.Timing

/-! Every command that is sent off is carried out once, as the command that it then stays.

Its mode, its ref and its texts do not change any more. So whatever is told of it later, its
calls in their order, what is in flight for it and what it is completed with, comes of one
performance of the command that the list has at its position.
-/

set_option autoImplicit false

namespace EditBatch

def RunEvent.callFor? (index : Nat) : RunEvent → Option EditCall
  | .called _ position call => if position = index then some call else none
  | .dispatched _ _ _ _ | .completed _ _ _ _ => none

namespace Run

variable {σ : Type}

def callsFor (index : Nat) (run : Run) : List EditCall :=
  run.history.filterMap (RunEvent.callFor? index)

theorem performance_status (setup : Setup σ) (now : Nat) (command : Command) (status : Status)
    (client : σ) :
    performance setup now { command with status } client =
      performance setup now command client := by
  unfold performance
  rw [Execution.execution_status]

theorem success_of_outcome {done : Performance σ (Except Escape CommandResult)} {index : Nat}
    {newId? : Option String}
    (success : (Flight.ofPerformance index done).outcome = .success newId?) :
    done.result = .ok (.success newId?) := by
  unfold Flight.outcome at success
  rw [Flight.result_ofPerformance] at success
  cases result : done.result with
  | ok value =>
    rw [result] at success
    exact congrArg Except.ok success
  | error escape =>
    rw [result] at success
    cases escape <;> simp [settle] at success

theorem filterMap_callFor?_dispatchEvents (now index position : Nat) (ref : String)
    (done : Performance σ (Except Escape CommandResult)) :
    (dispatchEvents now index ref done).filterMap (RunEvent.callFor? position) =
      if index = position then done.calls.map (·.call) else [] := by
  by_cases same : index = position
  · simp [dispatchEvents, List.filterMap_cons, List.filterMap_map, RunEvent.callFor?, same,
      Function.comp_def]
  · simp [dispatchEvents, RunEvent.callFor?, same]

theorem mem_callsFor {run : Run} {index : Nat} {call : EditCall} :
    call ∈ run.callsFor index ↔ ∃ time, .called time index call ∈ run.history := by
  unfold callsFor
  rw [List.mem_filterMap]
  constructor
  · rintro ⟨event, member, is⟩
    cases event <;> simp [RunEvent.callFor?] at is
    obtain ⟨rfl, rfl⟩ := is
    exact ⟨_, member⟩
  · rintro ⟨time, member⟩
    exact ⟨_, member, by simp [RunEvent.callFor?]⟩

theorem Silent.callsFor_eq_nil {run : Run} (silent : run.Silent) {index : Nat}
    {command : Command} (found : run.commands[index]? = some command)
    (waiting : command.status = .waiting) : run.callsFor index = [] := by
  rw [List.eq_nil_iff_forall_not_mem]
  intro call member
  obtain ⟨time, told⟩ := mem_callsFor.mp member
  exact silent _ told command found waiting

/-- All that is known of the command at a position comes of one performance. -/
structure StemsFrom (index : Nat) (done : Performance σ (Except Escape CommandResult))
    (run : Run) : Prop where
  calls : run.callsFor index = done.calls.map (·.call)
  aloft : ∀ {flight : Flight}, flight ∈ run.inFlight → flight.index = index →
    flight = .ofPerformance index done
  completed : ∀ {time : Nat} {result : CommandResult} {ref : String},
    .completed time index result ref ∈ run.history →
    result = (Flight.ofPerformance index done).outcome

theorem StemsFrom.change {setup : Setup σ} {first : List Command} {now index : Nat}
    {run next : Run} {done : Performance σ (Except Escape CommandResult)}
    (stems : run.StemsFrom index done) (tracked : run.Tracked first) (sent : index ∈ run.sent)
    (change : run.Change setup now next) : next.StemsFrom index done := by
  cases change with
  | none commands history flights =>
    constructor
    · rw [callsFor, history]
      exact stems.calls
    · exact fun member => stems.aloft (flights.subset member)
    · rw [history]
      exact stems.completed
  | @dispatch other command client eligible found commands history flights =>
    have waiting := (Command.nextEligible?_spec eligible found).1
    have bound : other < first.length := by
      rw [← tracked.length]
      exact (List.getElem?_eq_some_iff.mp found).1
    -- What is sent off now was not sent off before.
    have apart : other ≠ index := by
      rintro rfl
      exact ((tracked.sent_iff (List.getElem?_eq_getElem bound) found).mp sent).2 waiting
    constructor
    · rw [callsFor, history, List.filterMap_append, filterMap_callFor?_dispatchEvents,
        if_neg apart, List.append_nil]
      exact stems.calls
    · intro flight member isFlight
      rw [flights, List.mem_append, List.mem_singleton] at member
      rcases member with old | rfl
      · exact stems.aloft old isFlight
      · exact absurd isFlight apart
    · intro time result ref member
      rw [history, List.mem_append] at member
      exact stems.completed (member.resolve_right (by simp [dispatchEvents]))
  | complete found running commands history flights left =>
    constructor
    · rw [callsFor, history, List.filterMap_append]
      simp only [List.filterMap_cons, List.filterMap_nil, RunEvent.callFor?, List.append_nil]
      exact stems.calls
    · intro flight member
      rw [left] at member
      exact stems.aloft ((sublist_of_leaves flights).subset member)
    · intro time result ref member
      rw [history, List.mem_append, List.mem_singleton] at member
      rcases member with old | new
      · exact stems.completed old
      · cases new
        rw [← stems.aloft (mem_of_leaves flights) rfl]

theorem stemsFrom_dispatch {first : List Command} {index now : Nat} {ref : String}
    {run next : Run} {command : Command} {done : Performance σ (Except Escape CommandResult)}
    (silent : run.Silent) (tracked : run.Tracked first) (waiting : command.status = .waiting)
    (found : run.commands[index]? = some command)
    (history : next.history = run.history ++ dispatchEvents now index ref done)
    (flights : next.inFlight = run.inFlight ++ [.ofPerformance index done]) :
    next.StemsFrom index done := by
  constructor
  · have none := silent.callsFor_eq_nil found waiting
    rw [callsFor] at none
    rw [callsFor, history, List.filterMap_append, filterMap_callFor?_dispatchEvents, if_pos rfl,
      none, List.nil_append]
  · intro flight member isFlight
    rw [flights, List.mem_append, List.mem_singleton] at member
    rcases member with old | rfl
    · obtain ⟨-, other, there, running⟩ := tracked.aloft old
      rw [isFlight, found] at there
      cases there
      simp [waiting] at running
    · rfl
  · intro time result ref member
    rw [history, List.mem_append] at member
    have old := member.resolve_right (by simp [dispatchEvents])
    exact absurd waiting (silent _ old command found)

/-- The performance is one of the command as it is now, for nothing that it depends on changes
after it has been sent off. -/
def Enacted (setup : Setup σ) (run : Run) : Prop :=
  ∀ index command, run.commands[index]? = some command → index ∈ run.sent →
    ∃ now client, run.StemsFrom index (performance setup now command client)

theorem Enacted.change {setup : Setup σ} {first : List Command} {now : Nat} {run next : Run}
    (enacted : run.Enacted setup) (exclusive : run.Exclusive) (silent : run.Silent)
    (tracked : run.Tracked first) (change : run.Change setup now next) : next.Enacted setup := by
  intro index after is sent
  by_cases before : index ∈ run.sent
  · have started : ∀ command, run.commands[index]? = some command → command.status ≠ .waiting := by
      intro command was
      obtain ⟨time, ref, endsAt, told⟩ : ∃ time ref endsAt,
          .dispatched time index ref endsAt ∈ run.history := by
        obtain ⟨event, member, isEvent⟩ := List.mem_filterMap.mp before
        cases event <;> simp [RunEvent.sentIndex?] at isEvent
        subst isEvent
        exact ⟨_, _, _, member⟩
      exact silent _ told command was
    obtain ⟨command, was, same⟩ := exclusive.unchanged change started is
    obtain ⟨moment, client, stems⟩ := enacted index command was before
    refine ⟨moment, client, ?_⟩
    rw [same, performance_status]
    exact stems.change tracked before change
  · cases change with
    | none commands history =>
      rw [Run.sent, history] at sent
      exact absurd sent before
    | complete found running commands history =>
      rw [sent_of_completed history] at sent
      exact absurd sent before
    | @dispatch other command client eligible found commands history flights =>
      rw [sent_of_dispatched history, List.mem_append, List.mem_singleton] at sent
      obtain rfl := sent.resolve_left before
      have waiting := (Command.nextEligible?_spec eligible found).1
      rw [commands, getElem?_sent found, if_pos rfl] at is
      cases is
      refine ⟨now, client, ?_⟩
      rw [performance_status]
      exact stemsFrom_dispatch silent tracked waiting found history flights

def SentBefore (run : Run) : Prop := ∀ event ∈ run.history, event.index ∈ run.sent

theorem SentBefore.change {setup : Setup σ} {first : List Command} {now : Nat} {run next : Run}
    (before : run.SentBefore) (tracked : run.Tracked first) (change : run.Change setup now next) :
    next.SentBefore := by
  intro event member
  cases change with
  | none commands history =>
    rw [history] at member
    rw [sent, history]
    exact before event member
  | dispatch client eligible found commands history =>
    rw [history, List.mem_append] at member
    rw [sent_of_dispatched history, List.mem_append, List.mem_singleton]
    exact member.imp (before event) index_of_mem_dispatchEvents
  | complete found running commands history flights =>
    rw [history, List.mem_append, List.mem_singleton] at member
    rw [sent_of_completed history]
    rcases member with old | rfl
    · exact before event old
    · exact (tracked.aloft (mem_of_leaves flights)).1

end Run

namespace Machine

variable {σ : Type}

theorem Reaches.sentBefore {setup : Setup σ} {clock limit throttle : Nat} {client : σ}
    {commands : List Command} {machine : Machine σ}
    (reached : (start clock commands limit throttle client).Reaches setup machine) :
    machine.run.SentBefore := by
  induction reached with
  | refl => simp [Run.SentBefore, start]
  | tail reached happens before => exact before.change (Reaches.tracked reached) happens.change

theorem Reaches.exists_of_told {setup : Setup σ} {clock limit throttle : Nat} {client : σ}
    {commands : List Command} {machine : Machine σ} {event : RunEvent}
    (reached : (start clock commands limit throttle client).Reaches setup machine)
    (startable : Startable commands) (member : event ∈ machine.run.history) :
    ∃ command, machine.run.commands[event.index]? = some command := by
  obtain ⟨sending, told, isSending⟩ := List.mem_filterMap.mp (reached.sentBefore event member)
  cases sending <;> simp [RunEvent.sentIndex?] at isSending
  subst isSending
  obtain ⟨command, is, -⟩ := (reached.exclusive startable).kept told
  exact ⟨command, is⟩

theorem Reaches.enacted {setup : Setup σ} {clock limit throttle : Nat} {client : σ}
    {commands : List Command} {machine : Machine σ}
    (reached : (start clock commands limit throttle client).Reaches setup machine)
    (startable : Startable commands) : machine.run.Enacted setup := by
  induction reached with
  | refl =>
    intro index command is sent
    simp [start, Run.sent] at sent
  | tail reached happens enacted =>
    exact enacted.change (Reaches.exclusive reached startable) (Reaches.timely reached).silent
      (Reaches.tracked reached) happens.change

end Machine

end EditBatch

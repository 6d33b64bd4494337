import EditBatch.Proofs.Run.Change

/-! When the calls of a command are made.

They are made while the command is in flight: not before it is sent off, and not after it has
ended. Nothing is told of a command that waits, so that all calls of a command belong to its
one flight, and a command that is done has no call to come.
-/

set_option autoImplicit false

namespace EditBatch

namespace Plan

variable {σ α : Type}

theorem time_of_mem_calls (client : EditClient σ) (plan : Plan α) (now : Nat) (state : σ)
    {record : CallRecord} (member : record ∈ (plan.perform client now state).calls) :
    now ≤ record.time ∧ record.time ≤ (plan.perform client now state).endsAt := by
  induction plan generalizing now state with
  | finish result => simp [perform] at member
  | call request next ih =>
    simp only [perform] at member ⊢
    rcases List.mem_cons.mp member with rfl | later
    · exact ⟨Nat.le_refl _, Nat.le_trans (Nat.le_add_right _ _) (now_le_endsAt _ _ _ _)⟩
    · obtain ⟨begun, ended⟩ := ih _ _ _ later
      exact ⟨Nat.le_trans (Nat.le_add_right _ _) begun, ended⟩

end Plan

namespace Run

variable {σ : Type}

theorem index_of_mem_dispatchEvents {now index : Nat} {ref : String} {event : RunEvent}
    {done : Performance σ (Except Escape CommandResult)}
    (member : event ∈ dispatchEvents now index ref done) : event.index = index := by
  rcases List.mem_cons.mp member with rfl | call
  · rfl
  · obtain ⟨record, -, rfl⟩ := List.mem_map.mp call
    rfl

theorem called_mem_dispatchEvents {now index time position : Nat} {ref : String}
    {call : EditCall} {done : Performance σ (Except Escape CommandResult)} :
    .called time position call ∈ dispatchEvents now index ref done ↔
      position = index ∧ ⟨time, call⟩ ∈ done.calls := by
  simp only [dispatchEvents, List.mem_cons, reduceCtorEq, false_or, List.mem_map,
    RunEvent.called.injEq]
  constructor
  · rintro ⟨⟨_, _⟩, member, rfl, rfl, rfl⟩
    exact ⟨rfl, member⟩
  · rintro ⟨rfl, member⟩
    exact ⟨_, member, rfl, rfl, rfl⟩

theorem time_of_mem_dispatchEvents {setup : Setup σ} {now index : Nat} {ref : String}
    {command : Command} {client : σ} {event : RunEvent}
    (member : event ∈ dispatchEvents now index ref (performance setup now command client)) :
    now ≤ event.time := by
  rcases List.mem_cons.mp member with rfl | call
  · exact Nat.le_refl _
  · obtain ⟨record, called, rfl⟩ := List.mem_map.mp call
    exact (Plan.time_of_mem_calls _ _ _ _ called).1

theorem Change.told {setup : Setup σ} {now : Nat} {run next : Run}
    (change : run.Change setup now next) (event : RunEvent) (member : event ∈ next.history) :
    event ∈ run.history ∨ now ≤ event.time := by
  cases change with
  | none commands history => exact .inl (history ▸ member)
  | dispatch client eligible found commands history =>
    rw [history, List.mem_append] at member
    exact member.imp_right time_of_mem_dispatchEvents
  | complete found running commands history =>
    rw [history, List.mem_append, List.mem_singleton] at member
    rcases member with old | rfl
    · exact .inl old
    · exact .inr (Nat.le_refl _)

theorem Change.dispatched {setup : Setup σ} {now time index endsAt : Nat} {ref : String}
    {run next : Run} (change : run.Change setup now next)
    (member : .dispatched time index ref endsAt ∈ next.history) :
    .dispatched time index ref endsAt ∈ run.history ∨ time = now := by
  cases change with
  | none commands history => exact .inl (history ▸ member)
  | dispatch client eligible found commands history =>
    rw [history, List.mem_append] at member
    refine member.imp_right fun new => ?_
    rcases List.mem_cons.mp new with same | call
    · cases same
      rfl
    · simp at call
  | complete found running commands history =>
    rw [history, List.mem_append] at member
    exact .inl (member.resolve_right (by simp))

def Silent (run : Run) : Prop :=
  ∀ event ∈ run.history, ∀ command, run.commands[event.index]? = some command →
    command.status ≠ .waiting

theorem Silent.change {setup : Setup σ} {now : Nat} {run next : Run} (silent : run.Silent)
    (change : run.Change setup now next) : next.Silent := by
  intro event member after is
  cases change with
  | none commands history flights =>
    rw [commands] at is
    rw [history] at member
    exact silent event member after is
  | dispatch client eligible found commands history flights =>
    rw [history, List.mem_append] at member
    rw [commands] at is
    rcases cases_of_sent found is with ⟨-, rfl⟩ | ⟨elsewhere, was⟩
    · simp
    · rcases member with old | new
      · exact silent event old after was
      · exact absurd (index_of_mem_dispatchEvents new) elsewhere
  | complete found running commands history flights left =>
    rw [history, List.mem_append, List.mem_singleton] at member
    rw [commands] at is
    rcases cases_of_completed found is with ⟨-, rfl⟩ | ⟨elsewhere, before, was, rfl⟩
    · simp
    · rw [status_redirected]
      rcases member with old | rfl
      · exact silent event old before was
      · exact absurd rfl elsewhere

end Run

namespace Machine

variable {σ : Type}

-- `past` is the aim. At a completion it comes from `answered`, for the flight has ended by then;
-- an aborted run completes flights that it did not see end, and there `ending` and `drained` help.
structure Timely (machine : Machine σ) : Prop where
  silent : machine.run.Silent
  aloft : ∀ {flight : Flight}, flight ∈ machine.run.inFlight →
    ∀ command, machine.run.commands[flight.index]? = some command → command.status ≠ .waiting
  ending : ∀ {flight : Flight}, flight ∈ machine.run.inFlight →
    flight.endsAt ≤ machine.run.lastEnd
  /-- No call of a command in flight begins after its end. -/
  answered : ∀ {flight : Flight} {time : Nat} {call : EditCall},
    flight ∈ machine.run.inFlight → .called time flight.index call ∈ machine.run.history →
    time ≤ flight.endsAt
  drained : machine.run.phase = .draining → machine.run.lastEnd ≤ machine.clock
  /-- All calls of a command that is done have begun. -/
  past : ∀ {time index : Nat} {call : EditCall} {command : Command},
    .called time index call ∈ machine.run.history →
    machine.run.commands[index]? = some command → command.status = .done → time ≤ machine.clock

theorem Timely.dispatch {setup : Setup σ} {machine next : Machine σ} {index : Nat}
    {command : Command} (timely : machine.Timely) (phase : machine.run.phase = .dispatching)
    (change : machine.run.Change setup next.clock next.run)
    (eligible : Command.nextEligible? machine.run.commands = some index)
    (found : machine.run.commands[index]? = some command) (clock : next.clock = machine.clock)
    (sent : next.run =
      (machine.run.dispatch setup machine.clock index command machine.client).1) :
    next.Timely := by
  have waiting := (Command.nextEligible?_spec eligible found).1
  have inFlight := congrArg Run.inFlight sent
  have history := congrArg Run.history sent
  have lastEnd := congrArg Run.lastEnd sent
  have commands := congrArg Run.commands sent
  rw [Run.inFlight_dispatch] at inFlight
  rw [Run.history_dispatch] at history
  rw [Run.lastEnd_dispatch] at lastEnd
  rw [Run.commands_dispatch] at commands
  constructor
  · exact timely.silent.change change
  · intro flight member after is
    rw [inFlight, List.mem_append, List.mem_singleton] at member
    rcases member with old | rfl
    · exact change.started (timely.aloft old) is
    · rw [Flight.index_ofPerformance, commands, Run.getElem?_sent found, if_pos rfl] at is
      cases is
      simp
  · intro flight member
    rw [inFlight, List.mem_append, List.mem_singleton] at member
    rw [lastEnd]
    rcases member with old | rfl
    · exact Nat.le_trans (timely.ending old) (Nat.le_max_left _ _)
    · exact Nat.le_max_right _ _
  · intro flight time call member called
    rw [inFlight, List.mem_append, List.mem_singleton] at member
    rw [history, List.mem_append, Run.called_mem_dispatchEvents] at called
    rcases member with old | rfl <;> rcases called with before | ⟨same, now⟩
    -- A flight and a call of the same command are both old or both new.
    · exact timely.answered old before
    · exact absurd waiting (timely.aloft old command (same ▸ found))
    · exact absurd waiting (timely.silent _ before command found)
    · exact (Plan.time_of_mem_calls _ _ _ _ now).2
  · intro draining
    rw [sent, Run.dispatch_phase, phase] at draining
    simp at draining
  · intro time position call after called is done
    rw [history, List.mem_append, Run.called_mem_dispatchEvents] at called
    rw [commands] at is
    rw [clock]
    rcases Run.cases_of_sent found is with ⟨-, rfl⟩ | ⟨elsewhere, was⟩
    · simp at done
    · rcases called with before | ⟨same, -⟩
      · exact timely.past before was done
      · exact absurd same elsewhere

theorem Timely.complete {setup : Setup σ} {machine next : Machine σ} {flight : Flight}
    {result : CommandResult} {command : Command} (timely : machine.Timely)
    (change : machine.run.Change setup next.clock next.run)
    (member : flight ∈ machine.run.inFlight) (later : machine.clock ≤ next.clock)
    (ended : flight.endsAt ≤ next.clock)
    (found : machine.run.commands[flight.index]? = some command)
    (commands : next.run.commands =
      Run.afterCompletion flight.index command result machine.run.commands)
    (history : next.run.history = machine.run.history ++
      [.completed next.clock flight.index result command.entityRef])
    (inFlight : ∀ other ∈ next.run.inFlight, other ∈ machine.run.inFlight)
    (lastEnd : next.run.lastEnd = machine.run.lastEnd)
    (drained : next.run.phase = .draining → machine.run.phase = .draining) : next.Timely := by
  have old {time index : Nat} {call : EditCall} :
      .called time index call ∈ next.run.history →
        .called time index call ∈ machine.run.history := by
    rw [history]
    simp
  constructor
  · exact timely.silent.change change
  · intro other aloft after is
    exact change.started (timely.aloft (inFlight other aloft)) is
  · intro other aloft
    rw [lastEnd]
    exact timely.ending (inFlight other aloft)
  · intro other time call aloft called
    exact timely.answered (inFlight other aloft) (old called)
  · intro draining
    rw [lastEnd]
    exact Nat.le_trans (timely.drained (drained draining)) later
  · intro time position call after called is done
    rw [commands] at is
    rcases Run.cases_of_completed found is with ⟨rfl, -⟩ | ⟨-, before, was, rfl⟩
    · exact Nat.le_trans (timely.answered member (old called)) ended
    · rw [Run.status_redirected] at done
      exact Nat.le_trans (timely.past (old called) was done) later

theorem Timely.quiet {machine next : Machine σ} (timely : machine.Timely)
    (later : machine.clock ≤ next.clock)
    (commands : next.run.commands = machine.run.commands)
    (history : next.run.history = machine.run.history)
    (inFlight : ∀ other ∈ next.run.inFlight, other ∈ machine.run.inFlight)
    (lastEnd : next.run.lastEnd = machine.run.lastEnd)
    (drained : next.run.phase = .draining → machine.run.lastEnd ≤ next.clock) : next.Timely := by
  constructor
  · rw [Run.Silent, commands, history]
    exact timely.silent
  · intro other aloft
    rw [commands]
    exact timely.aloft (inFlight other aloft)
  · intro other aloft
    rw [lastEnd]
    exact timely.ending (inFlight other aloft)
  · intro other time call aloft
    rw [history]
    exact timely.answered (inFlight other aloft)
  · rw [lastEnd]
    exact drained
  · intro time position call after
    rw [commands, history]
    intro called is done
    exact Nat.le_trans (timely.past called is done) later

theorem Timely.happens {setup : Setup σ} {machine next : Machine σ} (timely : machine.Timely)
    (happens : machine.Happens setup next) : next.Timely := by
  have change := happens.change
  cases transition_of_happens happens with
  | dispatch phase allowed found clock sent =>
    exact timely.dispatch phase change (Run.dispatchable?_eq_some_iff.mp allowed).2 found clock sent
  | @land flight result command rest landed later popped known completion same paused left =>
    obtain ⟨before, after, flights, ended, rfl⟩ := Run.popEnded?_spec popped
    refine timely.complete change (Run.mem_of_leaves flights) later ended completion.found
      (same.commands.trans completion.commands) (same.history.trans completion.history) ?_
      (same.lastEnd.trans completion.lastEnd) fun draining => absurd draining left
    intro other aloft
    rw [same.inFlight.trans completion.inFlight] at aloft
    exact (Run.sublist_of_leaves flights).subset aloft
  | @lose flight rest later popped lost same left =>
    obtain ⟨before, after, flights, -, rfl⟩ := Run.popEnded?_spec popped
    refine timely.quiet later same.commands same.history ?_ same.lastEnd
      fun draining => absurd draining left
    intro other aloft
    rw [same.inFlight] at aloft
    exact (Run.sublist_of_leaves flights).subset aloft
  | @drain flight rest result command phase clock first known completion =>
    have member : flight ∈ machine.run.inFlight := by
      rw [first]
      exact List.mem_cons_self
    have ended : flight.endsAt ≤ next.clock := by
      rw [clock]
      exact Nat.le_trans (timely.ending member) (timely.drained phase)
    refine timely.complete change member (Nat.le_of_eq clock.symm) ended completion.found
      completion.commands (clock ▸ completion.history) ?_ completion.lastEnd fun _ => phase
    intro other aloft
    rw [completion.inFlight] at aloft
    rw [first]
    exact List.mem_cons_of_mem _ aloft
  | skip phase clock first lost same =>
    refine timely.quiet (Nat.le_of_eq clock.symm) same.commands same.history ?_ same.lastEnd ?_
    · intro other aloft
      rw [same.inFlight] at aloft
      rw [first]
      exact List.mem_cons_of_mem _ aloft
    · intro
      rw [clock]
      exact timely.drained phase
  | pass later same drained =>
    refine timely.quiet later same.commands same.history ?_ same.lastEnd ?_
    · rw [same.inFlight]
      exact fun _ aloft => aloft
    · intro draining
      rcases drained draining with before | ended
      · exact Nat.le_trans (timely.drained before) later
      · exact ended

theorem timely_start (clock : Nat) (commands : List Command) (limit throttle : Nat) (client : σ) :
    (start clock commands limit throttle client).Timely := by
  constructor <;> simp [start, Run.Silent]

theorem Reaches.dispatched_le {setup : Setup σ} {clock limit throttle : Nat} {client : σ}
    {commands : List Command} {machine : Machine σ} {time index endsAt : Nat} {ref : String}
    (reached : (start clock commands limit throttle client).Reaches setup machine)
    (told : .dispatched time index ref endsAt ∈ machine.run.history) : time ≤ machine.clock := by
  induction reached with
  | refl => simp [start] at told
  | tail _ happens ih =>
    rcases happens.change.dispatched told with old | rfl
    · exact Nat.le_trans (ih old) happens.later
    · exact Nat.le_refl _

theorem Reaches.timely {setup : Setup σ} {clock limit throttle : Nat} {client : σ}
    {commands : List Command} {machine : Machine σ}
    (reached : (start clock commands limit throttle client).Reaches setup machine) :
    machine.Timely :=
  reached.invariant Timely (timely_start clock commands limit throttle client)
    fun happens timely => timely.happens happens

end Machine

end EditBatch

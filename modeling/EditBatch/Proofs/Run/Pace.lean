import EditBatch.Proofs.Run.Stepping
import EditBatch.Proofs.Run.Order

/-! When commands are sent off.

The first commands are sent off when the loop begins, and every later one exactly a pause after
the latest completion. The loop may wait for other reasons than the pause, but then nothing can
be sent off before a completion, which starts a new pause. So whenever a command could be sent
off but for the pause, the loop waits no longer than for its end.
-/

set_option autoImplicit false

namespace EditBatch

def RunEvent.completedAt? : RunEvent → Option Nat
  | .completed time _ _ _ => some time
  | .dispatched _ _ _ _ | .called _ _ _ => none

namespace Run

variable {σ : Type}

def completionTimes (history : List RunEvent) : List Nat :=
  history.filterMap RunEvent.completedAt?

/-- When commands are due to be sent off: at the beginning, and later a pause after the latest
completion. -/
def dueTime (began pause : Nat) (history : List RunEvent) : Nat :=
  match (completionTimes history).getLast? with
  | none => began
  | some latest => latest + pause

/-- Some command could be sent off if there were no pause. -/
def HasCandidate (run : Run) : Prop :=
  run.inFlight.length < run.limit ∧ run.stop.requested = false ∧
    (Command.nextEligible? run.commands).isSome = true

theorem completionTimes_append (history new : List RunEvent) :
    completionTimes (history ++ new) = completionTimes history ++ completionTimes new :=
  List.filterMap_append

theorem completionTimes_dispatchEvents (now index : Nat) (ref : String)
    (done : Performance σ (Except Escape CommandResult)) :
    completionTimes (dispatchEvents now index ref done) = [] := by
  simp [completionTimes, dispatchEvents, RunEvent.completedAt?]

theorem dispatchable?_eq_none_iff {now : Nat} {run : Run} :
    run.dispatchable? now = none ↔ (run.HasCandidate → now < run.notBefore) := by
  unfold dispatchable? HasCandidate
  cases eligible : Command.nextEligible? run.commands with
  | none => simp
  | some index =>
    split
    next free =>
      simp only [reduceCtorEq, false_iff]
      intro early
      have := early ⟨free.2.1, free.2.2, rfl⟩
      omega
    next taken =>
      simp only [true_iff]
      rintro ⟨room, unstopped, -⟩
      apply Decidable.byContradiction
      intro late
      exact taken ⟨by omega, room, unstopped⟩

theorem pause_le {setup : Setup σ} {now : Nat} {run : Run} (early : now < run.notBefore) :
    now + run.pause setup now ≤ run.notBefore := by
  rw [pause, if_pos early]
  omega

theorem phase_turn_eq_blocked {setup : Setup σ} {now deadline : Nat} {run : Run}
    (blocked : (run.turn setup now).phase = .blocked deadline) :
    deadline = now + run.pause setup now := by
  unfold turn at blocked
  split at blocked
  · simp at blocked
  · split at blocked
    · simp at blocked
    · exact (Phase.blocked.inj blocked).symm

theorem phase_turn_ne_created (setup : Setup σ) (now : Nat) (run : Run) :
    (run.turn setup now).phase ≠ .created := by
  unfold turn
  split
  · simp
  · split <;> simp

theorem HasCandidate.of_alike {run next : Run} (candidate : next.HasCandidate)
    (alike : run.Alike next)
    (kept : run.stop.requested = true → next.stop.requested = true) : run.HasCandidate := by
  obtain ⟨room, unstopped, eligible⟩ := candidate
  rw [alike.inFlight, alike.limit] at room
  rw [alike.commands] at eligible
  refine ⟨room, ?_, eligible⟩
  cases stopped : run.stop.requested with
  | false => rfl
  | true => rw [kept stopped] at unstopped; exact unstopped

theorem not_hasCandidate {run : Run} (none : ¬ run.HasCandidate)
    (within : run.inFlight.length ≤ run.limit) :
    run.stop.requested = true ∨ run.inFlight.length = run.limit ∨
      ∀ command ∈ run.commands, command.status = .waiting →
        ∃ other ∈ run.commands, other.status = .running ∧
          other.entityRef = command.entityRef := by
  by_cases stopped : run.stop.requested = true
  · exact .inl stopped
  by_cases full : run.inFlight.length = run.limit
  · exact .inr (.inl full)
  right; right
  intro command member waiting
  apply Decidable.byContradiction
  intro free
  refine none ⟨by omega, by simpa using stopped, ?_⟩
  rw [Command.nextEligible?, List.findIdx?_isSome, List.any_eq_true]
  refine ⟨command, member, ?_⟩
  simp only [Command.isEligible, Command.busyRefs, waiting, decide_true, Bool.true_and,
    Bool.not_eq_true', List.contains_eq_mem, decide_eq_false_iff_not, List.mem_map,
    List.mem_filter, decide_eq_true_eq]
  rintro ⟨other, ⟨there, running⟩, same⟩
  exact free ⟨other, there, running, same⟩

end Run

namespace Machine

variable {σ : Type}

-- `prompt` is the heart: with a candidate, the clock never passes the due time. A wait for the end
-- of a flight or for the next poll keeps it because of `waits`. All that is said of the loop is
-- void once it has been left, and so is `pause`, for completions then start no pause.
structure Paced (began : Nat) (machine : Machine σ) : Prop where
  later : began ≤ machine.clock
  fresh : machine.run.phase = .created → machine.clock = began
  within : machine.run.inFlight.length ≤ machine.run.limit
  past : ∀ moment ∈ Run.completionTimes machine.run.history, moment ≤ machine.clock
  ordered : (Run.completionTimes machine.run.history).Pairwise (· ≤ ·)
  pause : machine.run.isLooping = true →
    machine.run.notBefore =
      match (Run.completionTimes machine.run.history).getLast? with
      | none => 0
      | some latest => if 0 < machine.run.throttle then latest + machine.run.throttle else 0
  prompt : machine.run.isLooping = true → machine.run.HasCandidate →
    machine.clock ≤ Run.dueTime began machine.run.throttle machine.run.history
  waits : ∀ {deadline : Nat}, machine.run.phase = .blocked deadline →
    machine.run.HasCandidate →
    machine.clock < machine.run.notBefore ∧ deadline ≤ machine.run.notBefore
  law : ∀ {position time index endsAt : Nat} {ref : String},
    machine.run.history[position]? = some (.dispatched time index ref endsAt) →
    time = Run.dueTime began machine.run.throttle (machine.run.history.take position) ∧
      ∀ moment ∈ Run.completionTimes (machine.run.history.take position),
        moment + machine.run.throttle ≤ time

section kept

variable {setup : Setup σ} {began : Nat} {machine next : Machine σ}

theorem Paced.notBefore_le (paced : machine.Paced began)
    (looping : machine.run.isLooping = true) :
    machine.run.notBefore ≤ Run.dueTime began machine.run.throttle machine.run.history := by
  rw [paced.pause looping, Run.dueTime]
  cases (Run.completionTimes machine.run.history).getLast? with
  | none => exact Nat.zero_le _
  | some latest =>
    simp only
    split <;> omega

theorem Paced.clock_eq_dueTime (paced : machine.Paced began)
    (looping : machine.run.isLooping = true) (candidate : machine.run.HasCandidate)
    (free : machine.run.notBefore ≤ machine.clock) :
    machine.clock = Run.dueTime began machine.run.throttle machine.run.history := by
  refine Nat.le_antisymm (paced.prompt looping candidate) ?_
  rw [paced.pause looping] at free
  rw [Run.dueTime]
  cases latest : (Run.completionTimes machine.run.history).getLast? with
  | none => exact paced.later
  | some moment =>
    have passed := paced.past moment (List.mem_of_getLast? latest)
    simp only [latest] at free ⊢
    by_cases pauses : 0 < machine.run.throttle
    · rw [if_pos pauses] at free
      exact free
    · omega

theorem Paced.le_dueTime (paced : machine.Paced began) {moment : Nat}
    (member : moment ∈ Run.completionTimes machine.run.history) :
    moment + machine.run.throttle ≤
      Run.dueTime began machine.run.throttle machine.run.history := by
  have ordered := paced.ordered
  unfold Run.dueTime
  rcases List.eq_nil_or_concat (Run.completionTimes machine.run.history) with
    empty | ⟨others, latest, split⟩
  · rw [empty] at member
    simp at member
  · rw [List.concat_eq_append] at split
    rw [split, List.mem_append, List.mem_singleton] at member
    rw [split, List.pairwise_append] at ordered
    rw [split, List.getLast?_concat]
    rcases member with earlier | rfl
    · have := ordered.2.2 moment earlier latest List.mem_cons_self
      simp only
      omega
    · exact Nat.le_refl _

theorem Paced.alike (paced : machine.Paced began) (alike : machine.run.Alike next.run)
    (later : machine.clock ≤ next.clock)
    (fresh : next.run.phase = .created → next.clock = began)
    (looping : next.run.isLooping = true → machine.run.isLooping = true)
    (prompt : next.run.isLooping = true → next.run.HasCandidate →
      next.clock ≤ Run.dueTime began machine.run.throttle machine.run.history)
    (waits : ∀ {deadline : Nat}, next.run.phase = .blocked deadline → next.run.HasCandidate →
      next.clock < machine.run.notBefore ∧ deadline ≤ machine.run.notBefore) :
    next.Paced began := by
  constructor
  · exact Nat.le_trans paced.later later
  · exact fresh
  · rw [alike.inFlight, alike.limit]
    exact paced.within
  · rw [alike.history]
    exact fun moment member => Nat.le_trans (paced.past moment member) later
  · rw [alike.history]
    exact paced.ordered
  · rw [alike.history, alike.throttle, alike.notBefore]
    exact fun still => paced.pause (looping still)
  · rw [alike.history, alike.throttle]
    exact prompt
  · rw [alike.notBefore]
    exact waits
  · rw [alike.history, alike.throttle]
    exact paced.law

theorem Paced.leave (paced : machine.Paced began) (left : next.run.isLooping = false)
    (later : machine.clock ≤ next.clock)
    (flights : next.run.inFlight.Sublist machine.run.inFlight)
    (limit : next.run.limit = machine.run.limit)
    (throttle : next.run.throttle = machine.run.throttle)
    (history : next.run.history = machine.run.history) : next.Paced began := by
  constructor
  · exact Nat.le_trans paced.later later
  · intro created
    simp [Run.isLooping, created] at left
  · rw [limit]
    exact Nat.le_trans flights.length_le paced.within
  · rw [history]
    exact fun moment member => Nat.le_trans (paced.past moment member) later
  · rw [history]
    exact paced.ordered
  · simp [left]
  · simp [left]
  · intro deadline blocked
    simp [Run.isLooping, blocked] at left
  · rw [history, throttle]
    exact paced.law

theorem Paced.dispatch {index : Nat} {command : Command} {client : σ}
    (paced : machine.Paced began) (phase : machine.run.phase = .dispatching)
    (allowed : machine.run.dispatchable? machine.clock = some index) :
    Paced began ⟨machine.clock,
      (machine.run.dispatch setup machine.clock index command machine.client).1, client⟩ := by
  have looping : machine.run.isLooping = true := by simp [Run.isLooping, phase]
  obtain ⟨⟨free, room, unstopped⟩, eligible⟩ := Run.dispatchable?_eq_some_iff.mp allowed
  have candidate : machine.run.HasCandidate := ⟨room, unstopped, by rw [eligible]; rfl⟩
  have due := paced.clock_eq_dueTime looping candidate free
  have times : Run.completionTimes
      (machine.run.dispatch setup machine.clock index command machine.client).1.history =
      Run.completionTimes machine.run.history := by
    rw [Run.history_dispatch, Run.completionTimes_append, Run.completionTimes_dispatchEvents,
      List.append_nil]
  constructor
  · exact paced.later
  · rw [Run.dispatch_phase, phase]
    simp
  · rw [Run.inFlight_dispatch, List.length_append, List.length_singleton, Run.limit_dispatch]
    exact room
  · rw [times]
    exact paced.past
  · rw [times]
    exact paced.ordered
  · rw [times, Run.throttle_dispatch, Run.notBefore_dispatch]
    exact fun _ => paced.pause looping
  · intro _ _
    rw [Run.dueTime, times, Run.throttle_dispatch]
    exact Nat.le_of_eq due
  · intro deadline blocked
    rw [Run.dispatch_phase, phase] at blocked
    simp at blocked
  · intro position time other endsAt ref told
    rw [Run.throttle_dispatch]
    rw [Run.history_dispatch] at told ⊢
    rw [List.getElem?_append] at told
    split at told
    next before =>
      rw [List.take_append_of_le_length (Nat.le_of_lt before)]
      exact paced.law told
    next beyond =>
      -- Of what is told about the command, only the first entry is the dispatch.
      have first : position = machine.run.history.length := by
        cases offset : position - machine.run.history.length with
        | zero => omega
        | succ rest =>
          rw [offset, Run.dispatchEvents, List.getElem?_cons_succ, List.getElem?_map] at told
          cases call : (Run.performance setup machine.clock command machine.client).calls[rest]? <;>
            simp [call] at told
      subst first
      rw [Nat.sub_self, Run.dispatchEvents, List.getElem?_cons_zero, Option.some.injEq,
        RunEvent.dispatched.injEq] at told
      obtain ⟨rfl, -⟩ := told
      rw [List.take_left]
      exact ⟨due, fun moment member => due ▸ paced.le_dueTime member⟩

theorem Paced.law_completed (paced : machine.Paced began) {event : RunEvent}
    (completes : event.completedAt?.isSome = true)
    {position time index endsAt : Nat} {ref : String}
    (told : (machine.run.history ++ [event])[position]? =
      some (.dispatched time index ref endsAt)) :
    time = Run.dueTime began machine.run.throttle
        ((machine.run.history ++ [event]).take position) ∧
      ∀ moment ∈ Run.completionTimes ((machine.run.history ++ [event]).take position),
        moment + machine.run.throttle ≤ time := by
  rcases Run.getElem?_told told with old | ⟨-, new⟩
  · have before := (List.getElem?_eq_some_iff.mp old).1
    rw [List.take_append_of_le_length (Nat.le_of_lt before)]
    exact paced.law old
  · rw [List.mem_singleton] at new
    subst new
    simp [RunEvent.completedAt?] at completes

theorem Paced.complete {flight : Flight} {before after : List Flight} {command : Command}
    {result : CommandResult} {landed : Run} (paced : machine.Paced began)
    (later : machine.clock ≤ next.clock)
    (flights : machine.run.inFlight = before ++ flight :: after)
    (completion : Run.Completion next.clock flight.index command result
      { machine.run with inFlight := before ++ after } landed)
    (same : landed.Alike { next.run with notBefore := landed.notBefore })
    (pause : next.run.isLooping = true → next.run.notBefore =
      if 0 < landed.throttle then next.clock + landed.throttle else landed.notBefore)
    (looping : next.run.isLooping = true → machine.run.isLooping = true)
    (unblocked : ∀ deadline, next.run.phase ≠ .blocked deadline)
    (fresh : next.run.phase ≠ .created) : next.Paced began := by
  have history : next.run.history = machine.run.history ++
      [.completed next.clock flight.index result command.entityRef] :=
    same.history.trans completion.history
  have throttle : next.run.throttle = machine.run.throttle :=
    same.throttle.trans completion.throttle
  have times : Run.completionTimes next.run.history =
      Run.completionTimes machine.run.history ++ [next.clock] := by
    rw [history, Run.completionTimes_append]
    rfl
  have latest : (Run.completionTimes next.run.history).getLast? = some next.clock := by
    rw [times, List.getLast?_concat]
  constructor
  · exact Nat.le_trans paced.later later
  · exact fun created => absurd created fresh
  · have within := paced.within
    have inFlight : next.run.inFlight = before ++ after :=
      same.inFlight.trans completion.inFlight
    have limit : next.run.limit = machine.run.limit := same.limit.trans completion.limit
    have fewer := (Run.sublist_of_leaves flights).length_le
    rw [inFlight, limit]
    omega
  · rw [times]
    intro moment member
    rcases List.mem_append.mp member with earlier | now
    · exact Nat.le_trans (paced.past moment earlier) later
    · exact Nat.le_of_eq (List.mem_singleton.mp now)
  · rw [times, List.pairwise_append]
    refine ⟨paced.ordered, List.pairwise_singleton _ _, ?_⟩
    intro moment member now isNow
    rw [List.mem_singleton.mp isNow]
    exact Nat.le_trans (paced.past moment member) later
  · intro still
    have before := paced.pause (looping still)
    have noPause : landed.notBefore = machine.run.notBefore := completion.notBefore
    have sameThrottle : landed.throttle = machine.run.throttle := completion.throttle
    rw [pause still, latest, throttle, sameThrottle, noPause]
    split
    · rfl
    next none =>
      simp only [before, if_neg none]
      split <;> rfl
  · intro _ _
    rw [Run.dueTime, latest]
    exact Nat.le_add_right _ _
  · exact fun blocked => absurd blocked (unblocked _)
  · intro position time index endsAt ref told
    rw [history, throttle] at *
    exact paced.law_completed rfl told

/-- The loop waits for the pause only if that is what keeps a command back. -/
theorem Paced.turn (paced : machine.Paced began) (phase : machine.run.phase = .dispatching)
    (taken : machine.run.dispatchable? machine.clock = none) :
    Paced began { machine with run := machine.run.turn setup machine.clock } := by
  have looping : machine.run.isLooping = true := by simp [Run.isLooping, phase]
  have alike := Run.alike_turn setup machine.clock machine.run
  have before (candidate : (machine.run.turn setup machine.clock).HasCandidate) :
      machine.run.HasCandidate := by
    refine candidate.of_alike alike fun stopped => ?_
    unfold Run.turn
    split
    · exact stopped
    · split <;> exact stopped
  refine paced.alike alike (Nat.le_refl _) ?_ (fun _ => looping) ?_ ?_
  · exact fun created => absurd created (Run.phase_turn_ne_created _ _ _)
  · exact fun _ candidate => paced.prompt looping (before candidate)
  · intro deadline blocked candidate
    have early := Run.dispatchable?_eq_none_iff.mp taken (before candidate)
    rw [Run.phase_turn_eq_blocked blocked]
    exact ⟨early, Run.pause_le early⟩

theorem Paced.ready_le (paced : machine.Paced began) (looping : machine.run.isLooping = true)
    (candidate : machine.run.HasCandidate) {time : Nat}
    (ready : machine.run.readyAt? = some time) :
    max machine.clock time ≤ Run.dueTime began machine.run.throttle machine.run.history := by
  have prompt := paced.prompt looping candidate
  rcases Run.readyAt?_of_looping looping with now | ⟨deadline, later, blocked, atTime, due⟩
  · rw [now] at ready
    cases ready
    omega
  · rw [atTime] at ready
    cases ready
    have waits := (paced.waits blocked candidate).2
    have pause := paced.notBefore_le looping
    omega

theorem Paced.land {time : Nat} {flight : Flight} {result : CommandResult} {rest landed : Run}
    (paced : machine.Paced began) (looping : machine.run.isLooping = true)
    (popped : machine.run.popEnded? (max machine.clock time) = some (flight, rest))
    (completed : rest.complete? setup.listener (max machine.clock time) flight.index result =
      some landed) :
    Paced began
      ⟨max machine.clock time, landed.resumed (max machine.clock time), machine.client⟩ := by
  obtain ⟨before, after, flights, -, rfl⟩ := Run.popEnded?_spec popped
  obtain ⟨command, completion⟩ := Run.completion_of_complete? completed
  refine paced.complete (Nat.le_max_left _ _) flights completion ?_ (fun _ => rfl)
    (fun _ => looping) ?_ ?_
  · exact ⟨rfl, rfl, rfl, rfl, rfl, rfl, rfl, rfl, rfl⟩
  · intro deadline
    simp only [Run.resumed]
    split <;> simp
  · simp only [Run.resumed]
    split <;> simp

theorem Paced.move (paced : machine.Paced began) (move : machine.Move setup next) :
    next.Paced began := by
  cases move with
  | begin phase short =>
    have looping : machine.run.isLooping = true := by simp [Run.isLooping, phase]
    refine paced.alike (Run.alike_update _ _ _ _ _ _) (Nat.le_refl _) (by simp)
      (fun _ => looping) ?_ (by simp)
    exact fun _ candidate =>
      paced.prompt looping (candidate.of_alike (Run.alike_update _ _ _ _ _ _) id)
  | overflow phase long => exact paced.leave rfl (Nat.le_refl _) (List.Sublist.refl _) rfl rfl rfl
  | dispatch phase allowed found => exact paced.dispatch phase allowed
  | turn phase taken => exact paced.turn phase taken
  | land ready waits popped known completed =>
    exact paced.land (isLooping_of_waits waits) popped completed
  | lose ready waits popped lost =>
    obtain ⟨before, after, flights, -, rfl⟩ := Run.popEnded?_spec popped
    exact paced.leave rfl (Nat.le_max_left _ _) (Run.sublist_of_leaves flights) rfl rfl rfl
  | wake ready waits nothing busy =>
    refine paced.alike (Run.alike_update _ _ _ _ _ _) (Nat.le_max_left _ _) (by simp)
      (fun _ => isLooping_of_waits waits) ?_ (by simp)
    exact fun _ candidate =>
      paced.ready_le (isLooping_of_waits waits)
        (candidate.of_alike (Run.alike_update _ _ _ _ _ _) id) ready
  | quit ready waits idle =>
    exact paced.leave rfl (Nat.le_max_left _ _) (List.Sublist.refl _) rfl rfl rfl
  | @depart departure phase =>
    have alike := Run.alike_depart machine.run departure
    refine paced.leave (Run.isLooping_depart _ _) (Nat.le_max_left _ _) ?_ alike.limit
      alike.throttle alike.history
    rw [alike.inFlight]
  | @drain flight rest landed phase first completed =>
    obtain ⟨command, completion⟩ := Run.completion_of_complete? completed
    have drains : landed.phase = .draining := completion.phase.trans phase
    have left : landed.isLooping = false := by simp [Run.isLooping, drains]
    have flights : machine.run.inFlight = [] ++ flight :: rest := first
    refine paced.complete (Nat.le_refl _) flights completion (.refl _) ?_ ?_ ?_ ?_
    · simp [left]
    · simp [left]
    · simp [drains]
    · simp [drains]
  | skip phase first failed =>
    refine paced.leave ?_ (Nat.le_refl _) ?_ rfl rfl rfl
    · simp [Run.isLooping, phase]
    · rw [first]
      exact List.sublist_cons_self _ _
  | finish phase empty => exact paced.leave rfl (Nat.le_refl _) (List.Sublist.refl _) rfl rfl rfl

theorem Paced.wait {time : Nat} (paced : machine.Paced began) (later : machine.clock ≤ time)
    (idle : machine.step? setup time = none) : Paced began { machine with clock := time } := by
  have early := step?_eq_none_iff.mp idle
  have blocked (looping : machine.run.isLooping = true) :
      ∃ deadline, machine.run.phase = .blocked deadline ∧ time < deadline := by
    rcases Run.readyAt?_of_looping looping with now | ⟨deadline, moment, blocked, atMoment, due⟩
    · exact absurd (early 0 now) (Nat.not_lt_zero _)
    · exact ⟨deadline, blocked, Nat.lt_of_lt_of_le (early moment atMoment) due⟩
  refine paced.alike (.refl _) later ?_ id ?_ ?_
  · intro created
    change machine.run.phase = .created at created
    obtain ⟨deadline, waits, -⟩ := blocked (by simp [Run.isLooping, created])
    exact absurd (created.symm.trans waits) (by simp)
  · intro looping candidate
    obtain ⟨deadline, waits, soon⟩ := blocked looping
    have within := (paced.waits waits candidate).2
    have pause := paced.notBefore_le looping
    simp only
    omega
  · intro deadline waits candidate
    change machine.run.phase = .blocked deadline at waits
    obtain ⟨other, same, soon⟩ := blocked (by simp [Run.isLooping, waits])
    cases waits.symm.trans same
    have within := (paced.waits waits candidate).2
    exact ⟨Nat.lt_of_lt_of_le soon within, within⟩

theorem Paced.happens (paced : machine.Paced began) (happens : machine.Happens setup next) :
    next.Paced began := by
  cases happens with
  | step horizon due => exact paced.move (move_of_step due)
  | wait time later idle => exact paced.wait later idle
  | cancel =>
    have before {run : Run} (candidate : run.cancel.HasCandidate) : run.HasCandidate :=
      candidate.of_alike (Run.alike_cancel _) Run.requested_cancel
    refine paced.alike (Run.alike_cancel _) (Nat.le_refl _) ?_ ?_ ?_ ?_
    · simpa using paced.fresh
    · simp [Run.isLooping]
    · intro looping candidate
      exact paced.prompt (by simpa [Run.isLooping] using looping) (before candidate)
    · intro deadline blocked candidate
      exact paced.waits (by simpa using blocked) (before candidate)
  | fail looping => exact paced.leave rfl (Nat.le_refl _) (List.Sublist.refl _) rfl rfl rfl
  | share client =>
    exact paced.alike (.refl _) (Nat.le_refl _) paced.fresh id paced.prompt paced.waits
  | register callback =>
    exact paced.alike (Run.alike_update _ _ _ _ _ _) (Nat.le_refl _) paced.fresh id paced.prompt
      paced.waits
  | report ended unreported =>
    refine paced.leave ?_ (Nat.le_refl _) (List.Sublist.refl _) rfl rfl rfl
    simp [Run.isLooping, ended]
  | finish reported =>
    exact paced.alike (Run.alike_update _ _ _ _ _ _) (Nat.le_refl _) paced.fresh id paced.prompt
      paced.waits

end kept

theorem paced_start (clock : Nat) (commands : List Command) (limit throttle : Nat) (client : σ) :
    (start clock commands limit throttle client).Paced clock := by
  constructor <;> simp [start, Run.completionTimes, Run.dueTime]

theorem Reaches.paced {setup : Setup σ} {clock limit throttle : Nat} {client : σ}
    {commands : List Command} {machine : Machine σ}
    (reached : (start clock commands limit throttle client).Reaches setup machine) :
    machine.Paced clock :=
  reached.invariant (Paced clock) (paced_start clock commands limit throttle client)
    fun happens paced => paced.happens happens

/-- The loop begins at once. A command is sent off when the loop begins, while nothing has been
completed, or exactly a pause after the latest completion before it, and so at least a pause after
each of them. The loop blocks only if it has been asked to stop, if as many commands are in
flight as may be, if the pause is not over, or if every waiting command is on an item that some
running command is on. -/
theorem dispatched_when_due {setup : Setup σ} {clock limit throttle : Nat} {client : σ}
    {commands : List Command} {machine : Machine σ}
    (reached : (start clock commands limit throttle client).Reaches setup machine) :
    (machine.run.phase = .created → machine.clock = clock) ∧
      (∀ (position time index endsAt : Nat) (ref : String),
        machine.run.history[position]? = some (.dispatched time index ref endsAt) →
        (Run.completionTimes (machine.run.history.take position) = [] ∧ time = clock ∨
          ∃ latest,
            (Run.completionTimes (machine.run.history.take position)).getLast? = some latest ∧
              time = latest + throttle) ∧
        ∀ moment ∈ Run.completionTimes (machine.run.history.take position),
          moment + throttle ≤ time) ∧
      ∀ deadline, machine.run.phase = .blocked deadline →
        machine.run.stop.requested = true ∨ machine.run.inFlight.length = limit ∨
          (∃ latest, (Run.completionTimes machine.run.history).getLast? = some latest ∧
            machine.clock < latest + throttle) ∨
          ∀ command ∈ machine.run.commands, command.status = .waiting →
            ∃ other ∈ machine.run.commands, other.status = .running ∧
              other.entityRef = command.entityRef := by
  have paced := reached.paced
  obtain ⟨sameLimit, sameThrottle⟩ := reached.limits
  have sameThrottle : machine.run.throttle = throttle := sameThrottle
  have sameLimit : machine.run.limit = limit := sameLimit
  refine ⟨paced.fresh, ?_, ?_⟩
  · intro position time index endsAt ref told
    obtain ⟨due, apart⟩ := paced.law told
    rw [sameThrottle] at due apart
    refine ⟨?_, apart⟩
    rw [Run.dueTime] at due
    cases latest : (Run.completionTimes (machine.run.history.take position)).getLast? with
    | none =>
      rw [latest] at due
      exact .inl ⟨List.getLast?_eq_none_iff.mp latest, due⟩
    | some moment =>
      rw [latest] at due
      exact .inr ⟨moment, rfl, due⟩
  · intro deadline blocked
    by_cases candidate : machine.run.HasCandidate
    · right; right; left
      have pause := paced.pause (by simp [Run.isLooping, blocked])
      have early := (paced.waits blocked candidate).1
      rw [pause] at early
      cases latest : (Run.completionTimes machine.run.history).getLast? with
      | none => simp [latest] at early
      | some moment =>
        rw [sameThrottle] at early
        simp only [latest] at early
        refine ⟨moment, rfl, ?_⟩
        split at early <;> omega
    · rcases Run.not_hasCandidate candidate paced.within with stopped | full | shared
      · exact .inl stopped
      · exact .inr (.inl (full.trans sameLimit))
      · exact .inr (.inr (.inr shared))

def alternating : Machine Unit :=
  start 5
    [{ id := 0, entityRef := "Q1", mode := .add, prop := "P31", value := some "Q5" },
     { id := 1, entityRef := "Q1", mode := .add, prop := "P31", value := some "Q6" },
     { id := 2, entityRef := "Q2", mode := .other "merge" },
     { id := 3, entityRef := "Q3", mode := .add, prop := "P31", value := some "Q5" }]
    2 50 ()

theorem dispatched_when_due_alternating :
    (alternating.steps sparing 200 8).clock = 15 ∧
      (alternating.steps sparing 200 8).run.phase = .blocked 65 ∧
      (∃ latest, (Run.completionTimes
        (alternating.steps sparing 200 8).run.history).getLast? = some latest ∧
          15 < latest + 50) ∧
      Run.completionTimes ((alternating.steps sparing 200 11).run.history.take 7) = [5, 15] ∧
      ∀ (time index endsAt : Nat) (ref : String),
        (alternating.steps sparing 200 11).run.history[7]? =
          some (.dispatched time index ref endsAt) →
        time = 65 ∧ ∀ moment ∈ [5, 15], moment + 50 ≤ time := by
  have now : (alternating.steps sparing 200 8).clock = 15 := by decide +kernel
  have blocked : (alternating.steps sparing 200 8).run.phase = .blocked 65 := by decide +kernel
  have times : Run.completionTimes ((alternating.steps sparing 200 11).run.history.take 7) =
      [5, 15] := by decide +kernel
  refine ⟨now, blocked, ?_, times, ?_⟩
  · obtain ⟨-, -, blocks⟩ := dispatched_when_due (reaches_steps sparing 200 8 alternating)
    rcases blocks _ blocked with stopped | full | early | shared
    · exact absurd stopped (by decide +kernel)
    · exact absurd full (by decide +kernel)
    · rw [now] at early
      exact early
    · exact absurd shared (by decide +kernel)
  · intro time index endsAt ref sent
    obtain ⟨-, law, -⟩ := dispatched_when_due (reaches_steps sparing 200 11 alternating)
    obtain ⟨due, apart⟩ := law 7 _ _ _ _ sent
    rw [times] at due apart
    rcases due with ⟨none, -⟩ | ⟨latest, isLatest, after⟩
    · simp at none
    · cases isLatest
      exact ⟨after, apart⟩

end Machine

end EditBatch

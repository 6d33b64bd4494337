import EditBatch.Proofs.Run.Completion
import EditBatch.Proofs.Run.Pace
import EditBatch.Proofs.Run.Registration
import Mathlib.Data.Nat.Find

/-! Waking up for nothing.

Between two things that happen to it a waiting run may wake up at any number of polls. It finds
nothing to do and goes on waiting, so that nothing is changed but the end of its wait. What there is
to do at a moment does not depend on when the run woke up before, and a wait never outlasts the next
thing to do. So two runs that are polled at different intervals do the same at the same times.
-/

set_option autoImplicit false

namespace EditBatch

def Setup.polling {σ : Type} (setup : Setup σ) (poll : Nat) (positive : 0 < poll) : Setup σ :=
  { setup with poll, poll_pos := positive }

/-- A phase as it shows: until when a run waits does not. -/
def Phase.undated : Phase → Phase
  | .blocked _ => .blocked 0
  | .created => .created
  | .dispatching => .dispatching
  | .completing => .completing
  | .leaving departure => .leaving departure
  | .draining => .draining
  | .ended outcome => .ended outcome
  | .crashed => .crashed

namespace Run

variable {σ : Type}

def inPhase (phase : Phase) (run : Run) : Run := { run with phase }

@[simp] theorem phase_inPhase (phase : Phase) (run : Run) : (run.inPhase phase).phase = phase := rfl

def undated (run : Run) : Run := run.inPhase run.phase.undated

def awake (run : Run) : Run := run.inPhase .completing

/-- There is something to complete, to stop for or to send off. -/
def Stirs (now : Nat) (run : Run) : Prop :=
  (∃ flight ∈ run.inFlight, flight.endsAt ≤ now) ∨
    (run.inFlight.isEmpty ∧ run.stop.requested) ∨ (run.HasCandidate ∧ run.notBefore ≤ now)

/-- A run waits only while it is unfinished, and not beyond the pause that keeps a command back. -/
structure Waits (run : Run) : Prop where
  unfinished : ∀ deadline, run.phase = .blocked deadline →
    ¬ (run.inFlight.isEmpty ∧ run.commands.all (·.isDone))
  inTime : ∀ deadline, run.phase = .blocked deadline → run.HasCandidate →
    deadline ≤ run.notBefore

theorem phase_of_undated {one other : Run} (same : one.undated = other.undated) :
    one.phase = other.phase ∨
      (∃ deadline, one.phase = .blocked deadline) ∧
        ∃ deadline, other.phase = .blocked deadline := by
  have phases : one.phase.undated = other.phase.undated := congrArg Run.phase same
  cases former : one.phase <;> cases latter : other.phase <;>
    simp_all [Phase.undated]

theorem blocked_of_undated {one other : Run} (same : other.undated = one.undated) {deadline : Nat}
    (blocked : one.phase = .blocked deadline) : ∃ otherwise, other.phase = .blocked otherwise := by
  rcases phase_of_undated same with phases | ⟨asleep, -⟩
  · exact ⟨deadline, phases.trans blocked⟩
  · exact asleep

theorem inPhase_of_undated {one other : Run} (same : one.undated = other.undated) (phase : Phase) :
    one.inPhase phase = other.inPhase phase := by
  have again := congrArg (inPhase phase) same
  exact again

theorem eq_of_undated {one other : Run} (same : one.undated = other.undated)
    (phases : one.phase = other.phase) : one = other := by
  calc
    one = one.inPhase one.phase := rfl
    _ = other.inPhase one.phase := inPhase_of_undated same _
    _ = other := by rw [phases]; rfl

theorem undated_of_awake {one other : Run} {deadline otherwise : Nat}
    (same : one.awake = other.awake) (here : one.phase = .blocked deadline)
    (there : other.phase = .blocked otherwise) :
    one.undated = other.undated := by
  rw [undated, undated, here, there]
  have again := congrArg (inPhase (.blocked 0)) same
  exact again

/-! ## What a step reads -/

theorem popEnded?_inPhase (phase : Phase) (now : Nat) (run : Run) :
    (run.inPhase phase).popEnded? now =
      (run.popEnded? now).map fun popped => (popped.1, popped.2.inPhase phase) := by
  simp only [popEnded?, Option.map_map]
  rfl

theorem complete?_inPhase (phase : Phase) (listener : Listener) (now index : Nat)
    (result : CommandResult) (run : Run) :
    (run.inPhase phase).complete? listener now index result =
      (run.complete? listener now index result).map (inPhase phase) := by
  have same : (run.inPhase phase).commands = run.commands := rfl
  cases found : run.commands[index]? with
  | none => simp only [complete?, same, found, Option.map_none]
  | some command =>
    cases advanced : command.advance .done with
    | error reason => simp only [complete?, same, found, advanced, Option.map_none]
    | ok done =>
      simp only [complete?, same, found, advanced, record_eq, Option.map_some]
      rfl

theorem land_inPhase (setup : Setup σ) (phase : Phase) (now : Nat) (flight : Flight) (run : Run) :
    (run.inPhase phase).land setup now flight = run.land setup now flight := by
  unfold land
  cases flight.result with
  | none => rfl
  | some result =>
    simp only [complete?_inPhase]
    cases run.complete? setup.listener now flight.index result with
    | none => rfl
    | some landed => rfl

theorem step_of_blocked {setup : Setup σ} {run : Run} {deadline : Nat}
    (phase : run.phase = .blocked deadline) (now : Nat) (client : σ) :
    run.step setup now client = run.awake.step setup now client := by
  simp only [step, phase, awake, phase_inPhase, popEnded?_inPhase]
  cases run.popEnded? now with
  | none => rfl
  | some popped => simp only [Option.map_some, land_inPhase]

theorem step_polling {setup : Setup σ} {poll : Nat} (positive : 0 < poll)
    (short : setup.poll < Nat.pow 2 53) (brief : poll < Nat.pow 2 53) (now : Nat) (run : Run)
    (client : σ) :
    (run.step (setup.polling poll positive) now client).2 = (run.step setup now client).2 ∧
      (run.step (setup.polling poll positive) now client).1.undated =
        (run.step setup now client).1.undated := by
  have turned : (run.turn (setup.polling poll positive) now).undated =
      (run.turn setup now).undated := by
    unfold turn
    split
    · rfl
    · split <;> rfl
  have landed (flight : Flight) (run : Run) :
      run.land (setup.polling poll positive) now flight = run.land setup now flight := rfl
  have drained : run.drain (setup.polling poll positive) now = run.drain setup now := rfl
  cases phase : run.phase with
  | created =>
    have one : ¬ pauseLimit ≤ setup.poll := lt_pauseLimit short
    have other : ¬ pauseLimit ≤ (setup.polling poll positive).poll := lt_pauseLimit brief
    simp only [step, phase, one, other, or_false, and_self]
  | dispatching =>
    simp only [step, phase]
    split
    · split
      · exact ⟨rfl, rfl⟩
      · exact ⟨rfl, turned⟩
    · exact ⟨rfl, turned⟩
  | completing | blocked deadline | leaving departure | draining | ended outcome | crashed =>
    simp only [step, phase, landed, drained, and_self]

/-! ## Things to do -/

theorem popEnded?_eq_none_iff {now : Nat} {run : Run} :
    run.popEnded? now = none ↔ ∀ flight ∈ run.inFlight, now < flight.endsAt := by
  simp [popEnded?, hasEnded]

theorem stirs_congr {now : Nat} {one other : Run} (same : one.awake = other.awake) :
    one.Stirs now ↔ other.Stirs now := by
  change one.awake.Stirs now ↔ other.awake.Stirs now
  rw [same]

theorem not_stirs_iff {now : Nat} {run : Run} :
    ¬ run.Stirs now ↔
      (∀ flight ∈ run.inFlight, now < flight.endsAt) ∧
        ¬ (run.inFlight.isEmpty ∧ run.stop.requested) ∧ run.dispatchable? now = none := by
  rw [Stirs, not_or, not_or, dispatchable?_eq_none_iff]
  refine and_congr ?_ (and_congr Iff.rfl ?_)
  · simp
  · simp

theorem Waits.ready_le {run : Run} {deadline time moment : Nat} (waits : run.Waits)
    (phase : run.phase = .blocked deadline) (ready : run.readyAt? = some time)
    (stirs : run.Stirs moment) : time ≤ moment := by
  have looping : run.isLooping = true := by simp [isLooping, phase]
  rcases stirs with ⟨flight, member, ended⟩ | ⟨empty, asked⟩ | ⟨candidate, free⟩
  · exact Nat.le_trans (readyAt?_le_endsAt looping ready member) ended
  · have idle : run.inFlight = [] := by simpa using empty
    simp [readyAt?, phase, earliestEnd, idle, StopFlag.wakesAt, asked] at ready
    omega
  · have due := readyAt?_le_deadline phase ready
    have early := waits.inTime deadline phase candidate
    omega

theorem waits_of_unblocked {run : Run} (unblocked : ∀ deadline, run.phase ≠ .blocked deadline) :
    run.Waits :=
  ⟨fun deadline blocked => absurd blocked (unblocked deadline),
    fun deadline blocked => absurd blocked (unblocked deadline)⟩

theorem Waits.alike {run next : Run} (waits : run.Waits) (alike : run.Alike next)
    (phase : next.phase = run.phase)
    (kept : run.stop.requested = true → next.stop.requested = true) : next.Waits := by
  constructor
  · rw [phase, alike.inFlight, alike.commands]
    exact waits.unfinished
  · rw [phase, alike.notBefore]
    exact fun deadline blocked candidate =>
      waits.inTime deadline blocked (candidate.of_alike alike kept)

theorem waits_turn (setup : Setup σ) {now : Nat} {run : Run}
    (taken : run.dispatchable? now = none) : (run.turn setup now).Waits := by
  have alike := alike_turn setup now run
  constructor
  · intro deadline blocked
    rw [alike.inFlight, alike.commands]
    unfold turn at blocked
    split at blocked
    next => simp at blocked
    next =>
      split at blocked
      next => simp at blocked
      next unfinished => exact unfinished
  · intro deadline blocked candidate
    have before := candidate.of_alike alike (by rw [stop_turn]; exact id)
    rw [phase_turn_eq_blocked blocked, alike.notBefore]
    exact pause_le (dispatchable?_eq_none_iff.mp taken before)

end Run

namespace Machine

variable {σ : Type} {setup : Setup σ} {machine next : Machine σ}

theorem Move.waits (move : machine.Move setup next) : next.run.Waits := by
  cases move with
  | turn phase taken => exact Run.waits_turn setup taken
  | begin | overflow | lose | wake | quit | finish => exact Run.waits_of_unblocked (by simp)
  | dispatch phase =>
    refine Run.waits_of_unblocked fun deadline => ?_
    simp [Run.dispatch_phase, phase]
  | @land time _ _ _ landed =>
    refine Run.waits_of_unblocked fun deadline => ?_
    simp only [Run.resumed]
    split <;> simp
  | @depart departure =>
    refine Run.waits_of_unblocked fun deadline => ?_
    cases departure <;> simp [Run.depart]
  | drain phase first completed =>
    obtain ⟨command, completion⟩ := Run.completion_of_complete? completed
    refine Run.waits_of_unblocked fun deadline => ?_
    simp [completion.phase, phase]
  | skip phase => exact Run.waits_of_unblocked (by simp [phase])

theorem Happens.waits (happens : machine.Happens setup next) (waits : machine.run.Waits) :
    next.run.Waits := by
  cases happens with
  | step horizon due => exact (move_of_step due).waits
  | cancel =>
    exact waits.alike (Run.alike_cancel _) (Run.phase_cancel _) fun asked =>
      Run.requested_cancel asked
  | fail => exact Run.waits_of_unblocked (by simp)
  | wait | share | register | report | finish =>
    exact waits.alike (Run.alike_update _ _ _ _ _ _) rfl id

theorem Reaches.waits {clock limit throttle : Nat} {client : σ} {commands : List Command}
    (reached : (start clock commands limit throttle client).Reaches setup machine) :
    machine.run.Waits :=
  reached.invariant (fun machine => machine.run.Waits)
    (Run.waits_of_unblocked (by simp [start])) fun happens waits => happens.waits waits

/-! ## Polls -/

-- Between two waits the loop looks for something to send off, at the same moment.
/-- The run waits, or it has woken up and finds nothing to do. -/
inductive Dozes (machine : Machine σ) : Prop where
  | asleep {deadline : Nat} (phase : machine.run.phase = .blocked deadline)
      (waits : machine.run.Waits)
  | checking (phase : machine.run.phase = .dispatching)
      (still : ¬ machine.run.Stirs machine.clock)
      (unfinished : ¬ (machine.run.inFlight.isEmpty ∧ machine.run.commands.all (·.isDone)))

def roused (setup : Setup σ) (moment : Nat) (machine : Machine σ) : Machine σ :=
  ⟨moment, (machine.run.awake.step setup moment machine.client).1,
    (machine.run.awake.step setup moment machine.client).2⟩

theorem waits_roused (setup : Setup σ) (moment : Nat) (machine : Machine σ) :
    (machine.roused setup moment).run.Waits := by
  have due : step? setup 0 ⟨moment, machine.run.awake, machine.client⟩ =
      some (machine.roused setup moment) :=
    step?_eq_some_iff.mpr ⟨0, rfl, Nat.le_refl 0, by rw [roused, Nat.max_zero]⟩
  exact (move_of_step due).waits

namespace Dozes

variable {horizon : Nat}

theorem polled (dozes : machine.Dozes) (due : machine.step? setup horizon = some next)
    (still : ¬ machine.run.Stirs next.clock) :
    next.Dozes ∧ next.run.awake = machine.run.awake ∧ next.client = machine.client := by
  obtain ⟨time, ready, -, rfl⟩ := step?_eq_some_iff.mp due
  obtain ⟨unended, busy, -⟩ := Run.not_stirs_iff.mp still
  cases dozes with
  | asleep phase waits =>
    have stepped : machine.run.step setup (max machine.clock time) machine.client =
        (machine.run.inPhase .dispatching, machine.client) := by
      simp only [Run.step, phase, Run.popEnded?_eq_none_iff.mpr unended, if_neg busy]
      rfl
    rw [stepped]
    exact ⟨.checking rfl still (waits.unfinished _ phase), rfl, rfl⟩
  | checking phase quiet unfinished =>
    simp only [Run.readyAt?, phase, Option.some.injEq] at ready
    subst ready
    rw [Nat.max_zero]
    have taken := (Run.not_stirs_iff.mp quiet).2.2
    have turned : machine.run.turn setup machine.clock =
        machine.run.inPhase (.blocked (machine.clock + machine.run.pause setup machine.clock)) := by
      unfold Run.turn
      rw [if_neg busy, if_neg unfinished]
      rfl
    have stepped : machine.run.step setup machine.clock machine.client =
        (machine.run.turn setup machine.clock, machine.client) := by
      simp only [Run.step, phase, taken]
    have waits := Run.waits_turn setup taken
    rw [stepped]
    rw [turned] at waits ⊢
    exact ⟨.asleep rfl waits, rfl, rfl⟩

theorem exists_step (setup : Setup σ) {moment : Nat} (dozes : machine.Dozes)
    (stirs : machine.run.Stirs moment) (later : machine.clock ≤ moment) (soon : moment ≤ horizon) :
    ∃ next, machine.step? setup horizon = some next ∧ next.clock ≤ moment := by
  cases dozes with
  | asleep phase waits =>
    have looping : machine.run.isLooping = true := by simp [Run.isLooping, phase]
    obtain ⟨time, ready⟩ : ∃ time, machine.run.readyAt? = some time := by
      rcases Run.readyAt?_of_looping looping with ready | ⟨_, time, -, ready, -⟩
      · exact ⟨0, ready⟩
      · exact ⟨time, ready⟩
    have early := waits.ready_le phase ready stirs
    exact ⟨_, step?_eq_some_iff.mpr ⟨time, ready, Nat.le_trans early soon, rfl⟩,
      Nat.max_le.mpr ⟨later, early⟩⟩
  | checking phase =>
    have ready : machine.run.readyAt? = some 0 := by simp only [Run.readyAt?, phase]
    exact ⟨_, step?_eq_some_iff.mpr ⟨0, ready, Nat.zero_le _, rfl⟩,
      Nat.max_le.mpr ⟨later, Nat.zero_le _⟩⟩

theorem step_eq_roused (dozes : machine.Dozes) (due : machine.step? setup horizon = some next)
    (stirs : machine.run.Stirs next.clock) : next = machine.roused setup next.clock := by
  obtain ⟨time, ready, -, rfl⟩ := step?_eq_some_iff.mp due
  cases dozes with
  | asleep phase waits =>
    rw [roused, Run.step_of_blocked phase]
  | checking phase still unfinished =>
    simp only [Run.readyAt?, phase, Option.some.injEq] at ready
    subst ready
    exact absurd (Nat.max_zero machine.clock ▸ stirs) still

theorem rests (setup : Setup σ) (dozes : machine.Dozes) (inTime : machine.clock ≤ horizon)
    (quiet : ∀ moment, machine.clock ≤ moment → moment ≤ horizon → ¬ machine.run.Stirs moment) :
    (∃ deadline, (machine.runUntil setup horizon).run.phase = .blocked deadline) ∧
      (machine.runUntil setup horizon).run.awake = machine.run.awake ∧
      (machine.runUntil setup horizon).client = machine.client := by
  fun_induction runUntil setup horizon machine with
  | case1 machine next due ih =>
    have later := clock_le_of_step? due
    have soon : next.clock ≤ horizon := Nat.max_eq_right inTime ▸ clock_step?_le due
    obtain ⟨still, awake, client⟩ := dozes.polled due (quiet _ later soon)
    obtain ⟨asleep, same, kept⟩ := ih still soon fun moment after before stirs =>
      quiet moment (Nat.le_trans later after) before ((Run.stirs_congr awake).mp stirs)
    exact ⟨asleep, same.trans awake, kept.trans client⟩
  | case2 machine rests =>
    refine ⟨?_, rfl, rfl⟩
    cases dozes with
    | asleep phase => exact ⟨_, phase⟩
    | checking phase =>
      have early := step?_eq_none_iff.mp rests 0 (by simp only [Run.readyAt?, phase])
      omega

/-- A run wakes up for the first thing to do, however often it wakes up for nothing before. -/
theorem wakes (setup : Setup σ) {moment : Nat} (dozes : machine.Dozes)
    (stirs : machine.run.Stirs moment)
    (first : ∀ earlier, machine.clock ≤ earlier → earlier < moment → ¬ machine.run.Stirs earlier)
    (later : machine.clock ≤ moment) (soon : moment ≤ horizon) :
    machine.runUntil setup horizon = (machine.roused setup moment).runUntil setup horizon ∧
      (machine.roused setup moment).run.effort horizon moment <
        machine.run.effort horizon machine.clock := by
  fun_induction runUntil setup horizon machine with
  | case1 machine next due ih =>
    obtain ⟨other, again, bound⟩ := dozes.exists_step setup stirs later soon
    cases due.symm.trans again
    have after := clock_le_of_step? due
    by_cases now : next.clock = moment
    -- The run is awake in time, or this was one of the polls before.
    · subst now
      have same := dozes.step_eq_roused due stirs
      rw [← same]
      exact ⟨rfl, effort_step?_lt due⟩
    · have before : next.clock < moment := Nat.lt_of_le_of_ne bound now
      obtain ⟨still, awake, client⟩ := dozes.polled due (first _ after before)
      have same : next.roused setup moment = machine.roused setup moment := by
        rw [roused, awake, client, roused]
      obtain ⟨goes, less⟩ := ih still ((Run.stirs_congr awake).mpr stirs)
        (fun earlier from_ until_ stirs => first earlier (Nat.le_trans after from_) until_
          ((Run.stirs_congr awake).mp stirs)) bound
      rw [same] at goes less
      exact ⟨goes, Nat.lt_trans less (effort_step?_lt due)⟩
  | case2 machine rests =>
    obtain ⟨next, due, -⟩ := dozes.exists_step setup stirs later soon
    rw [rests] at due
    simp at due

end Dozes

/-! ## Two runs -/

/-- Two runs that look alike, at the same time and against the same client. -/
structure Resembles (one other : Machine σ) : Prop where
  clock : other.clock = one.clock
  client : other.client = one.client
  run : other.run.undated = one.run.undated

/-- Two runs that look alike, at the same time unless they wait. -/
structure Parallels (one other : Machine σ) : Prop where
  client : other.client = one.client
  run : other.run.undated = one.run.undated
  clock : other.clock = one.clock ∨ ∃ deadline, one.run.phase = .blocked deadline

theorem Resembles.parallels_of_quiet {one other : Machine σ} {horizon : Nat}
    (resembles : one.Resembles other) (dozes : one.Dozes) (also : other.Dozes)
    (awake : other.run.awake = one.run.awake) (setup again : Setup σ)
    (inTime : one.clock ≤ horizon)
    (quiet : ∀ moment, one.clock ≤ moment → moment ≤ horizon → ¬ one.run.Stirs moment) :
    (one.runUntil setup horizon).Parallels (other.runUntil again horizon) := by
  obtain ⟨⟨date, asleep⟩, same, client⟩ := dozes.rests setup inTime quiet
  obtain ⟨⟨otherDate, asleepToo⟩, sameToo, clientToo⟩ :=
    also.rests again (resembles.clock ▸ inTime) fun moment after before stirs =>
      quiet moment (resembles.clock ▸ after) before ((Run.stirs_congr awake).mp stirs)
  refine ⟨by rw [clientToo, client, resembles.client], ?_, .inr ⟨date, asleep⟩⟩
  exact Run.undated_of_awake (by rw [sameToo, same, awake]) asleepToo asleep

section polling

variable {poll horizon : Nat} (positive : 0 < poll) (short : setup.poll < Nat.pow 2 53)
  (brief : poll < Nat.pow 2 53) {one other : Machine σ}

include short brief

theorem Resembles.roused (resembles : one.Resembles other) {moment : Nat}
    (awake : other.run.awake = one.run.awake) :
    (one.roused setup moment).Resembles (other.roused (setup.polling poll positive) moment) := by
  obtain ⟨client, run⟩ := one.run.awake.step_polling positive short brief moment one.client
  refine ⟨rfl, ?_, ?_⟩
  · rw [Machine.roused, awake, resembles.client]
    exact client
  · rw [Machine.roused, awake, resembles.client]
    exact run

theorem Resembles.step? (resembles : one.Resembles other) (same : other.run = one.run)
    (horizon : Nat) :
    (∀ next, one.step? setup horizon = some next →
      ∃ again, other.step? (setup.polling poll positive) horizon = some again ∧
        next.Resembles again) ∧
    (one.step? setup horizon = none →
      other.step? (setup.polling poll positive) horizon = none) := by
  constructor
  · intro next due
    obtain ⟨time, ready, soon, rfl⟩ := step?_eq_some_iff.mp due
    obtain ⟨client, run⟩ :=
      one.run.step_polling positive short brief (max one.clock time) one.client
    refine ⟨_, step?_eq_some_iff.mpr ⟨time, by rw [same, ready], soon, rfl⟩, ?_⟩
    rw [same, resembles.client, resembles.clock]
    exact ⟨rfl, client, run⟩
  · intro rests
    rw [step?_eq_none_iff, same]
    exact step?_eq_none_iff.mp rests

/-- Runs that look alike still do after any time, but their clocks may stand at different polls
while they wait. -/
theorem Resembles.runUntil (resembles : one.Resembles other) (waits : one.run.Waits)
    (also : other.run.Waits) (inTime : one.clock ≤ horizon) :
    (one.runUntil setup horizon).Parallels
      (other.runUntil (setup.polling poll positive) horizon) := by
  -- The induction is on what the first run has left to do; the second one keeps up with it.
  induction left : one.run.effort horizon one.clock using Nat.strongRecOn
    generalizing one other with
  | ind effort ih =>
    subst left
    by_cases blocked : ∃ deadline, one.run.phase = .blocked deadline
    · obtain ⟨deadline, here⟩ := blocked
      obtain ⟨otherwise, there⟩ := Run.blocked_of_undated resembles.run here
      have awake : other.run.awake = one.run.awake := Run.inPhase_of_undated resembles.run _
      have dozes : one.Dozes := .asleep here waits
      have dozesToo : other.Dozes := .asleep there also
      by_cases thing : ∃ moment, one.clock ≤ moment ∧ moment ≤ horizon ∧ one.run.Stirs moment
      · classical
        obtain ⟨later, soon, stirs⟩ := Nat.find_spec thing
        have first (earlier : Nat) (after : one.clock ≤ earlier)
            (before : earlier < Nat.find thing) : ¬ one.run.Stirs earlier := fun stirs =>
          Nat.find_min thing before ⟨after, by omega, stirs⟩
        generalize Nat.find thing = moment at *
        obtain ⟨goes, less⟩ := dozes.wakes setup stirs first later soon
        obtain ⟨goesToo, -⟩ := dozesToo.wakes (setup.polling poll positive)
          ((Run.stirs_congr awake).mpr stirs)
          (fun earlier after before stirs => first earlier (resembles.clock ▸ after) before
            ((Run.stirs_congr awake).mp stirs)) (resembles.clock ▸ later) soon
        rw [goes, goesToo]
        exact ih _ less (resembles.roused positive short brief awake) (waits_roused _ _ _)
          (waits_roused _ _ _) soon rfl
      · exact resembles.parallels_of_quiet dozes dozesToo awake setup (setup.polling poll positive)
          inTime fun moment after before stirs => thing ⟨moment, after, before, stirs⟩
    · have same : other.run = one.run := by
        rcases Run.phase_of_undated resembles.run with phases | ⟨-, asleep⟩
        · exact Run.eq_of_undated resembles.run phases
        · exact absurd asleep blocked
      obtain ⟨goes, rests⟩ := resembles.step? positive short brief same horizon
      cases due : one.step? setup horizon with
      | none =>
        rw [runUntil_eq_self due, runUntil_eq_self (rests due)]
        exact ⟨resembles.client, resembles.run, .inl resembles.clock⟩
      | some next =>
        obtain ⟨again, dueToo, resembles⟩ := goes next due
        rw [runUntil_of_step? due, runUntil_of_step? dueToo]
        have soon : next.clock ≤ horizon := Nat.max_eq_right inTime ▸ clock_step?_le due
        exact ih _ (effort_step?_lt due) resembles (move_of_step due).waits
          (move_of_step dueToo).waits soon rfl

end polling

end Machine

end EditBatch

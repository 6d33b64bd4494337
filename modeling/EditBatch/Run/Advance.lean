import EditBatch.Run.Step

/-! Letting time pass for a run.

A run steps at every moment at which it is ready, up to and including a horizon. Each step
uses up work, time or a phase: a dispatch turns two units of work into one, a completion uses
one, a wait moves the clock, and all other steps lead to a later phase.
-/

set_option autoImplicit false

namespace EditBatch

structure Machine (σ : Type) where
  clock : Nat
  run : Run
  client : σ

namespace Run

/-- Dispatches and completions still to come. -/
def work (run : Run) : Nat :=
  2 * run.commands.countP (·.status = .waiting) + run.inFlight.length

/-- Steps without work or time lead to a lower rank. A deadline that is over counts as higher
than one to come. -/
def rank (clock : Nat) (run : Run) : Nat :=
  match run.phase with
  | .created => 7
  | .completing => 6
  | .dispatching => 5
  | .blocked deadline => if deadline ≤ clock then 6 else 4
  | .leaving _ => 3
  | .draining => 2
  | .ended _ | .crashed => 0

def effort (horizon clock : Nat) (run : Run) : Nat :=
  8 * (run.work + (horizon - clock)) + run.rank clock

end Run

namespace Machine

variable {σ : Type}

def step? (setup : Setup σ) (horizon : Nat) (machine : Machine σ) : Option (Machine σ) :=
  match machine.run.readyAt? with
  | none => none
  | some time =>
    if time ≤ horizon then
      let now := max machine.clock time
      let (run, client) := machine.run.step setup now machine.client
      some ⟨now, run, client⟩
    else none

end Machine

namespace Run

variable {σ : Type}

@[simp] theorem work_notify (listener : Listener) (command : Command) (run : Run) :
    (run.notify listener command).work = run.work := rfl

theorem countP_set_lt {α : Type} (p : α → Bool) (xs : List α) (index : Nat) (old new : α)
    (found : xs[index]? = some old) (was : p old = true) (is : p new = false) :
    (xs.set index new).countP p + 1 = xs.countP p := by
  obtain ⟨bound, rfl⟩ := List.getElem?_eq_some_iff.mp found
  have positive := List.countP_pos_iff.mpr ⟨_, List.getElem_mem bound, was⟩
  rw [List.countP_set bound, if_pos was, if_neg (by simp [is])]
  omega

theorem countP_set_le {α : Type} (p : α → Bool) (xs : List α) (index : Nat) (new : α)
    (is : p new = false) : (xs.set index new).countP p ≤ xs.countP p := by
  by_cases bound : index < xs.length
  · rw [List.countP_set bound, if_neg (c := p new = true) (by simp [is])]
    exact Nat.sub_le _ _
  · exact Nat.le_of_eq (by rw [List.set_eq_of_length_le (by omega)])

theorem countP_waiting_redirect (former current : String) (commands : List Command) :
    (Command.redirect former current commands).countP (·.status = .waiting) =
      commands.countP (·.status = .waiting) := by
  simp only [Command.redirect, List.countP_map]
  congr 1
  funext command
  simp only [Function.comp]
  split <;> rfl

theorem work_record (command : Command) (result : CommandResult) (run : Run) :
    (run.record command result).work = run.work := by
  unfold record
  split
  · split
    · simp only [work, countP_waiting_redirect]
    · rfl
  · rfl
  · rfl

theorem work_complete?_le {listener : Listener} {now index : Nat} {result : CommandResult}
    {run next : Run} (h : run.complete? listener now index result = some next) :
    next.work ≤ run.work ∧ next.inFlight = run.inFlight := by
  unfold complete? at h
  split at h
  · simp at h
  · split at h
    · simp at h
    · rename_i done advanced
      have isDone : done.status = .done := by
        obtain ⟨_, rfl⟩ := (Command.advance_eq_ok_iff _ _ _).mp advanced
        rfl
      simp only [Option.some.injEq] at h
      subst h
      constructor
      · rw [work_notify, work_record]
        have := countP_set_le (fun c : Command => decide (c.status = .waiting)) run.commands index
          done (by simp [isDone])
        simp only [work]
        omega
      · simp only [notify, record]
        split
        · split <;> rfl
        · rfl
        · rfl

theorem length_eraseP_lt {α : Type} {p : α → Bool} {xs : List α} {x : α}
    (found : xs.find? p = some x) : (xs.eraseP p).length + 1 = xs.length := by
  have mem := List.mem_of_find?_eq_some found
  have holds := List.find?_some found
  rw [List.length_eraseP_of_mem mem holds]
  have := List.length_pos_of_mem mem
  omega

theorem work_popEnded? {now : Nat} {run rest : Run} {flight : Flight}
    (h : run.popEnded? now = some (flight, rest)) :
    rest.work + 1 = run.work ∧ rest.phase = run.phase := by
  unfold popEnded? at h
  obtain ⟨found, isFound, pair⟩ := Option.map_eq_some_iff.mp h
  simp only [Prod.mk.injEq] at pair
  obtain ⟨rfl, rfl⟩ := pair
  have := length_eraseP_lt isFound
  constructor
  · simp only [work]; omega
  · rfl

theorem work_land_le (setup : Setup σ) (now : Nat) (flight : Flight) (run : Run) :
    (run.land setup now flight).work ≤ run.work := by
  unfold land
  split
  · exact Nat.le_refl _
  · split
    · exact Nat.le_refl _
    · rename_i next h
      exact (work_complete?_le h).1

theorem nextEligible?_waiting {commands : List Command} {index : Nat} {command : Command}
    (eligible : Command.nextEligible? commands = some index)
    (found : commands[index]? = some command) : command.status = .waiting := by
  obtain ⟨bound, holds, _⟩ := List.findIdx?_eq_some_iff_getElem.mp eligible
  obtain ⟨_, rfl⟩ := List.getElem?_eq_some_iff.mp found
  simp [Command.isEligible] at holds
  exact holds.1

theorem work_dispatch_lt (setup : Setup σ) (now index : Nat) (command : Command) (run : Run)
    (client : σ) (found : run.commands[index]? = some command)
    (waiting : command.status = .waiting) :
    (run.dispatch setup now index command client).1.work < run.work := by
  simp only [dispatch, work_notify]
  have := countP_set_lt (fun c : Command => decide (c.status = .waiting)) run.commands index
    command { command with status := .running } found (by simp [waiting]) (by simp)
  simp only [work, List.length_append, List.length_cons, List.length_nil]
  omega

theorem dispatch_phase (setup : Setup σ) (now index : Nat) (command : Command) (run : Run)
    (client : σ) : (run.dispatch setup now index command client).1.phase = run.phase := rfl

theorem pause_pos (setup : Setup σ) (now : Nat) (run : Run) : 0 < run.pause setup now := by
  have := setup.poll_pos
  unfold pause
  split <;> omega

theorem rank_le (clock : Nat) (run : Run) : run.rank clock ≤ 7 := by
  unfold rank
  split <;> first | omega | (split <;> omega)

theorem turn_rank (setup : Setup σ) (now : Nat) (run : Run) :
    (run.turn setup now).rank now < 5 ∧ (run.turn setup now).work = run.work := by
  have := run.pause_pos setup now
  unfold turn
  split
  · simp [rank, work]
  · split
    · simp [rank, work]
    · simp only [rank, work, and_true]
      rw [if_neg (by omega)]
      omega

theorem work_drain (setup : Setup σ) (now : Nat) (run : Run) (flight : Flight)
    (rest : List Flight) (h : run.inFlight = flight :: rest) :
    (run.drain setup now).work < run.work := by
  unfold drain
  rw [h]
  simp only
  cases completion : complete? setup.listener now flight.index
      (flight.result.getD (.failure .remote "run aborted" "")) { run with inFlight := rest } with
  | none => simp [work, h]
  | some next =>
    have := (work_complete?_le completion).1
    simp only [Option.getD_some]
    simp only [work, h, List.length_cons] at this ⊢
    omega

section effort

variable {setup : Setup σ} {horizon clock now : Nat} {run next : Run} {client : σ}

theorem effort_lt_of_work (later : clock ≤ now) (less : next.work < run.work) :
    next.effort horizon now < run.effort horizon clock := by
  have bound := rank_le now next
  simp only [effort]
  omega

theorem effort_lt_of_time (before : clock < now) (inTime : now ≤ horizon)
    (work : next.work ≤ run.work) : next.effort horizon now < run.effort horizon clock := by
  have bound := rank_le now next
  simp only [effort]
  omega

theorem effort_lt_of_rank (later : clock ≤ now) (work : next.work ≤ run.work)
    (rank : next.rank now < run.rank clock) :
    next.effort horizon now < run.effort horizon clock := by
  simp only [effort]
  omega

theorem effort_land_lt {flight : Flight} {rest : Run} (later : clock ≤ now)
    (popped : run.popEnded? now = some (flight, rest)) :
    (rest.land setup now flight).effort horizon now < run.effort horizon clock := by
  have less := (work_popEnded? popped).1
  have landed := rest.work_land_le setup now flight
  exact effort_lt_of_work later (by omega)

theorem effort_dispatching_lt (phase : run.phase = .dispatching) :
    (run.step setup clock client).1.effort horizon clock < run.effort horizon clock := by
  have turned : (run.turn setup clock).effort horizon clock < run.effort horizon clock := by
    obtain ⟨lower, same⟩ := run.turn_rank setup clock
    refine effort_lt_of_rank (Nat.le_refl clock) (Nat.le_of_eq same) ?_
    simpa only [rank, phase] using lower
  simp only [step, phase]
  split
  next index allowed =>
    split
    next command found =>
      have waiting := nextEligible?_waiting (dispatchable?_eq_some_iff.mp allowed).2 found
      exact effort_lt_of_work (Nat.le_refl clock)
        (work_dispatch_lt setup clock index command run client found waiting)
    next => exact turned
  next => exact turned

theorem effort_completing_lt (phase : run.phase = .completing) :
    (run.step setup clock client).1.effort horizon clock < run.effort horizon clock := by
  simp only [step, phase]
  split
  next flight rest popped => exact effort_land_lt (Nat.le_refl clock) popped
  next =>
    split <;> exact effort_lt_of_rank (Nat.le_refl clock) (Nat.le_refl _) (by simp [rank, phase])

/-- A wait in which nothing ends lasts until its deadline, unless a stop cuts it short. -/
theorem deadline_le_of_ready {deadline time : Nat} (phase : run.phase = .blocked deadline)
    (ready : run.readyAt? = some time) (passed : time ≤ now) (nothing : run.popEnded? now = none)
    (busy : ¬ (run.inFlight.isEmpty ∧ run.stop.requested)) : deadline ≤ now := by
  simp only [readyAt?, phase] at ready
  cases ending : run.earliestEnd with
  | none =>
    have empty : run.inFlight = [] := by
      simpa [earliestEnd, List.min?_eq_none_iff] using ending
    have unasked : run.stop.requested = false := by simpa [empty] using busy
    simp only [ending, StopFlag.wakesAt, unasked, Option.some.injEq] at ready
    simp at ready
    omega
  | some first =>
    simp only [ending, Option.some.injEq] at ready
    rw [earliestEnd] at ending
    obtain ⟨flight, aloft, rfl⟩ := List.mem_map.mp (List.min?_mem ending)
    have none : run.inFlight.find? (hasEnded now) = none := by simpa [popEnded?] using nothing
    have later : now < flight.endsAt := by
      simpa [hasEnded] using List.find?_eq_none.mp none flight aloft
    omega

theorem effort_blocked_lt {deadline time : Nat} (phase : run.phase = .blocked deadline)
    (ready : run.readyAt? = some time) (later : clock ≤ now) (passed : time ≤ now)
    (inTime : clock < now → now ≤ horizon) :
    (run.step setup now client).1.effort horizon now < run.effort horizon clock := by
  have waits : 3 < run.rank clock := by
    simp only [rank, phase]
    split <;> omega
  simp only [step, phase]
  split
  next flight rest popped => exact effort_land_lt later popped
  next nothing =>
    split
    next => exact effort_lt_of_rank later (Nat.le_refl _) waits
    next busy =>
      have due := deadline_le_of_ready phase ready passed nothing busy
      by_cases moved : clock < now
      · exact effort_lt_of_time moved (inTime moved) (Nat.le_refl _)
      · -- The wait was over before this step, so that its rank is the higher one.
        have gone : deadline ≤ clock := by omega
        exact effort_lt_of_rank later (Nat.le_refl _) (by simp [rank, phase, gone])

theorem effort_draining_lt (phase : run.phase = .draining) :
    (run.step setup clock client).1.effort horizon clock < run.effort horizon clock := by
  simp only [step, phase]
  cases flights : run.inFlight with
  | nil =>
    simp only [drain, flights]
    exact effort_lt_of_rank (Nat.le_refl clock) (by simp [work, flights]) (by simp [rank, phase])
  | cons flight rest =>
    exact effort_lt_of_work (Nat.le_refl clock) (work_drain setup clock run flight rest flights)

/-- A step at a moment when the run is ready takes effort. -/
theorem effort_step_lt {time : Nat} (ready : run.readyAt? = some time) (inTime : time ≤ horizon) :
    (run.step setup (max clock time) client).1.effort horizon (max clock time) <
      run.effort horizon clock := by
  have later := Nat.le_max_left clock time
  cases phase : run.phase with
  | created =>
    simp only [step, phase]
    split <;> exact effort_lt_of_rank later (Nat.le_refl _) (by simp [rank, phase])
  | dispatching =>
    simp only [readyAt?, phase, Option.some.injEq] at ready
    subst ready
    simpa only [Nat.max_zero] using effort_dispatching_lt phase
  | completing =>
    simp only [readyAt?, phase, Option.some.injEq] at ready
    subst ready
    simpa only [Nat.max_zero] using effort_completing_lt phase
  | blocked deadline =>
    exact effort_blocked_lt phase ready later (Nat.le_max_right clock time) fun _ => by omega
  | leaving departure =>
    simp only [step, phase]
    exact effort_lt_of_rank later (by cases departure <;> exact Nat.le_refl _)
      (by cases departure <;> simp [depart, rank, phase])
  | draining =>
    simp only [readyAt?, phase, Option.some.injEq] at ready
    subst ready
    simpa only [Nat.max_zero] using effort_draining_lt phase
  | ended outcome => simp [readyAt?, phase] at ready
  | crashed => simp [readyAt?, phase] at ready

end effort

end Run

namespace Machine

variable {σ : Type}

theorem effort_step?_lt {setup : Setup σ} {horizon : Nat} {machine next : Machine σ}
    (h : machine.step? setup horizon = some next) :
    next.run.effort horizon next.clock < machine.run.effort horizon machine.clock := by
  unfold step? at h
  split at h
  · simp at h
  · rename_i time ready
    split at h
    · rename_i inTime
      simp only [Option.some.injEq] at h
      subst h
      exact Run.effort_step_lt ready inTime
    · simp at h

def runUntil (setup : Setup σ) (horizon : Nat) (machine : Machine σ) : Machine σ :=
  match _h : machine.step? setup horizon with
  | some next => next.runUntil setup horizon
  | none => machine
termination_by machine.run.effort horizon machine.clock
decreasing_by exact effort_step?_lt _h

end Machine

end EditBatch

import EditBatch.Proofs.Session.Attendance
import EditBatch.Proofs.Session.Notification

/-! One run after the other.

A run is started when the limits are right and every earlier run has its report. By then all that
these have sent off has ended, so that the calls of two runs never overlap. A start that is refused,
and a request to stop a run that has finished, change nothing at all.
-/

set_option autoImplicit false

namespace EditBatch

def StartRefusal.isAboutLimits : StartRefusal → Bool
  | .concurrencyTooLow _ | .negativeThrottle _ => true
  | .alreadyRunning _ => false

namespace Run

variable {σ : Type}

def EndedBy (moment : Nat) (run : Run) : Prop :=
  ∀ time index ref endsAt, .dispatched time index ref endsAt ∈ run.history → endsAt ≤ moment

theorem EndedBy.mono {moment later : Nat} {run : Run} (ended : run.EndedBy moment)
    (le : moment ≤ later) : run.EndedBy later :=
  fun time index ref endsAt member => Nat.le_trans (ended time index ref endsAt member) le

end Run

namespace Machine

variable {σ : Type} {setup : Setup σ} {machine next : Machine σ}

theorem Transition.endedBy (transition : machine.Transition setup next)
    (ended : machine.run.EndedBy machine.run.lastEnd) : next.run.EndedBy next.run.lastEnd := by
  have quiet (history : next.run.history = machine.run.history)
      (lastEnd : next.run.lastEnd = machine.run.lastEnd) :
      next.run.EndedBy next.run.lastEnd := by
    rw [Run.EndedBy, history, lastEnd]
    exact ended
  have completes {now index : Nat} {command : Command} {result : CommandResult} {run landed : Run}
      (completion : Run.Completion now index command result run landed)
      (history : run.history = machine.run.history) (same : landed.history = next.run.history)
      (lastEnd : next.run.lastEnd = machine.run.lastEnd) :
      next.run.EndedBy next.run.lastEnd := by
    intro time position ref endsAt member
    rw [← same, completion.history, history] at member
    rw [lastEnd]
    exact ended time position ref endsAt (by simpa using member)
  cases transition with
  | dispatch phase allowed found clock sent =>
    intro time index ref endsAt member
    rw [sent, Run.history_dispatch, List.mem_append] at member
    rw [sent, Run.lastEnd_dispatch]
    rcases member with old | new
    · exact Nat.le_trans (ended time index ref endsAt old) (Nat.le_max_left _ _)
    · obtain ⟨-, -, -, rfl⟩ : time = machine.clock ∧ _ ∧ _ ∧ endsAt = _ := by
        simpa [Run.dispatchEvents] using new
      exact Nat.le_max_right _ _
  | land later popped known completion same =>
    obtain ⟨before, after, -, -, rfl⟩ := Run.popEnded?_spec popped
    exact completes completion rfl same.history.symm
      (same.lastEnd.trans completion.lastEnd)
  | lose later popped lost same =>
    obtain ⟨before, after, -, -, rfl⟩ := Run.popEnded?_spec popped
    exact quiet same.history same.lastEnd
  | drain phase clock first known completion =>
    exact completes completion rfl rfl completion.lastEnd
  | skip phase clock first lost same => exact quiet same.history same.lastEnd
  | pass later same => exact quiet same.history same.lastEnd

theorem Reaches.endedBy {clock limit throttle : Nat} {client : σ} {commands : List Command}
    (reached : (start clock commands limit throttle client).Reaches setup machine) :
    machine.run.EndedBy machine.run.lastEnd :=
  reached.invariant (fun machine => machine.run.EndedBy machine.run.lastEnd)
    (by simp [start, Run.EndedBy]) fun happens ended => (transition_of_happens happens).endedBy ended

theorem Reaches.told_later {first last : Machine σ} (reached : first.Reaches setup last) :
    first.clock ≤ last.clock ∧
      ∀ event ∈ last.run.history, event ∈ first.run.history ∨ first.clock ≤ event.time := by
  induction reached with
  | refl => exact ⟨Nat.le_refl _, fun _ => .inl⟩
  | @tail middle last _ happens ih =>
    obtain ⟨later, told⟩ := ih
    have now := Nat.le_trans later happens.later
    refine ⟨now, fun event member => ?_⟩
    rcases happens.change.told event member with before | new
    · exact told event before
    · exact .inr (Nat.le_trans now new)

end Machine

namespace Session

variable {σ : Type} {session next : Session σ}

/-! ## Starts -/

def InOrder (session : Session σ) : Prop :=
  ∀ run ∈ session.runs.tail, run.isActive = false

/-- A start is refused for its limits if these are wrong, and otherwise for a run that has no
report, if there is one. -/
structure Refuses (defaults : Limits) (request : StartRequest) (session : Session σ)
    (refused : StartRefusal → Prop) : Prop where
  limits : (∃ reason, refused reason ∧ reason.isAboutLimits = true) ↔
    (requestedLimits defaults request).concurrency < 1 ∨
      (requestedLimits defaults request).throttle < 0
  running : (∃ handle, refused (.alreadyRunning handle)) ↔
    (1 ≤ (requestedLimits defaults request).concurrency ∧
      0 ≤ (requestedLimits defaults request).throttle) ∧
        ∃ handle run, session.run? handle = some run ∧ run.report = none

theorem Orderly.inOrder (orderly : session.Orderly) : session.InOrder := by
  intro run member
  cases runs : session.runs with
  | nil => simp [runs] at member
  | cons latest past =>
    rw [runs, List.tail_cons, ← List.mem_reverse] at member
    obtain ⟨handle, bound, is⟩ := List.getElem_of_mem member
    have earlier : handle < past.length := by rwa [List.length_reverse] at bound
    have found : session.run? handle = some run := by
      rw [run?_cons runs, if_neg (Nat.ne_of_lt earlier)]
      exact List.getElem?_eq_some_iff.mpr ⟨bound, is⟩
    exact orderly.past found (by rw [runs, List.length_cons]; omega)

theorem Opens.inOrder {defaults : Limits} (opens : session.Opens defaults next)
    (inOrder : session.InOrder) : next.InOrder := by
  cases opens with
  | none clock client runs =>
    rw [InOrder, runs]
    exact inOrder
  | start request idle clock client runs =>
    intro run member
    rw [runs, List.tail_cons] at member
    cases before : session.runs with
    | nil => simp [before] at member
    | cons latest past =>
      rw [before, List.mem_cons] at member
      rcases member with rfl | earlier
      · simpa [before] using idle
      · exact inOrder run (by rwa [before, List.tail_cons])

theorem InOrder.head?_any_iff (inOrder : session.InOrder) :
    session.runs.head?.any (·.isActive) = true ↔
      ∃ handle run, session.run? handle = some run ∧ run.report = none := by
  constructor
  · intro active
    cases runs : session.runs with
    | nil => simp [runs] at active
    | cons run past =>
      exact ⟨past.length, run, run?_latest runs, by simpa [runs, Run.isActive] using active⟩
  · rintro ⟨handle, run, found, unreported⟩
    have active : run.isActive = true := by rw [Run.isActive, unreported]; rfl
    have member : run ∈ session.runs := List.mem_reverse.mp (List.mem_of_getElem? found)
    cases runs : session.runs with
    | nil => simp [runs] at member
    | cons latest past =>
      rw [runs, List.mem_cons] at member
      rcases member with rfl | earlier
      · simpa using active
      · rw [inOrder run (by rwa [runs, List.tail_cons])] at active
        simp at active

theorem InOrder.refuses (inOrder : session.InOrder) (defaults : Limits) (request : StartRequest)
    {refused : StartRefusal → Prop}
    (tells : ∀ reason, refused reason ↔ session.start defaults request = .error reason) :
    session.Refuses defaults request refused := by
  obtain rfl : refused = fun reason => session.start defaults request = .error reason :=
    funext fun reason => propext (tells reason)
  by_cases low : (requestedLimits defaults request).concurrency < 1
  · constructor <;> simp [start, refusal?, StartRefusal.isAboutLimits, low, Int.not_le.mpr low]
  by_cases negative : (requestedLimits defaults request).throttle < 0
  · constructor <;>
      simp [start, refusal?, StartRefusal.isAboutLimits, low, negative, Int.not_le.mpr negative]
  have right : 1 ≤ (requestedLimits defaults request).concurrency ∧
      0 ≤ (requestedLimits defaults request).throttle :=
    ⟨Int.not_lt.mp low, Int.not_lt.mp negative⟩
  cases active : session.runs.head?.any (·.isActive) with
  | false =>
    constructor <;> simp [start, refusal?, low, negative, active, ← inOrder.head?_any_iff]
  | true =>
    constructor <;>
      simp [start, refusal?, StartRefusal.isAboutLimits, low, negative, active, right,
        ← inOrder.head?_any_iff]

theorem InOrder.refuses_perform (setup : SessionSetup σ) (inOrder : session.InOrder)
    (request : StartRequest) :
    session.Refuses setup.defaults request fun reason =>
      (session.perform setup (.start request)).1 = .error (.refused reason) := by
  refine inOrder.refuses setup.defaults request fun reason => ?_
  simp only [Session.perform, startStep]
  cases session.start setup.defaults request <;> simp

theorem InOrder.refuses_call (inOrder : session.InOrder) (defaults : Limits)
    (request : StartRequest) (report : Report) (name : String) :
    session.Refuses defaults request fun reason =>
      (session.call defaults report (.restart name request)).1 = .error (.refused reason) := by
  refine inOrder.refuses defaults request fun reason => ?_
  have same : (session.notice name report).refusal? defaults request =
      session.refusal? defaults request := rfl
  simp only [call, start, same]
  cases session.refusal? defaults request <;> simp

theorem inOrder_callAll {run : Run} {past : List Run} (runs : session.runs = run :: past)
    (reported : ∀ earlier ∈ past, earlier.report ≠ none) (defaults : Limits) (outcome : Outcome)
    (report : Report) (called : List Callback) :
    ((session.setRun past.length (run.close outcome)).callAll defaults report called).InOrder := by
  refine (opens_callAll defaults report called _).inOrder fun earlier member => ?_
  rw [setRun_latest runs, List.tail_cons] at member
  exact Option.isNone_eq_false_iff.mpr (Option.isSome_iff_ne_none.mpr (reported earlier member))

/-! ## Idle steps -/

/-- A start that is refused, or a request to stop a run that has finished. -/
def isIdle (setup : SessionSetup σ) (session : Session σ) : Step σ → Bool
  | .start request => (session.refusal? setup.defaults request).isSome
  | .cancel handle => (handle <|> session.latest?).any session.isFinished
  | _ => false

def kept (setup : SessionSetup σ) (steps : List (Step σ)) (records : List (StepRecord σ)) :
    List (Step σ × StepRecord σ) :=
  (steps.zip records).filter fun entry => !entry.2.before.isIdle setup entry.1

theorem perform_of_isIdle {setup : SessionSetup σ} {step : Step σ}
    {registered : Nat → List Callback} {told : List (Nat × Notice)}
    (notified : session.Notified registered told) (idle : session.isIdle setup step = true) :
    (session.perform setup step).2 = session := by
  cases step with
  | start request =>
    obtain ⟨reason, refused⟩ := Option.isSome_iff_exists.mp idle
    simp only [Session.perform, startStep, start, refused]
  | cancel handle =>
    obtain ⟨target, resolved, finished⟩ := (Option.any_eq_true _ _).mp idle
    obtain ⟨run, found, isFinished⟩ := (Option.any_eq_true _ _).mp finished
    have inactive : run.isActive = false := by
      rw [Run.isActive, Option.isNone_eq_false_iff, Option.isSome_iff_ne_none]
      intro unreported
      simp [((notified.runs target run found).waiting unreported).1] at isFinished
    simp only [Session.perform, withRun, resolved, found, Run.cancel_of_inactive inactive,
      setRun_self found]
  | _ => simp [isIdle] at idle

/-- A script comes to the same without its idle steps. -/
theorem recordAll_kept (setup : SessionSetup σ) {registered : Nat → List Callback}
    {told : List (Nat × Notice)} (notified : session.Notified registered told)
    (orderly : session.Orderly) (steps : List (Step σ)) :
    session.recordAll setup ((kept setup steps (session.recordAll setup steps).1).map Prod.fst) =
      ((kept setup steps (session.recordAll setup steps).1).map Prod.snd,
        (session.recordAll setup steps).2) := by
  induction steps generalizing session registered told with
  | nil => rfl
  | cons step rest ih =>
    obtain ⟨entries, next⟩ := notified.perform setup orderly step
    have later := ih next (orderly.perform setup step)
    cases idle : session.isIdle setup step with
    | true =>
      have same := perform_of_isIdle notified idle
      rw [same] at later
      simpa [Session.recordAll, kept, idle, same] using later
    | false =>
      simp only [kept] at later
      simp [Session.recordAll, kept, idle, later]

-- Revising an answer leaves the session in which its step was made as it is.
theorem kept_performAll (setup : SessionSetup σ) (steps : List (Step σ)) :
    kept setup steps (session.performAll setup steps) =
      (kept setup steps (session.recordAll setup steps).1).map fun entry =>
        (entry.1, { entry.2 with
          attempt := (session.recordAll setup steps).2.revise entry.2.attempt }) := by
  simp only [kept, performAll, List.zip_map_right, List.filter_map]
  rfl

theorem performAll_kept (setup : SessionSetup σ) {registered : Nat → List Callback}
    {told : List (Nat × Notice)} (notified : session.Notified registered told)
    (orderly : session.Orderly) (steps : List (Step σ)) :
    let remaining := kept setup steps (session.performAll setup steps)
    session.performAll setup (remaining.map Prod.fst) = remaining.map Prod.snd ∧
      (session.recordAll setup (remaining.map Prod.fst)).2 = (session.recordAll setup steps).2 := by
  have same := recordAll_kept setup notified orderly steps
  intro remaining
  have revised : remaining = _ := kept_performAll setup steps
  have asked : remaining.map Prod.fst =
      (kept setup steps (session.recordAll setup steps).1).map Prod.fst := by
    simp [revised, Function.comp_def]
  rw [asked, revised]
  constructor
  · simp only [performAll, same, List.map_map, Function.comp_def]
  · rw [same]

/-! ## Overlap -/

/-- No call of a run is made before all that earlier runs have sent off has ended. -/
def Apart (session : Session σ) : Prop :=
  ∀ (one other : Nat) (former latter : Run), one < other → session.run? one = some former →
    session.run? other = some latter → ∀ time index call,
    .called time index call ∈ latter.history → former.EndedBy time

theorem Apart.grown (apart : session.Apart) (grown : session.Grown next) : next.Apart := by
  intro one other former latter earlier isFormer isLatter time index call member
  rcases grown.fresh isLatter with there | ⟨-, -, -, -, silent⟩
  · rcases grown.fresh isFormer with here | ⟨-, -, -, -, silent⟩
    · exact apart one other former latter earlier here there time index call member
    · intro moment position ref endsAt sent
      simp [silent] at sent
  · simp [silent] at member

theorem Apart.setRun {handle : Nat} {old : Run} (apart : session.Apart)
    (found : session.run? handle = some old) (run : Run) (history : run.history = old.history) :
    (session.setRun handle run).Apart := by
  have source {position : Nat} {held : Run}
      (there : (session.setRun handle run).run? position = some held) :
      ∃ before, session.run? position = some before ∧ held.history = before.history := by
    rw [run?_setRun found] at there
    split at there
    next same =>
      cases there
      exact ⟨old, same ▸ found, history⟩
    next => exact ⟨held, there, rfl⟩
  intro one other former latter earlier isFormer isLatter time index call member
  obtain ⟨first, isFirst, same⟩ := source isFormer
  obtain ⟨second, isSecond, alike⟩ := source isLatter
  rw [alike] at member
  rw [Run.EndedBy, same]
  exact apart one other first second earlier isFirst isSecond time index call member

theorem Apart.of_runs (apart : session.Apart) (runs : next.runs = session.runs) : next.Apart := by
  have same (handle : Nat) : next.run? handle = session.run? handle := by rw [run?, runs, run?]
  intro one other former latter earlier isFormer isLatter
  rw [same] at isFormer isLatter
  exact apart one other former latter earlier isFormer isLatter

theorem Attended.endedBy {setup : SessionSetup σ} {handle : Nat} {run : Run}
    (attended : session.Attended setup) (found : session.run? handle = some run)
    (inactive : run.isActive = false) : run.EndedBy session.clock := by
  obtain ⟨clock, request, client, reached⟩ := attended.granted handle run found
  have aired := Machine.Reaches.aired reached
  obtain ⟨outcome, ended⟩ : ∃ outcome, run.phase = .ended outcome := aired.reported inactive
  have landed : run.inFlight = [] := aired.landed (by simp [Run.decision?, ended])
  have spent : run.lastEnd ≤ session.clock := by simpa [landed] using aired.spent
  exact (Machine.Reaches.endedBy reached).mono spent

theorem Apart.moved {setup : SessionSetup σ} {run : Run} {past : List Run} {machine : Machine σ}
    (apart : session.Apart) (attended : session.Attended setup) (runs : session.runs = run :: past)
    (steps : Machine.Steps setup.toSetup ⟨session.clock, run, session.client⟩ machine)
    (moved : next.runs = machine.run :: past) : next.Apart := by
  intro one other former latter earlier isFormer isLatter time index call member
  have bound := lt_of_run? isLatter
  rw [moved, List.length_cons] at bound
  rw [run?_past runs moved (by omega)] at isFormer
  by_cases latest : other = past.length
  · subst latest
    cases (run?_latest moved).symm.trans isLatter
    rcases steps.reaches.told_later.2 _ member with old | new
    · exact apart one past.length former run earlier isFormer (run?_latest runs) time index call old
    · have length : session.runs.length = past.length + 1 := by rw [runs, List.length_cons]
      have inactive := attended.orderly.past isFormer (by omega)
      exact (attended.endedBy isFormer inactive).mono new
  · rw [run?_past runs moved latest] at isLatter
    exact apart one other former latter earlier isFormer isLatter time index call member

theorem keeps_apart (setup : SessionSetup σ) : Keeps setup Apart where
  opens opens apart := apart.grown opens.grown
  goes {session horizon} attended _ apart := by
    cases runs : session.runs with
    | nil =>
      rw [goOn_of_nil setup horizon runs]
      exact apart
    | cons run past =>
      obtain ⟨machine, moved, rfl, -, -, current, rest⟩ := goOn_spec setup horizon runs
      have steps := Machine.steps_runUntil setup.toSetup horizon
        ⟨session.clock, run, session.client⟩
      have still := apart.moved attended runs steps current
      rcases rest with ⟨same, -⟩ | ⟨outcome, -, -, same⟩
      · rw [same]
        exact still
      · rw [same]
        have closed := still.setRun (run?_latest current)
          { Run.close outcome _ with finished := true } rfl
        exact closed.grown (grown_finishLatest setup.defaults outcome current).1
  runs same apart := apart.of_runs same
  cancels {session handle run} found apart := apart.setRun found run.cancel (Run.alike_cancel run).history
  registers callback found _ apart := apart.setRun found _ rfl

/-- The runs of a session follow one another. A start is refused for its limits, or else because an
earlier run has no report, and for nothing else, be it asked for by a script or by a completion
callback. A script does the same, answer by answer, without the starts that are refused and the
requests to stop a run that has finished. No run makes a call before all that earlier runs have sent
off has ended. -/
theorem runs_in_succession (setup : SessionSetup σ) (client : σ) (steps : List (Step σ))
    (unmarked : ∀ step ∈ steps, ∀ handle index status, step ≠ .mark handle index status) :
    let first : Session σ := { client }
    let session := (first.recordAll setup steps).2
    let remaining := kept setup steps (first.performAll setup steps)
    (∀ request, session.Refuses setup.defaults request fun reason =>
      (session.perform setup (.start request)).1 = .error (.refused reason)) ∧
    (∀ (ended : Session σ) (run : Run) (past : List Run) (outcome : Outcome)
      (called : List Callback), ended.runs = run :: past →
      (∀ earlier ∈ past, earlier.report ≠ none) →
      let calling := (ended.setRun past.length (run.close outcome)).callAll setup.defaults
        (run.reportWith outcome) called
      ∀ name request, calling.Refuses setup.defaults request fun reason =>
        (calling.call setup.defaults (run.reportWith outcome) (.restart name request)).1 =
          .error (.refused reason)) ∧
    (first.performAll setup (remaining.map Prod.fst) = remaining.map Prod.snd ∧
      (first.recordAll setup (remaining.map Prod.fst)).2 = session) ∧
    session.Apart := by
  intro first session remaining
  have orderly := orderly_init client
  have notified := notified_init client
  refine ⟨?_, ?_, performAll_kept setup notified orderly steps, ?_⟩
  · exact (orderly.recordAll setup steps).inOrder.refuses_perform setup
  · intro ended run past outcome called runs reported calling name request
    exact (inOrder_callAll runs reported setup.defaults outcome _ called).refuses_call
      setup.defaults request _ name
  · have apart : first.Apart := by simp [Apart, first, run?]
    exact ((keeps_apart setup).recordAll (attended_init setup client) unmarked apart).2

def alternating : List (Step Unit) :=
  [.start { commands := twoStatements }, .advance 5, .start { commands := twoStatements },
   .start { commands := twoStatements, concurrency := some 0 }, .advance 100,
   .start { commands := twoStatements }, .cancel (some 0), .advance 100]

theorem runs_in_succession_alternating :
    let first : Session Unit := { client := () }
    let session := (first.recordAll listening alternating).2
    let remaining := kept listening alternating (first.performAll listening alternating)
    remaining.length = 5 ∧
      first.performAll listening (remaining.map Prod.fst) = remaining.map Prod.snd ∧
      ∃ former latter, session.run? 0 = some former ∧ session.run? 1 = some latter ∧
        latter.callLog.length = 2 ∧
        ∀ time index call, .called time index call ∈ latter.history → former.EndedBy time := by
  intro first session remaining
  obtain ⟨-, -, ⟨same, -⟩, apart⟩ :=
    runs_in_succession listening () alternating (by simp [alternating])
  have calls : ((session.run? 0).isSome ∧
      (session.run? 1).map (·.callLog.length) = some 2) := by decide +kernel
  obtain ⟨former, isFormer⟩ := Option.isSome_iff_exists.mp calls.1
  obtain ⟨latter, isLatter, length⟩ := Option.map_eq_some_iff.mp calls.2
  exact ⟨by decide +kernel, same, former, latter, isFormer, isLatter, length,
    apart 0 1 former latter (by decide) isFormer isLatter⟩

end Session

end EditBatch

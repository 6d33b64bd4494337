import EditBatch.Proofs.Run.Enactment
import EditBatch.Proofs.Run.Order

/-! Which refs commands have, by what has come of creations.

If no two creations are on one ref and new items are on none of these refs, creations are never
renamed, and any other command is renamed at most once: by the creation before it on its ref, as
soon as that is done. So its ref can be told from the outcome of that creation.
-/

set_option autoImplicit false

namespace EditBatch

open Execution

/-- No two creations are on one ref. -/
def CreationsApart (commands : List Command) : Prop :=
  ((commands.filter fun command => command.mode = .create).map (·.entityRef)).Nodup

instance (commands : List Command) : Decidable (CreationsApart commands) :=
  inferInstanceAs (Decidable (List.Nodup _))

theorem creationsApart_iff {commands : List Command} :
    CreationsApart commands ↔
      ∀ (one other : Nat) (former latter : Command), commands[one]? = some former →
        commands[other]? = some latter → former.mode = .create → latter.mode = .create →
        former.entityRef = latter.entityRef → one = other := by
  rw [CreationsApart, List.Nodup, List.pairwise_map, List.pairwise_filter,
    List.pairwise_iff_getElem]
  constructor
  · intro apart one other former latter here there formerCreates latterCreates same
    obtain ⟨bound, rfl⟩ := List.getElem?_eq_some_iff.mp here
    obtain ⟨otherBound, rfl⟩ := List.getElem?_eq_some_iff.mp there
    rcases Nat.lt_trichotomy one other with before | here | behind
    · exact absurd same (apart one other bound otherBound before (by simpa using formerCreates)
        (by simpa using latterCreates))
    · exact here
    · exact absurd same.symm (apart other one otherBound bound behind
        (by simpa using latterCreates) (by simpa using formerCreates))
  · intro apart one other bound otherBound before formerCreates latterCreates same
    have together := apart one other _ _ (List.getElem?_eq_getElem bound)
      (List.getElem?_eq_getElem otherBound) (by simpa using formerCreates)
      (by simpa using latterCreates) same
    omega

namespace Execution

def AvoidsCreations (commands : List Command) : Assumption
  | .createEntity _ _, .ok newId =>
    ∀ command ∈ commands, command.mode = .create → command.entityRef ≠ newId
  | _, _ => True

def GivesNoCreation (commands : List Command) (result : Except Escape CommandResult) : Prop :=
  ∀ newId, result = .ok (.success (some newId)) →
    ∀ command ∈ commands, command.mode = .create → command.entityRef ≠ newId

theorem ends_avoiding (commands : List Command) :
    Ends (AvoidsCreations commands) (GivesNoCreation commands) := by
  constructor
  · intro kind message code newId success
    simp at success
  · intro reason newId success
    simp at success
  · intro call given newId success
    simp at success
  · rintro site page id avoids newId ⟨⟩
    exact avoids

end Execution

namespace Run

variable {σ : Type}

theorem entityRef_afterCompletion {commands : List Command} {index position : Nat}
    {command after : Command} {result : CommandResult} (found : commands[index]? = some command)
    (is : (afterCompletion index command result commands)[position]? = some after) :
    ∃ before, commands[position]? = some before ∧
      ((position ≠ index → command.mode = .create → before.status ≠ .done →
        before.entityRef ≠ command.entityRef) → after.entityRef = before.entityRef) := by
  rcases cases_of_completed found is with ⟨rfl, rfl⟩ | ⟨elsewhere, before, was, rfl⟩
  · exact ⟨command, found, fun _ => rfl⟩
  · refine ⟨before, was, fun apart => ?_⟩
    by_cases done : before.status = .done
    · rw [redirected_of_done command result done]
    · cases replaced : replacement? command result with
      | none => rw [redirected, replaced]
      | some newId =>
        have creates := (replacement?_eq_some_iff.mp replaced).1
        rw [redirected_of_ne _ _ (apart elsewhere creates done)]

theorem Change.refs {setup : Setup σ} {now : Nat} {run next : Run}
    (change : run.Change setup now next) :
    (∀ (position : Nat) (before after : Command), run.commands[position]? = some before →
      next.commands[position]? = some after → after.entityRef = before.entityRef) ∨
    ∃ (flight : Flight) (maker : Command) (newId : String),
      run.commands[flight.index]? = some maker ∧ maker.status = .running ∧
      next.commands = afterCompletion flight.index maker flight.outcome run.commands ∧
      next.history =
        run.history ++ [.completed now flight.index flight.outcome maker.entityRef] ∧
      replacement? maker flight.outcome = some newId := by
  cases change with
  | none commands =>
    refine .inl fun position before after was is => ?_
    rw [commands, was] at is
    cases is
    rfl
  | dispatch client eligible found commands =>
    refine .inl fun position before after was is => ?_
    rw [commands] at is
    rcases cases_of_sent found is with ⟨rfl, rfl⟩ | ⟨-, there⟩
    · cases found.symm.trans was
      rfl
    · cases there.symm.trans was
      rfl
  | @complete flight _ _ maker found running commands history =>
    cases replaced : replacement? maker flight.outcome with
    | some newId => exact .inr ⟨flight, maker, newId, found, running, commands, history, replaced⟩
    | none =>
      refine .inl fun position before after was is => ?_
      rw [commands] at is
      rcases cases_of_completed found is with ⟨rfl, rfl⟩ | ⟨-, other, there, rfl⟩
      · cases found.symm.trans was
        rfl
      · cases there.symm.trans was
        rw [redirected, replaced]

def Avoids (commands : List Command) (run : Run) : Prop :=
  ∀ outcome ∈ run.outcomes, ∀ command ∈ commands, command.mode = .create →
    outcome.2 ≠ .success (some command.entityRef)

instance (commands : List Command) (run : Run) : Decidable (run.Avoids commands) :=
  inferInstanceAs (Decidable (∀ outcome ∈ run.outcomes, _))

structure Makes (commands : List Command) (creation index : Nat) (maker source : Command) :
    Prop where
  here : commands[creation]? = some maker
  there : commands[index]? = some source
  before : creation < index
  creates : maker.mode = .create
  same : maker.entityRef = source.entityRef

/-- Every command is where the creation before it on its ref has sent it. -/
structure Placed (first : List Command) (run : Run) : Prop where
  unmade : ∀ {index : Nat} {source command : Command}, first[index]? = some source →
    run.commands[index]? = some command →
    (∀ {creation : Nat} {maker : Command} {result : CommandResult},
      Makes first creation index maker source → (creation, result) ∉ run.outcomes) →
    command.entityRef = source.entityRef
  made : ∀ {creation index : Nat} {maker source command : Command} {result : CommandResult},
    Makes first creation index maker source → run.commands[index]? = some command →
    (creation, result) ∈ run.outcomes →
    command.entityRef = (replacement? maker result).getD source.entityRef

theorem Placed.keep {first : List Command} {run next : Run} (placed : run.Placed first)
    (refs : ∀ {index : Nat} {after : Command}, next.commands[index]? = some after →
      ∃ before, run.commands[index]? = some before ∧ after.entityRef = before.entityRef)
    (outcomes : next.outcomes = run.outcomes) : next.Placed first := by
  constructor
  · intro index source command there is none
    obtain ⟨before, was, same⟩ := refs is
    rw [outcomes] at none
    exact same.trans (placed.unmade there was none)
  · intro creation index maker source command result makes is told
    obtain ⟨before, was, same⟩ := refs is
    rw [outcomes] at told
    exact same.trans (placed.made makes was told)

theorem Placed.creation {first : List Command} {run : Run} (placed : run.Placed first)
    (apart : CreationsApart first) {index : Nat} {source command : Command}
    (there : first[index]? = some source) (creates : source.mode = .create)
    (is : run.commands[index]? = some command) : command.entityRef = source.entityRef :=
  placed.unmade there is fun makes _ =>
    absurd (creationsApart_iff.mp apart _ _ _ _ makes.here there makes.creates creates makes.same)
      (Nat.ne_of_lt makes.before)

end Run

namespace Machine

variable {σ : Type} {setup : Setup σ} {clock limit throttle : Nat} {client : σ}
  {commands : List Command} {machine next : Machine σ}

theorem Reaches.avoids
    (reached : (start clock commands limit throttle client).Reaches setup machine)
    (startable : Startable commands) (meets : setup.client.Meets (AvoidsCreations commands)) :
    machine.run.Avoids commands := by
  rintro ⟨index, result⟩ told other among creates success
  obtain ⟨time, ref, member⟩ := Run.mem_outcomes.mp told
  obtain ⟨command, is⟩ := reached.exists_of_told startable member
  obtain ⟨now, client, stems⟩ :=
    reached.enacted startable index command is (reached.sentBefore _ member)
  have result := Run.success_of_outcome ((stems.completed member).symm.trans success)
  have keeps := (ends_avoiding commands).execution (by simp [GivesNoCreation])
    (by simp [GivesNoCreation]) command command.entityRef setup.wiki
  exact (keeps.perform meets now client).2 _ result other among creates rfl

theorem Reaches.entityRef_of_made {creation index : Nat} {maker source command held : Command}
    {result : CommandResult}
    (reached : (start clock commands limit throttle client).Reaches setup machine)
    (waiting : ∀ command ∈ commands, command.status = .waiting)
    (makes : Run.Makes commands creation index maker source)
    (found : machine.run.commands[creation]? = some command) (running : command.status = .running)
    (onRef : command.entityRef = maker.entityRef)
    (was : machine.run.commands[index]? = some held) :
    (Run.redirected command result held).entityRef =
      (Run.replacement? maker result).getD source.entityRef := by
  have mode : command.mode = maker.mode := reached.mode makes.here found
  rcases (reached.queued waiting makes.before makes.here makes.there makes.same).behind found was
    with done | ⟨waits, together⟩
  · simp [running] at done
  · rw [Run.entityRef_redirected _ _ (by simp [waits]) together, together,
      Run.replacement?_congr mode, onRef, makes.same]

theorem Reaches.placed_completion {flight : Flight} {command : Command} {now : Nat}
    (reached : (start clock commands limit throttle client).Reaches setup machine)
    (waiting : ∀ command ∈ commands, command.status = .waiting) (apart : CreationsApart commands)
    (avoids : machine.run.Avoids commands) (placed : machine.run.Placed commands)
    (found : machine.run.commands[flight.index]? = some command)
    (running : command.status = .running)
    (after : next.run.commands =
      Run.afterCompletion flight.index command flight.outcome machine.run.commands)
    (history : next.run.history = machine.run.history ++
      [.completed now flight.index flight.outcome command.entityRef]) :
    next.run.Placed commands := by
  have startable : Startable commands := fun command member => .inl (waiting command member)
  obtain ⟨origin, source⟩ : ∃ origin, commands[flight.index]? = some origin := reached.origin found
  have mode : command.mode = origin.mode := reached.mode source found
  have onRef (creates : command.mode = .create) : command.entityRef = origin.entityRef :=
    placed.creation apart source (mode.symm.trans creates) found
  have outcomes := Run.outcomes_of_completed history
  have fresh (result : CommandResult) : (flight.index, result) ∉ machine.run.outcomes := by
    intro told
    have isDone := reached.tracked.done_of_told source found told
    simp [running] at isDone
  constructor
  · intro index start renamed there is none
    rw [after] at is
    obtain ⟨held, was, kept⟩ := Run.entityRef_afterCompletion found is
    have ref := placed.unmade there was fun makes told =>
      none makes (by rw [outcomes]; exact List.mem_append_left _ told)
    rw [kept, ref]
    intro elsewhere creates unfinished together
    rw [ref, onRef creates] at together
    rcases Nat.lt_or_gt_of_ne elsewhere with before | behind
    · -- A command before the creation is done before the creation runs.
      rcases (reached.queued waiting before there source together).behind was found with
        done | ⟨waits, -⟩
      · exact unfinished done
      · simp [running] at waits
    · have told : (flight.index, flight.outcome) ∈ next.run.outcomes := by
        rw [outcomes]
        exact List.mem_append_right _ List.mem_cons_self
      exact none ⟨source, there, behind, mode.symm.trans creates, together.symm⟩ told
  · intro creation index maker start renamed result makes is told
    rw [outcomes, List.mem_append, List.mem_singleton] at told
    rw [after] at is
    rcases told with old | new
    · obtain ⟨held, was, kept⟩ := Run.entityRef_afterCompletion found is
      have ref := placed.made makes was old
      rw [kept, ref]
      intro elsewhere creates unfinished together
      rw [ref, onRef creates] at together
      have originCreates := mode.symm.trans creates
      cases replaced : Run.replacement? maker result with
      | none =>
        rw [replaced, Option.getD_none, ← makes.same] at together
        have own := creationsApart_iff.mp apart _ _ _ _ makes.here source makes.creates
          originCreates together
        exact fresh result (own ▸ old)
      | some newId =>
        rw [replaced, Option.getD_some] at together
        obtain ⟨-, -, rfl⟩ := Run.replacement?_eq_some_iff.mp replaced
        exact avoids _ old origin (List.mem_of_getElem? source) originCreates (by rw [together])
    · obtain ⟨rfl, rfl⟩ := Prod.mk.inj new
      cases source.symm.trans makes.here
      have behind := makes.before
      rw [Run.getElem?_afterCompletion found, if_neg (by omega)] at is
      obtain ⟨held, was, rfl⟩ := Option.map_eq_some_iff.mp is
      exact reached.entityRef_of_made waiting makes found running
        (onRef (mode.trans makes.creates)) was

theorem Reaches.placed_of_avoids
    (reached : (start clock commands limit throttle client).Reaches setup machine)
    (waiting : ∀ command ∈ commands, command.status = .waiting) (apart : CreationsApart commands)
    (avoids : machine.run.Avoids commands) : machine.run.Placed commands := by
  induction reached with
  | refl =>
    constructor
    · intro index source command there is none
      cases there.symm.trans is
      rfl
    · intro creation index maker source command result makes is told
      simp [start, Run.outcomes] at told
  | @tail before after reached happens placed =>
    have avoided : before.run.Avoids commands := by
      obtain ⟨told, more⟩ := happens.change.tells
      exact fun outcome member => avoids outcome (more ▸ List.mem_append_left told member)
    replace placed := placed avoided
    cases happens.change with
    | none after history =>
      refine placed.keep ?_ (by rw [Run.outcomes, history, Run.outcomes])
      rw [after]
      exact fun is => ⟨_, is, rfl⟩
    | dispatch client eligible found after history =>
      refine placed.keep ?_ (Run.outcomes_of_dispatched history)
      intro index renamed is
      rw [after] at is
      rcases Run.cases_of_sent found is with ⟨rfl, rfl⟩ | ⟨-, was⟩
      · exact ⟨_, found, rfl⟩
      · exact ⟨renamed, was, rfl⟩
    | complete found running after history =>
      exact Reaches.placed_completion reached waiting apart avoided placed found running after
        history

theorem Reaches.placed
    (reached : (start clock commands limit throttle client).Reaches setup machine)
    (waiting : ∀ command ∈ commands, command.status = .waiting) (apart : CreationsApart commands)
    (meets : setup.client.Meets (AvoidsCreations commands)) : machine.run.Placed commands :=
  reached.placed_of_avoids waiting apart
    (reached.avoids (fun command member => .inl (waiting command member)) meets)

end Machine

end EditBatch

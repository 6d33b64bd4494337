import EditBatch.Proofs.Run.Renaming

/-! How the commands of a run change.

A command goes from waiting over running to done, one step at a time, and comes to rest when it is
done. Its ref is all that may change besides, as long as it waits: with the completion of a creation
on that ref, which takes all that wait there along. Where new items are on no ref of a creation this
happens to a command once at most, for what has gone over to a new item is on the ref of no other
creation.
-/

set_option autoImplicit false

namespace EditBatch

/-- What may become of a command at once. -/
structure Command.Proceeds (before after : Command) : Prop where
  status : after.status = before.status ∨ before.status = .waiting ∧ after.status = .running ∨
    before.status = .running ∧ after.status = .done
  frame : after = { before with entityRef := after.entityRef, status := after.status }
  renamed : after.entityRef ≠ before.entityRef →
    before.status = .waiting ∧ after.status = .waiting

theorem Command.Proceeds.rest {before after : Command} (proceeds : before.Proceeds after)
    (done : before.status = .done) : after = before := by
  have ref : after.entityRef = before.entityRef := by
    apply Decidable.byContradiction
    intro renamed
    simpa [done] using (proceeds.renamed renamed).1
  have status : after.status = before.status := by
    rcases proceeds.status with same | ⟨waiting, -⟩ | ⟨running, -⟩
    · exact same
    · simp [done] at waiting
    · simp [done] at running
  rw [proceeds.frame, ref, status]

/-- What becomes of a command when another one goes over from a ref to a new item. -/
def Command.takenAlong (ref newId : String) (command : Command) : Command :=
  if command.status = .waiting ∧ command.entityRef = ref then { command with entityRef := newId }
  else command

namespace Run

theorem Exclusive.redirected_eq_takenAlong {run : Run} (exclusive : run.Exclusive)
    {index position : Nat} {command other : Command} {result : CommandResult} {newId : String}
    (found : run.commands[index]? = some command) (running : command.status = .running)
    (replaced : replacement? command result = some newId)
    (there : run.commands[position]? = some other) (elsewhere : position ≠ index) :
    redirected command result other = other.takenAlong command.entityRef newId := by
  unfold Command.takenAlong
  by_cases waiting : other.status = .waiting
  · simp [redirected, replaced, Command.follows, Command.isDone, waiting]
  · rw [exclusive.redirected_eq found running result there elsewhere waiting, if_neg]
    exact fun both => waiting both.1

end Run

namespace Machine

variable {σ : Type} {setup : Setup σ} {clock limit throttle : Nat} {client : σ}
  {commands : List Command} {machine next last : Machine σ}

-- All that happens to the commands at this moment is here: `others` leaves none out.
/-- The completion of a creation, which takes all that wait on its ref along to the new item. -/
structure Renames (machine next : Machine σ) (creation : Nat) (maker : Command) (newId : String) :
    Prop where
  found : machine.run.commands[creation]? = some maker
  creates : maker.mode = .create
  running : maker.status = .running
  named : newId ≠ ""
  told : next.run.history = machine.run.history ++
    [.completed next.clock creation (.success (some newId)) maker.entityRef]
  done : next.run.commands[creation]? = some { maker with status := .done }
  others : ∀ position ≠ creation, next.run.commands[position]? =
    machine.run.commands[position]?.map (Command.takenAlong maker.entityRef newId)

theorem Happens.proceeds (happens : machine.Happens setup next) (exclusive : machine.run.Exclusive)
    {index : Nat} {before after : Command} (was : machine.run.commands[index]? = some before)
    (is : next.run.commands[index]? = some after) : before.Proceeds after := by
  obtain ⟨other, there, frame, status⟩ := happens.change.status is
  cases there.symm.trans was
  exact ⟨status, frame, exclusive.waiting_of_renamed happens.change was is⟩

theorem renames_of_completion {flight : Flight} {maker : Command} {newId : String}
    (exclusive : machine.run.Exclusive)
    (found : machine.run.commands[flight.index]? = some maker) (running : maker.status = .running)
    (after : next.run.commands =
      Run.afterCompletion flight.index maker flight.outcome machine.run.commands)
    (told : next.run.history = machine.run.history ++
      [.completed next.clock flight.index flight.outcome maker.entityRef])
    (replaced : Run.replacement? maker flight.outcome = some newId) :
    machine.Renames next flight.index maker newId := by
  obtain ⟨creates, named, success⟩ := Run.replacement?_eq_some_iff.mp replaced
  refine ⟨found, creates, running, named, success ▸ told, ?_, fun position elsewhere => ?_⟩
  · rw [after, Run.getElem?_afterCompletion found, if_pos rfl]
  · rw [after, Run.getElem?_afterCompletion found, if_neg elsewhere]
    cases there : machine.run.commands[position]? with
    | none => rfl
    | some other =>
      rw [Option.map_some, Option.map_some,
        exclusive.redirected_eq_takenAlong found running replaced there elsewhere]

theorem Happens.refs (happens : machine.Happens setup next) (exclusive : machine.run.Exclusive) :
    (∀ (index : Nat) (before after : Command), machine.run.commands[index]? = some before →
      next.run.commands[index]? = some after → after.entityRef = before.entityRef) ∨
      ∃ creation maker newId, machine.Renames next creation maker newId := by
  refine happens.change.refs.imp id ?_
  rintro ⟨flight, maker, newId, found, running, commands, history, replaced⟩
  exact ⟨flight.index, maker, newId,
    renames_of_completion exclusive found running commands history replaced⟩

/-- Whenever a creation is completed with a new item, commands are renamed. -/
theorem Happens.renames (happens : machine.Happens setup next) (exclusive : machine.run.Exclusive)
    {time creation : Nat} {maker : Command} {newId ref : String}
    (found : machine.run.commands[creation]? = some maker) (creates : maker.mode = .create)
    (named : newId ≠ "")
    (told : next.run.history =
      machine.run.history ++ [.completed time creation (.success (some newId)) ref]) :
    machine.Renames next creation maker newId := by
  cases happens.change with
  | none commands history => simp [history] at told
  | dispatch client eligible there commands history =>
    simp [history, Run.dispatchEvents] at told
  | @complete flight _ _ other there running commands history =>
    have same := List.append_cancel_left (history.symm.trans told)
    simp only [List.cons.injEq, RunEvent.completed.injEq, and_true] at same
    obtain ⟨-, rfl, success, -⟩ := same
    cases there.symm.trans found
    exact renames_of_completion exclusive there running commands history
      (Run.replacement?_eq_some_iff.mpr ⟨creates, named, success⟩)

theorem Reaches.rest
    (reached : (start clock commands limit throttle client).Reaches setup machine)
    (startable : Startable commands) (later : machine.Reaches setup last) {index : Nat}
    {command : Command} (was : machine.run.commands[index]? = some command)
    (done : command.status = .done) : last.run.commands[index]? = some command := by
  induction later with
  | refl => exact was
  | tail later happens ih =>
    obtain ⟨after, is⟩ := Reaches.current (.single happens) ih
    have exclusive := Reaches.exclusive (reached.trans later) startable
    rw [is, (happens.proceeds exclusive ih is).rest done]

theorem Reaches.entityRef_of_renamed {middle : Machine σ} {index : Nat}
    {before between after : Command}
    (reached : (start clock commands limit throttle client).Reaches setup machine)
    (waiting : ∀ command ∈ commands, command.status = .waiting) (apart : CreationsApart commands)
    (former : machine.Reaches setup middle) (latter : middle.Reaches setup last)
    (avoids : last.run.Avoids commands) (was : machine.run.commands[index]? = some before)
    (there : middle.run.commands[index]? = some between)
    (is : last.run.commands[index]? = some after) (renamed : between.entityRef ≠ before.entityRef) :
    after.entityRef = between.entityRef := by
  have avoided : middle.run.Avoids commands :=
    fun outcome member => avoids outcome (latter.outcomes_subset member)
  have avoidedBefore : machine.run.Avoids commands :=
    fun outcome member => avoided outcome (former.outcomes_subset member)
  have onward : (start clock commands limit throttle client).Reaches setup middle :=
    reached.trans former
  have overall : (start clock commands limit throttle client).Reaches setup last :=
    onward.trans latter
  obtain ⟨source, first⟩ : ∃ source, commands[index]? = some source := reached.origin was
  have placed := onward.placed_of_avoids waiting apart avoided
  by_cases made : ∃ creation maker result, Run.Makes commands creation index maker source ∧
      (creation, result) ∈ middle.run.outcomes
  · obtain ⟨creation, maker, result, makes, told⟩ := made
    have later := overall.placed_of_avoids waiting apart avoids
    rw [placed.made makes there told, later.made makes is (latter.outcomes_subset told)]
  · -- Nothing has been made for the command so far, so that it is where it was from the start.
    have unmade {creation : Nat} {maker : Command} {result : CommandResult}
        (makes : Run.Makes commands creation index maker source) :
        (creation, result) ∉ middle.run.outcomes :=
      fun told => made ⟨creation, maker, result, makes, told⟩
    have earlier := reached.placed_of_avoids waiting apart avoidedBefore
    rw [placed.unmade first there unmade, earlier.unmade first was fun makes told =>
      unmade makes (former.outcomes_subset told)] at renamed
    exact absurd rfl renamed

/-- Along every run, commands go forward one step at a time and keep all but their ref, which changes
only while they wait, all at once with the completion of a creation on it. What is done rests. And
where new items are on no ref of a creation, no ref changes twice. -/
theorem forward_only (waiting : ∀ command ∈ commands, command.status = .waiting)
    (reached : (start clock commands limit throttle client).Reaches setup machine) :
    (∀ next, machine.Happens setup next →
      (∀ (index : Nat) (before after : Command), machine.run.commands[index]? = some before →
        next.run.commands[index]? = some after → before.Proceeds after) ∧
      ((∀ (index : Nat) (before after : Command), machine.run.commands[index]? = some before →
        next.run.commands[index]? = some after → after.entityRef = before.entityRef) ∨
        ∃ creation maker newId, machine.Renames next creation maker newId) ∧
      ∀ (time creation : Nat) (maker : Command) (newId ref : String),
        machine.run.commands[creation]? = some maker → maker.mode = .create → newId ≠ "" →
        next.run.history =
          machine.run.history ++ [.completed time creation (.success (some newId)) ref] →
        machine.Renames next creation maker newId) ∧
    (∀ last, machine.Reaches setup last →
      ∀ (index : Nat) (command : Command), machine.run.commands[index]? = some command →
        command.status = .done → last.run.commands[index]? = some command) ∧
    (CreationsApart commands → ∀ middle last, machine.Reaches setup middle →
      middle.Reaches setup last → last.run.Avoids commands →
      ∀ (index : Nat) (before between after : Command),
        machine.run.commands[index]? = some before → middle.run.commands[index]? = some between →
        last.run.commands[index]? = some after → between.entityRef ≠ before.entityRef →
        after.entityRef = between.entityRef) := by
  have startable : Startable commands := fun command member => .inl (waiting command member)
  have exclusive := reached.exclusive startable
  refine ⟨fun next happens => ⟨fun _ _ _ => happens.proceeds exclusive, happens.refs exclusive,
    fun _ _ _ _ _ => happens.renames exclusive⟩, ?_, ?_⟩
  · intro last later index command was done
    exact reached.rest startable later was done
  · intro apart middle last former latter avoids index before between after was there is renamed
    exact reached.entityRef_of_renamed waiting apart former latter avoids was there is renamed

theorem forward_only_merging :
    (∀ command ∈ merging.run.commands, command.status = .waiting) ∧
      CreationsApart merging.run.commands ∧
      (merging.steps rehearsed 100 4).run.commands.map (·.entityRef) =
        ["create_item_0", "create_item_0", "Q7"] ∧
      (merging.steps rehearsed 100 5).run.commands.map (·.entityRef) =
        ["create_item_0", "Q7", "Q7"] ∧
      (∃ creation maker newId, (merging.steps rehearsed 100 4).Renames
        (merging.steps rehearsed 100 5) creation maker newId) ∧
      ∀ last, (merging.steps rehearsed 100 5).Reaches rehearsed last →
        last.run.Avoids merging.run.commands → ∀ after, last.run.commands[1]? = some after →
          after.entityRef = "Q7" := by
  have waiting : ∀ command ∈ merging.run.commands, command.status = .waiting := by decide
  have apart : CreationsApart merging.run.commands := by decide
  have former : (merging.steps rehearsed 100 4).run.commands.map (·.entityRef) =
      ["create_item_0", "create_item_0", "Q7"] := by decide +kernel
  have latter : (merging.steps rehearsed 100 5).run.commands.map (·.entityRef) =
      ["create_item_0", "Q7", "Q7"] := by decide +kernel
  have happens : (merging.steps rehearsed 100 4).Happens rehearsed
      (merging.steps rehearsed 100 5) := .step 100 (step?_steps (by decide +kernel))
  -- The ref of the edit behind the creation has changed.
  have refAt {refs : List String} {run : Run} {ref : String}
      (same : run.commands.map (·.entityRef) = refs) (there : refs[1]? = some ref) :
      ∃ command, run.commands[1]? = some command ∧ command.entityRef = ref := by
    rw [← same, List.getElem?_map] at there
    exact Option.map_eq_some_iff.mp there
  obtain ⟨before, was, stand⟩ := refAt former rfl
  obtain ⟨between, there, item⟩ := refAt latter rfl
  have renamed : between.entityRef ≠ before.entityRef := by
    rw [stand, item]
    decide
  obtain ⟨happening, -, once⟩ := forward_only waiting (reaches_steps rehearsed 100 4 merging)
  refine ⟨waiting, apart, former, latter, ?_, ?_⟩
  · exact (happening _ happens).2.1.resolve_left fun same =>
      renamed (same 1 before between was there)
  · intro last later avoids after is
    rw [once apart _ last (.single happens) later avoids 1 before between after was there is renamed,
      item]

end Machine

end EditBatch

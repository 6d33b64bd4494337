import EditBatch.Proofs.Command.Exchanges
import EditBatch.Proofs.Run.Forecast
import EditBatch.Proofs.Run.Ledger

/-! What becomes of the id of a new item.

A creation is given an id by its first call and comes to a result when it has set the label. The
result is known when the command is sent off, and nothing that happens later changes it. So a new
item is on record when its command is done, unless the failure of the label escapes: then the command
counts as failed, and the item that it has made is left without one.
-/

set_option autoImplicit false

namespace EditBatch

namespace Run

variable {σ : Type}

def exchanges (setup : Setup σ) (now : Nat) (command : Command) (client : σ) : List Exchange :=
  (command.execution command.entityRef setup.wiki).exchanges setup.client now client

theorem map_call_exchanges (setup : Setup σ) (now : Nat) (command : Command) (client : σ) :
    (exchanges setup now command client).map (·.call) =
      (performance setup now command client).calls.map (·.call) :=
  Plan.map_call_exchanges _ _ _ _

/-- Whatever is known of the command at a position is that it comes to a result. -/
structure ComesTo (index : Nat) (result : CommandResult) (run : Run) : Prop where
  aloft : ∀ flight ∈ run.inFlight, flight.index = index → flight.result = some result
  told : ∀ other, (index, other) ∈ run.outcomes → other = result
  done : ∀ command, run.commands[index]? = some command → command.status = .done →
    (index, result) ∈ run.outcomes

theorem replacement?_of_creates {command : Command} {exchanges : List Exchange}
    {result : Except Escape CommandResult} {kind : ErrorKind} {message code : String}
    (creates : command.mode = .create) (comes : Execution.Creates exchanges result)
    (named : ∀ id, exchanges.findSome? Exchange.newId? = some id → id ≠ "") :
    replacement? command ((settle result).getD (.failure kind message code)) =
      Execution.createdId? exchanges := by
  unfold Execution.createdId?
  cases new : exchanges.findSome? Exchange.newId? with
  | none =>
    have fails := comes.uncreated new
    have unmade : replacement? command ((settle result).getD (.failure kind message code)) =
        none := by
      cases result with
      | error escape => cases escape <;> rfl
      | ok result =>
        cases result with
        | success newId? => exact absurd rfl (fails newId?)
        | failure => rfl
    rw [unmade]
    split <;> rfl
  | some id =>
    rw [comes.created id new]
    cases exchanges.findSome? Exchange.labelEscape? with
    | none => exact replacement?_eq_some_iff.mpr ⟨creates, named id new, rfl⟩
    | some escape => cases escape <;> rfl

theorem replacement?_of_performance {setup : Setup σ} {now : Nat} {command : Command} {client : σ}
    (index : Nat)
    (named : ∀ id, (exchanges setup now command client).findSome? Exchange.newId? = some id →
      id ≠ "") :
    replacement? command (Flight.ofPerformance index (performance setup now command client)).outcome =
      Execution.createdId? (exchanges setup now command client) := by
  rw [Flight.outcome, Flight.result_ofPerformance]
  by_cases creates : command.mode = .create
  · refine replacement?_of_creates creates ?_ named
    unfold exchanges performance
    rw [Execution.execution_of_create _ _ creates]
    exact Execution.creates_create setup.client now client command setup.wiki
  · have none : (exchanges setup now command client).findSome? Exchange.newId? = none :=
      Execution.newId?_execution setup.client now client creates _ _
    have unmade (result : CommandResult) : replacement? command result = Option.none := by
      rw [Option.eq_none_iff_forall_ne_some]
      intro id made
      exact creates (replacement?_eq_some_iff.mp made).1
    rw [unmade, Execution.createdId?, none]
    split <;> rfl

theorem performance_of_created {setup : Setup σ} {now : Nat} {command : Command} {client : σ}
    {id : String} (creates : command.mode = .create)
    (returned : (exchanges setup now command client).findSome? Exchange.newId? = some id) :
    (performance setup now command client).result =
      match (exchanges setup now command client).findSome? Exchange.labelEscape? with
      | none => .ok (.success (some id))
      | some escape => .error escape := by
  unfold exchanges performance at *
  rw [Execution.execution_of_create _ _ creates] at *
  exact (Execution.creates_create setup.client now client command setup.wiki).created id returned

end Run

namespace Machine

variable {σ : Type}

/-- The next thing that a run does is to send off the command at a position. -/
structure Sends (index : Nat) (command : Command) (machine : Machine σ) : Prop where
  phase : machine.run.phase = .dispatching
  allowed : machine.run.dispatchable? machine.clock = some index
  found : machine.run.commands[index]? = some command

def sendOff (setup : Setup σ) (index : Nat) (command : Command) (machine : Machine σ) : Machine σ :=
  ⟨machine.clock, (machine.run.dispatch setup machine.clock index command machine.client).1,
    (machine.run.dispatch setup machine.clock index command machine.client).2⟩

def exchanges (setup : Setup σ) (command : Command) (machine : Machine σ) : List Exchange :=
  Run.exchanges setup machine.clock command machine.client

def performance (setup : Setup σ) (command : Command) (machine : Machine σ) :
    Performance σ (Except Escape CommandResult) :=
  Run.performance setup machine.clock command machine.client

section sends

variable {setup : Setup σ} {index : Nat} {command : Command} {machine : Machine σ}

theorem Sends.step? (sends : machine.Sends index command) (horizon : Nat) :
    machine.step? setup horizon = some (machine.sendOff setup index command) := by
  refine step?_eq_some_iff.mpr ⟨0, by simp [Run.readyAt?, sends.phase], Nat.zero_le _, ?_⟩
  simp only [Nat.max_zero, Run.step, sends.phase, sends.allowed, sends.found, sendOff]

theorem Sends.happens (setup : Setup σ) (sends : machine.Sends index command) :
    machine.Happens setup (machine.sendOff setup index command) :=
  .step 0 (sends.step? 0)

theorem Sends.waiting (sends : machine.Sends index command) : command.status = .waiting :=
  (Command.nextEligible?_spec (Run.dispatchable?_eq_some_iff.mp sends.allowed).2 sends.found).1

end sends

section reached

variable {setup : Setup σ} {clock limit throttle : Nat} {client : σ} {commands : List Command}
  {before last : Machine σ} {index : Nat} {command : Command}

theorem Sends.stemsFrom (sends : before.Sends index command)
    (reached : (start clock commands limit throttle client).Reaches setup before)
    (later : (before.sendOff setup index command).Reaches setup last) :
    index ∈ last.run.sent ∧ last.run.StemsFrom index (before.performance setup command) := by
  have history := before.run.history_dispatch setup before.clock index command before.client
  induction later with
  | refl =>
    refine ⟨?_, Run.stemsFrom_dispatch (Reaches.timely reached).silent reached.tracked
      sends.waiting sends.found history (Run.inFlight_dispatch ..)⟩
    rw [sendOff, Run.sent_of_dispatched history]
    exact List.mem_append_right _ List.mem_cons_self
  | @tail middle last later happens ih =>
    obtain ⟨sent, stems⟩ := ih
    have sofar := (reached.tail (sends.happens setup)).trans later
    refine ⟨?_, stems.change (Reaches.tracked sofar) sent happens.change⟩
    cases happens.change with
    | none commands history =>
      rw [Run.sent, history]
      exact sent
    | dispatch client eligible found commands history =>
      rw [Run.sent_of_dispatched history]
      exact List.mem_append_left _ sent
    | complete found running commands history =>
      rw [Run.sent_of_completed history]
      exact sent

theorem Sends.comesTo {result : CommandResult} (sends : before.Sends index command)
    (reached : (start clock commands limit throttle client).Reaches setup before)
    (later : (before.sendOff setup index command).Reaches setup last)
    (settled : settle (before.performance setup command).result = some result) :
    last.run.ComesTo index result := by
  obtain ⟨sent, stems⟩ := sends.stemsFrom reached later
  have outcome : (Flight.ofPerformance index (before.performance setup command)).outcome =
      result := by
    rw [Flight.outcome, Flight.result_ofPerformance, settled, Option.getD_some]
  have told (other : CommandResult) (member : (index, other) ∈ last.run.outcomes) :
      other = result := by
    obtain ⟨time, ref, event⟩ := Run.mem_outcomes.mp member
    rw [stems.completed event, outcome]
  have all := (reached.tail (sends.happens setup)).trans later
  refine ⟨?_, told, ?_⟩
  · intro flight member isFlight
    rw [stems.aloft member isFlight, Flight.result_ofPerformance, settled]
  · intro done is isDone
    obtain ⟨origin, was⟩ : ∃ origin, commands[index]? = some origin := Reaches.origin all is
    have waited := ((Reaches.tracked all).sent_iff was is).mp sent
    obtain ⟨time, other, ref, event⟩ := Run.mem_completed.mp
      (((Reaches.tracked all).completed_iff was is).mpr ⟨waited.1, isDone⟩)
    have member := Run.mem_outcomes.mpr ⟨time, ref, event⟩
    rwa [told other member] at member

theorem Transition.sent_eq {next : Machine σ} (transition : before.Transition setup next)
    (unsent : ∀ index command, ¬ before.Sends index command) : next.run.sent = before.run.sent := by
  have quiet {run : Run} (same : run.history = before.run.history) : run.sent = before.run.sent := by
    rw [Run.sent, same, Run.sent]
  cases transition with
  | dispatch phase allowed found => exact absurd ⟨phase, allowed, found⟩ (unsent _ _)
  | @land flight result command rest landed later popped known completion same =>
    obtain ⟨former, latter, -, -, rfl⟩ := Run.popEnded?_spec popped
    have alike : next.run.history = landed.history := same.history
    have told : landed.sent = before.run.sent := Run.sent_of_completed completion.history
    rw [← told, Run.sent, alike, Run.sent]
  | lose later popped lost same =>
    obtain ⟨former, latter, -, -, rfl⟩ := Run.popEnded?_spec popped
    exact quiet same.history
  | drain phase clock first known completion => exact Run.sent_of_completed completion.history
  | skip phase clock first lost same => exact quiet same.history
  | pass later same => exact quiet same.history

theorem Happens.sends {next : Machine σ} (happens : before.Happens setup next) :
    next.run.sent = before.run.sent ∨
      ∃ index command, before.Sends index command ∧ next = before.sendOff setup index command := by
  cases happens with
  | step horizon due =>
    by_cases sends : ∃ index command, before.Sends index command
    · obtain ⟨index, command, sends⟩ := sends
      exact .inr ⟨index, command, sends, Option.some.inj (due.symm.trans (sends.step? horizon))⟩
    · exact .inl ((transition_of_step due).sent_eq fun index command here =>
        sends ⟨index, command, here⟩)
  | cancel => exact .inl (by rw [Run.sent, (Run.alike_cancel _).history, Run.sent])
  | _ => exact .inl rfl

theorem Alone.exists_sends {first : Machine σ} (alone : first.Alone setup last)
    (new : index ∉ first.run.sent) (sent : index ∈ last.run.sent) :
    ∃ before command, first.Alone setup before ∧ before.Sends index command ∧
      (before.sendOff setup index command).Alone setup last := by
  induction alone with
  | refl => exact absurd sent new
  | @tail middle last alone happens ih =>
    by_cases already : index ∈ middle.run.sent
    · obtain ⟨before, command, early, sends, later⟩ := ih already
      exact ⟨before, command, early, sends, later.tail happens⟩
    · rcases happens.1.sends with same | ⟨other, command, sends, rfl⟩
      · exact absurd (same ▸ sent) already
      · have told : (middle.sendOff setup other command).run.sent = middle.run.sent ++ [other] :=
          Run.sent_of_dispatched (middle.run.history_dispatch ..)
        rw [told, List.mem_append, List.mem_singleton] at sent
        obtain rfl := sent.resolve_left already
        exact ⟨middle, command, alone, sends, .refl⟩

/-- Whether the completion of a command puts an id on record, and which, is settled by the answers
to its calls. -/
theorem Sends.createdIn_eq {result : CommandResult} (sends : before.Sends index command)
    (reached : (start clock commands limit throttle client).Reaches setup before)
    (later : (before.sendOff setup index command).Reaches setup last)
    (named : ∀ id, (before.exchanges setup command).findSome? Exchange.newId? = some id → id ≠ "")
    (told : (index, result) ∈ last.run.outcomes) :
    Run.createdIn commands (index, result) =
      Execution.createdId? (before.exchanges setup command) := by
  obtain ⟨time, ref, event⟩ := Run.mem_outcomes.mp told
  obtain ⟨origin, was⟩ : ∃ origin, commands[index]? = some origin :=
    Reaches.origin reached sends.found
  rw [(sends.stemsFrom reached later).2.completed event, Run.createdIn, was, Option.bind_some,
    Run.replacement?_congr (Reaches.mode reached was sends.found).symm]
  exact Run.replacement?_of_performance index named

theorem Reaches.mem_createdIds {id : String} {machine : Machine σ} {origin : Command}
    (reached : (start clock commands limit throttle client).Reaches setup machine)
    (was : commands[index]? = some origin) (creates : origin.mode = .create) (named : id ≠ "")
    (told : (index, .success (some id)) ∈ machine.run.outcomes) :
    id ∈ machine.run.createdIds := by
  rw [reached.ids.1, List.mem_filterMap]
  refine ⟨_, told, ?_⟩
  rw [Run.createdIn, was, Option.bind_some]
  exact Run.replacement?_eq_some_iff.mpr ⟨creates, named, rfl⟩

theorem Reaches.mem_failedIds_iff {id : Int} {machine : Machine σ}
    (reached : (start clock commands limit throttle client).Reaches setup machine) :
    id ∈ machine.run.failedIds ↔ ∃ position origin kind message code,
      (position, .failure kind message code) ∈ machine.run.outcomes ∧
        commands[position]? = some origin ∧ origin.id = id := by
  rw [reached.ids.2, List.mem_filterMap]
  constructor
  · rintro ⟨⟨position, result⟩, told, failed⟩
    obtain ⟨origin, was, isFailure⟩ := Option.bind_eq_some_iff.mp failed
    cases result with
    | success newId? => simp [Run.failedId?] at isFailure
    | failure kind message code =>
      exact ⟨position, origin, kind, message, code, told, was, Option.some.inj isFailure⟩
  · rintro ⟨position, origin, kind, message, code, told, was, rfl⟩
    exact ⟨_, told, by rw [Run.failedIn, was, Option.bind_some]; rfl⟩

/-- The replies to the calls of all commands that a run has sent off. -/
def Answered (setup : Setup σ) (first last : Machine σ) (replies : Nat → List Exchange) : Prop :=
  ∀ index ∈ last.run.sent, ∃ before command, first.Alone setup before ∧
    before.Sends index command ∧ (before.sendOff setup index command).Alone setup last ∧
    replies index = before.exchanges setup command

theorem Alone.exists_answered {first : Machine σ} (alone : first.Alone setup last)
    (fresh : first.run.sent = []) : ∃ replies, first.Answered setup last replies := by
  have answered (index : Nat) : ∃ replies : List Exchange, index ∈ last.run.sent →
      ∃ before command, first.Alone setup before ∧ before.Sends index command ∧
        (before.sendOff setup index command).Alone setup last ∧
        replies = before.exchanges setup command := by
    by_cases sent : index ∈ last.run.sent
    · obtain ⟨before, command, early, sends, later⟩ := alone.exists_sends (by simp [fresh]) sent
      exact ⟨_, fun _ => ⟨before, command, early, sends, later, rfl⟩⟩
    · exact ⟨[], fun here => absurd here sent⟩
  choose replies known using answered
  exact ⟨replies, known⟩

theorem Alone.createdIds_eq {replies : Nat → List Exchange}
    (meets : setup.client.Meets Execution.NamesItems)
    (alone : (start clock commands limit throttle client).Alone setup last)
    (answered : (start clock commands limit throttle client).Answered setup last replies) :
    last.run.createdIds =
      last.run.completed.filterMap fun index => Execution.createdId? (replies index) := by
  rw [alone.reaches.ids.1, Run.completed_eq, List.filterMap_map]
  refine List.filterMap_congr fun ⟨index, result⟩ told => ?_
  obtain ⟨time, ref, event⟩ := Run.mem_outcomes.mp told
  have sent : index ∈ last.run.sent := alone.reaches.sentBefore _ event
  obtain ⟨before, command, early, sends, later, same⟩ := answered index sent
  rw [Function.comp_apply, same]
  refine sends.createdIn_eq early.reaches later.reaches (fun id returned => ?_) told
  obtain ⟨exchange, member, new⟩ := List.exists_of_findSome?_eq_some returned
  have named := Plan.exchanges_meet meets _ _ _ exchange member
  obtain ⟨site, page, rfl⟩ := Exchange.newId?_eq_some_iff.mp new
  exact named.1

/-- When the client has returned an id for a creation, this is the result of the command, and once
the command is done the new item is on record and the command does not count as failed, unless the
failure of the label escapes. If it does, then the command fails with its message and counts as
failed. Either way the calls of the run for this command are those that were answered so. -/
theorem creation_on_record {id : String}
    (reached : (start clock commands limit throttle client).Reaches setup before)
    (sends : before.Sends index command) (creates : command.mode = .create)
    (returned : (before.exchanges setup command).findSome? Exchange.newId? = some id)
    (named : id ≠ "") (later : (before.sendOff setup index command).Reaches setup last) :
    last.run.callsFor index = (before.exchanges setup command).map (·.call) ∧
      ((before.exchanges setup command).findSome? Exchange.labelEscape? = none →
        last.run.ComesTo index (.success (some id)) ∧
        ∀ done, last.run.commands[index]? = some done → done.status = .done →
          id ∈ last.run.createdIds ∧
          (done.id ∈ last.run.failedIds → ∃ other ≠ index, ∃ origin kind message code,
            (other, .failure kind message code) ∈ last.run.outcomes ∧
              commands[other]? = some origin ∧ origin.id = done.id)) ∧
      ∀ reason, (before.exchanges setup command).findSome? Exchange.labelEscape? =
          some (.fault reason) →
        last.run.ComesTo index (.failure .remote reason.message "") ∧
        ∀ done, last.run.commands[index]? = some done → done.status = .done →
          done.id ∈ last.run.failedIds := by
  have performed := Run.performance_of_created creates returned
  have all := (reached.tail (sends.happens setup)).trans later
  obtain ⟨origin, was⟩ : ∃ origin, commands[index]? = some origin :=
    Reaches.origin reached sends.found
  refine ⟨?_, ?_, ?_⟩
  · rw [(sends.stemsFrom reached later).2.calls]
    exact (Run.map_call_exchanges ..).symm
  · intro kept
    have settled : settle (before.performance setup command).result =
        some (.success (some id)) := by
      rw [exchanges] at kept
      rw [performance, performed, kept]
      rfl
    have comes := sends.comesTo reached later settled
    refine ⟨comes, fun done is isDone => ?_⟩
    have told := comes.done done is isDone
    have mode : origin.mode = .create := (Reaches.mode reached was sends.found).symm.trans creates
    refine ⟨Reaches.mem_createdIds all was mode named told, fun failed => ?_⟩
    -- Another command has the same id, for this one has succeeded.
    obtain ⟨other, rival, kind, message, code, toldOther, there, same⟩ :=
      (Reaches.mem_failedIds_iff all).mp failed
    refine ⟨other, ?_, rival, kind, message, code, toldOther, there, same⟩
    rintro rfl
    simpa using comes.told _ toldOther
  · intro reason escaped
    have settled : settle (before.performance setup command).result =
        some (.failure .remote reason.message "") := by
      rw [exchanges] at escaped
      rw [performance, performed, escaped]
      rfl
    have comes := sends.comesTo reached later settled
    refine ⟨comes, fun done is isDone => ?_⟩
    have framed := Reaches.framed all was is
    exact (Reaches.mem_failedIds_iff all).mpr
      ⟨index, origin, _, _, _, comes.done done is isDone, was, by rw [framed]⟩

end reached

def redlinked : Command :=
  { id := 7, entityRef := "create_item_0", mode := .create, page := "Foo", fromRedlink := true }

def labelling (failure : CallFailure) : Machine Rehearsal.ClientState :=
  (start 0 [redlinked] 1 0 { rules := [{ rule := { call := "set_label", failure } }] }).steps
    rehearsed 10 1

def labelled (failure : CallFailure) : Machine Rehearsal.ClientState :=
  ((labelling failure).sendOff rehearsed 0 redlinked).steps rehearsed 10 20

theorem creation_on_record_labelled :
    ("Q101" ∈ (labelled (.remote "no answer")).run.createdIds ∧
      7 ∉ (labelled (.remote "no answer")).run.failedIds) ∧
    (labelled (.fault (.internal "boom"))).run.ComesTo 0 (.failure .remote "boom" "") ∧
      7 ∈ (labelled (.fault (.internal "boom"))).run.failedIds := by
  have kept : (labelling (.remote "no answer")).Sends 0 redlinked :=
    ⟨by decide +kernel, by decide +kernel, by decide +kernel⟩
  have broken : (labelling (.fault (.internal "boom"))).Sends 0 redlinked :=
    ⟨by decide +kernel, by decide +kernel, by decide +kernel⟩
  have later (failure : CallFailure) :
      ((labelling failure).sendOff rehearsed 0 redlinked).Reaches rehearsed (labelled failure) :=
    reaches_steps rehearsed 10 20 _
  constructor
  · have created : ((labelling (.remote "no answer")).exchanges rehearsed redlinked).findSome?
        Exchange.newId? = some "Q101" := by decide +kernel
    obtain ⟨-, lost, -⟩ := creation_on_record (reaches_steps rehearsed 10 1 _) kept rfl created
      (by decide) (later (.remote "no answer"))
    obtain ⟨comes, recorded⟩ := lost (by decide +kernel)
    obtain ⟨created, alone⟩ := recorded { redlinked with status := .done }
      (by decide +kernel) rfl
    refine ⟨created, fun failed => ?_⟩
    obtain ⟨other, elsewhere, origin, -, -, -, -, was, -⟩ := alone failed
    simp [elsewhere] at was
  · have created : ((labelling (.fault (.internal "boom"))).exchanges rehearsed
        redlinked).findSome? Exchange.newId? = some "Q101" := by decide +kernel
    obtain ⟨-, -, escaped⟩ := creation_on_record (reaches_steps rehearsed 10 1 _) broken rfl
      created (by decide) (later (.fault (.internal "boom")))
    obtain ⟨fails, failed⟩ := escaped (.internal "boom") (by decide +kernel)
    exact ⟨fails, failed { redlinked with status := .done } (by decide +kernel) rfl⟩

/-- The id of a new item gets lost if the failure of its label escapes. -/
theorem new_item_lost :
    (labelling (.fault (.internal "boom"))).Sends 0 redlinked ∧
      ((labelling (.fault (.internal "boom"))).exchanges rehearsed redlinked).findSome?
        Exchange.newId? = some "Q101" ∧
      (labelled (.fault (.internal "boom"))).run.commands.map (·.status) = [.done] ∧
      (labelled (.fault (.internal "boom"))).run.outcomes = [(0, .failure .remote "boom" "")] ∧
      (labelled (.fault (.internal "boom"))).run.createdIds = [] ∧
      (labelled (.fault (.internal "boom"))).run.failedIds = [7] := by
  refine ⟨⟨?_, ?_, ?_⟩, ?_, ?_, ?_, ?_, ?_⟩ <;> decide +kernel

end Machine

end EditBatch

import EditBatch.Proofs.Command.Conduct
import EditBatch.Proofs.Run.Creation
import EditBatch.Proofs.Wiki.Requests
import EditBatch.Rehearsal.Server

/-! Which creations come to blank items.

What a server is sent during a run are the requests of the calls, in their order. So a request for a
blank item has a creation behind it. It is that of a redlink, whose label is then set, or one without
a page or without a wiki, and then no label follows.
-/

set_option autoImplicit false

namespace EditBatch

open Http (RequestRecord Server)

/-! ## The list of requests -/

namespace Run

variable {σ : Type} (setup : Setup σ) (now index : Nat) (command : Command) (run : Run) (client : σ)

theorem mem_callLog {run : Run} {record : CallRecord} :
    record ∈ run.callLog ↔ ∃ index, .called record.time index record.call ∈ run.history := by
  unfold callLog
  rw [List.mem_filterMap]
  constructor
  · rintro ⟨event, member, is⟩
    cases event with
    | called time index call =>
      cases is
      exact ⟨index, member⟩
    | dispatched => simp at is
    | completed => simp at is
  · rintro ⟨index, member⟩
    exact ⟨_, member, rfl⟩

theorem callLog_dispatch : (run.dispatch setup now index command client).1.callLog =
    run.callLog ++ (performance setup now command client).calls := by
  rw [callLog, history_dispatch, List.filterMap_append]
  refine congrArg₂ (· ++ ·) rfl ?_
  simp [dispatchEvents, List.filterMap_map]

end Run

namespace Machine

variable {σ : Type} {setup : Setup σ}

theorem HappensAlone.sends {before next : Machine σ} (happens : before.HappensAlone setup next) :
    (next.client = before.client ∧ next.run.callLog = before.run.callLog) ∨
      ∃ index command, before.Sends index command ∧
        next = before.sendOff setup index command := by
  rcases happens.1.sends with unsent | sends
  · -- Where the list of commands sent off stays as it is, neither move nor change is a dispatch.
    refine .inl ⟨?_, ?_⟩
    · rcases happens.2 with ⟨horizon, due⟩ | same
      · cases move_of_step due with
        | @dispatch index command =>
          have told := Run.sent_of_dispatched
            (before.run.history_dispatch setup before.clock index command before.client)
          simp [told] at unsent
        | _ => rfl
      · exact same
    · cases happens.1.change with
      | none commands history => rw [Run.callLog, history, Run.callLog]
      | dispatch client eligible found commands history =>
        simp [Run.sent_of_dispatched history] at unsent
      | complete found running commands history =>
        rw [Run.callLog, history, List.filterMap_append]
        exact List.append_nil _
  · exact .inr sends

end Machine

namespace Wiki

variable {σ : Type} {endpoints : Endpoints} {server : Server σ}
  {setup : Setup (σ × List RequestRecord)}

/-- What a server is sent are the requests of the calls that are made. -/
theorem log_of_alone {first last : Machine (σ × List RequestRecord)}
    (served : setup.client = client endpoints server.recorded) (alone : first.Alone setup last)
    (tells : first.client.2 = first.run.callLog.filterMap (sentFor? endpoints)) :
    last.client.2 = last.run.callLog.filterMap (sentFor? endpoints) := by
  induction alone with
  | refl => exact tells
  | @tail middle last alone happens ih =>
    rcases happens.sends with ⟨same, calls⟩ | ⟨index, command, sends, rfl⟩
    · rw [same, calls, ih]
    · have performed := perform_recorded endpoints server
        (command.execution command.entityRef setup.wiki) middle.clock middle.client.1
        middle.client.2
      have done : middle.performance setup command =
          (command.execution command.entityRef setup.wiki).perform
            (client endpoints server.recorded) middle.clock middle.client := by
        rw [Machine.performance, Run.performance, served]
      have called : (middle.sendOff setup index command).run.callLog =
          middle.run.callLog ++ (middle.performance setup command).calls :=
        Run.callLog_dispatch ..
      have left : (middle.sendOff setup index command).client =
          (middle.performance setup command).client := rfl
      rw [called, left, done, performed, List.filterMap_append, ih]

/-! ## Creations -/

def itemFromPage (wiki page : String) : EditProxy.Action :=
  ⟨"create_item_from_page", [("site", wiki), ("page", page)]⟩

def blankItem : EditProxy.Action := ⟨"create_blank_item", []⟩

theorem createItem_of_given (wiki page : String) :
    EditProxy.createItem (some wiki) (some page) =
      if wiki = "" ∨ page = "" then blankItem else itemFromPage wiki page := by
  by_cases nameless : wiki = "" ∨ page = ""
  · rw [if_pos nameless]
    simp only [EditProxy.createItem]
    rw [if_neg (by tauto)]
    rfl
  · rw [if_neg nameless]
    simp only [EditProxy.createItem]
    rw [if_pos (not_or.mp nameless)]
    rfl

/-- The requests of a creation and the replies to its calls. -/
inductive Asks (endpoint : EditProxy.Endpoint) (wiki page : String) :
    (fromRedlink : Bool) → List Exchange → List Http.Request → Prop where
  | linked {outcome : Except CallFailure String} (named : wiki ≠ "" ∧ page ≠ "") :
      Asks endpoint wiki page false [⟨.createEntity (some wiki) (some page), outcome⟩]
        [EditProxy.request endpoint (itemFromPage wiki page)]
  /-- The item stays without a label. -/
  | nameless {outcome : Except CallFailure String} (missing : wiki = "" ∨ page = "") :
      Asks endpoint wiki page false [⟨.createEntity (some wiki) (some page), outcome⟩]
        [EditProxy.request endpoint blankItem]
  | unborn {failure : CallFailure} :
      Asks endpoint wiki page true [⟨.createEntity none none, .error failure⟩]
        [EditProxy.request endpoint blankItem]
  | labelled {id : String} {outcome : Except CallFailure Unit} :
      Asks endpoint wiki page true
        [⟨.createEntity none none, .ok id⟩,
          ⟨.setLabel id (labelLanguage wiki) (pageLabel page), outcome⟩]
        [EditProxy.request endpoint blankItem,
          EditProxy.request endpoint
            (EditProxy.setLabel id (labelLanguage wiki) (pageLabel page))]

theorem asks_of_makes {command : Command} {ref wiki : String} {exchanges : List Exchange}
    (makes : Execution.Makes command ref wiki exchanges) (creates : command.mode = .create) :
    Asks endpoints.edits wiki command.page command.fromRedlink exchanges
      ((exchanges.map (·.call)).map (requestOf endpoints)) := by
  cases makes with
  | linked _ blue =>
    simp only [blue, List.map_cons, List.map_nil, requestOf, createItem_of_given]
    split
    next missing => exact .nameless missing
    next named => exact .linked (not_or.mp named)
  | unborn _ red =>
    rw [red]
    exact .unborn
  | labelled _ red =>
    rw [red]
    exact .labelled
  | nothing orphaned => exact absurd creates orphaned.1
  | added adds => simp [creates] at adds
  | unread deletes => simp [creates] at deletes
  | unmatched deletes => simp [creates] at deletes
  | removed deletes => simp [creates] at deletes

/-! ## Blank items -/

def AsksBlank (request : Http.Request) : Prop :=
  request.params.lookup "action" = some blankItem.name

theorem Asks.of_blank {endpoint : EditProxy.Endpoint} {wiki page : String} {fromRedlink : Bool}
    {exchanges : List Exchange} {requests : List Http.Request} {request : Http.Request}
    (asks : Asks endpoint wiki page fromRedlink exchanges requests) (among : request ∈ requests)
    (blank : AsksBlank request) : fromRedlink = true ∨ wiki = "" ∨ page = "" := by
  cases asks with
  | linked named =>
    rw [List.mem_singleton.mp among] at blank
    simp [AsksBlank, EditProxy.request, itemFromPage, blankItem] at blank
  | nameless missing => exact .inr missing
  | unborn => exact .inl rfl
  | labelled => exact .inl rfl

theorem createEntity_of_asksBlank {call : EditCall}
    (blank : AsksBlank (requestOf endpoints call)) : ∃ site page, call = .createEntity site page := by
  cases call with
  | createEntity site page => exact ⟨site, page, rfl⟩
  | _ =>
    simp [AsksBlank, requestOf, Statements.request, EditProxy.request, EditProxy.setLabel,
      EditProxy.setClaim, EditProxy.removeClaim, blankItem] at blank

theorem params_of_sentFor? {call : CallRecord} {record : RequestRecord}
    (sent : sentFor? endpoints call = some record) :
    record.request.params = (requestOf endpoints call.call).params := by
  obtain ⟨request, given, rfl⟩ := Option.map_eq_some_iff.mp sent
  obtain ⟨url, -, same⟩ := Option.bind_eq_some_iff.mp given
  split at same
  · simp at same
  · cases same
    rfl

section

variable {clock limit throttle : Nat} {state : σ} {commands : List Command}
  {last : Machine (σ × List RequestRecord)}

variable (endpoints) in
/-- Of the commands that were sent off, creations make their requests, and no others create items. -/
theorem asks_of_answered {replies : Nat → List Exchange} {index : Nat} {command : Command}
    (answered : (Machine.start clock commands limit throttle (state, [])).Answered setup last replies)
    (sent : index ∈ last.run.sent) (was : commands[index]? = some command) :
    (command.mode = .create →
        Asks endpoints.edits setup.wiki command.page command.fromRedlink (replies index)
          ((last.run.callsFor index).map (requestOf endpoints))) ∧
      ∀ site page, .createEntity site page ∈ last.run.callsFor index → command.mode = .create := by
  obtain ⟨before, current, early, sends, later, same⟩ := answered index sent
  have calls : last.run.callsFor index = (replies index).map (·.call) := by
    rw [(sends.stemsFrom early.reaches later.reaches).2.calls, same]
    exact (Run.map_call_exchanges ..).symm
  have framed := Machine.Reaches.framed early.reaches was sends.found
  have mode : current.mode = command.mode := by rw [framed]
  rw [calls, ← mode]
  refine ⟨fun creates => ?_, fun site page called => ?_⟩
  · have makes : Execution.Makes current current.entityRef setup.wiki (replies index) := by
      rw [same]
      exact Execution.makes_exchanges (by simp [creates]) ..
    have page : current.page = command.page := by rw [framed]
    have red : current.fromRedlink = command.fromRedlink := by rw [framed]
    rw [← page, ← red]
    exact asks_of_makes makes creates
  · rw [same] at called
    exact Execution.creates_of_createEntity called

/-- During a run of its own, a server is sent the requests of the calls, in their order. A creation
for a redlink asks for a blank item and sets its label if it is given an id, any other creation asks
for an item from its page, or for a blank one if the page or the wiki has no name. Nothing else asks
for blank items. -/
theorem blank_without_page (served : setup.client = client endpoints server.recorded)
    (alone : (Machine.start clock commands limit throttle (state, [])).Alone setup last) :
    last.client.2 = last.run.callLog.filterMap (sentFor? endpoints) ∧
      (∃ replies,
        (Machine.start clock commands limit throttle (state, [])).Answered setup last replies ∧
        ∀ index command, index ∈ last.run.sent → commands[index]? = some command →
          command.mode = .create →
          Asks endpoints.edits setup.wiki command.page command.fromRedlink (replies index)
            ((last.run.callsFor index).map (requestOf endpoints))) ∧
      ∀ record ∈ last.client.2, AsksBlank record.request →
        ∃ index command, index ∈ last.run.sent ∧ commands[index]? = some command ∧
          command.mode = .create ∧
          (command.fromRedlink = true ∨ setup.wiki = "" ∨ command.page = "") := by
  have told := log_of_alone served alone rfl
  obtain ⟨replies, answered⟩ := alone.exists_answered rfl
  refine ⟨told, ⟨replies, answered, fun index command sent was =>
    (asks_of_answered endpoints answered sent was).1⟩, fun record member blank => ?_⟩
  rw [told, List.mem_filterMap] at member
  obtain ⟨call, made, given⟩ := member
  obtain ⟨index, event⟩ := Run.mem_callLog.mp made
  have sent : index ∈ last.run.sent := alone.reaches.sentBefore _ event
  have called : call.call ∈ last.run.callsFor index := Run.mem_callsFor.mpr ⟨_, event⟩
  obtain ⟨before, current, early, sends, -⟩ := answered index sent
  obtain ⟨command, was⟩ : ∃ command, commands[index]? = some command :=
    Machine.Reaches.origin early.reaches sends.found
  obtain ⟨asks, creates⟩ := asks_of_answered endpoints answered sent was
  rw [AsksBlank, params_of_sentFor? given] at blank
  obtain ⟨site, page, same⟩ := createEntity_of_asksBlank blank
  have mode := creates site page (same ▸ called)
  exact ⟨index, command, sent, was, mode,
    (asks mode).of_blank (List.mem_map_of_mem called) blank⟩

end

def usual : Endpoints :=
  ⟨⟨"https://tools.wmflabs.org/widar/index.php", "petscan"⟩, "https://www.wikidata.org/w/api.php"⟩

def listing : Setup (Rehearsal.ServerState × List RequestRecord) where
  client := client usual Rehearsal.server.recorded
  wiki := "enwiki"
  poll := 50
  poll_pos := by decide
  listener := fun _ => {}

def births : List Command :=
  [{ id := 0, entityRef := "create_item_0", mode := .create, page := "Foo" },
    { id := 1, entityRef := "create_item_1", mode := .create, page := "Bar", fromRedlink := true }]

def born (commands : List Command) : Machine (Rehearsal.ServerState × List RequestRecord) :=
  (Machine.start 0 commands 1 0 ({}, [])).steps listing 10 20

theorem blank_without_page_births :
    (Machine.start 0 births 1 0 ({}, [])).Alone listing (born births) ∧
      (born births).client.2.map (·.request.params.lookup "action") =
        [some "create_item_from_page", some "create_blank_item", some "set_label"] ∧
      (∃ replies, Asks usual.edits "enwiki" "Bar" true replies
        (((born births).run.callsFor 1).map (requestOf usual))) ∧
      ∃ record ∈ (born births).client.2, AsksBlank record.request ∧
        ∃ index command, index ∈ (born births).run.sent ∧ births[index]? = some command ∧
          command.mode = .create ∧
          (command.fromRedlink = true ∨ listing.wiki = "" ∨ command.page = "") := by
  have served : listing.client = client usual Rehearsal.server.recorded := rfl
  have alone : (Machine.start 0 births 1 0 ({}, [])).Alone listing (born births) :=
    (Machine.steps_steps listing 10 20 _).alone
  have actions : (born births).client.2.map (·.request.params.lookup "action") =
      [some "create_item_from_page", some "create_blank_item", some "set_label"] := by
    decide +kernel
  have among : some "create_blank_item" ∈
      (born births).client.2.map (·.request.params.lookup "action") := by
    simp [actions]
  obtain ⟨record, member, blank⟩ := List.mem_map.mp among
  obtain ⟨-, ⟨replies, -, asks⟩, stems⟩ := blank_without_page served alone
  have second : 1 ∈ (born births).run.sent := by decide +kernel
  exact ⟨alone, actions, ⟨replies 1, asks 1 _ second rfl rfl⟩, record, member, blank,
    stems record member blank⟩

def unnamed : Selection := { create := true, groupId := some "" }

def nameless : Command :=
  { id := 0, entityRef := "create_item_0", mode := .create, closesGroup := true,
    groupId := some "" }

/-- A blank item is made without a redlink, and stays without a label. -/
theorem blank_without_redlink :
    Batch.read "" [unnamed] = .ok ⟨[nameless], []⟩ ∧ nameless.fromRedlink = false ∧
      (Machine.start 0 [nameless] 1 0 ({}, [])).Alone listing (born [nameless]) ∧
      (born [nameless]).outcome? = some .completed ∧
      (born [nameless]).run.createdIds = ["Q101"] ∧
      (born [nameless]).client.2.map (·.request.params.lookup "action") =
        [some "create_blank_item"] := by
  refine ⟨?_, rfl, (Machine.steps_steps listing 10 20 _).alone, ?_⟩
  · rfl
  · decide +kernel

end Wiki

end EditBatch

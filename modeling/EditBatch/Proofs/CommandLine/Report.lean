import EditBatch.Proofs.CommandLine.Shown
import EditBatch.Proofs.CommandLine.Watching
import EditBatch.Proofs.Json.Nesting
import EditBatch.Proofs.Row.Layout
import EditBatch.Rehearsal.Directory
import EditBatch.Rehearsal.Server
import Mathlib.Algebra.Group.Int.Defs

/-! What the program says about a batch, and what has become of the batch.

Only an invocation that gets as far as executing a batch does anything to the world. Its last words
and its exit code are about the whole run: what was sent off, what failed, and which items were
created.
-/

set_option autoImplicit false

namespace EditBatch.CommandLine

open EditBatch.Text

variable {σ : Type} {occasion : Occasion σ} {arguments : List String} {settings : Settings}
  {batch : Batch}

/-- An invocation gets as far as executing a batch under settings. -/
structure Executes (occasion : Occasion σ) (arguments : List String) (settings : Settings)
    (batch : Batch) : Prop where
  read : ∃ given options, Wish.read arguments = .ok (.perform .runBatch given) ∧
    Options.ofArguments occasion.surroundings.files given = .ok options ∧
    options.settings occasion.surroundings .runBatch = .ok settings ∧
    options.batch occasion.surroundings = .ok batch
  earnest : settings.dryRun = false
  something : batch.commands.isEmpty = false

/-! ## Up to the batch -/

theorem performBatch_world (subcommand : Subcommand) (world : σ) :
    (performBatch occasion subcommand settings batch world).2 = world ∨
      subcommand = .runBatch ∧ settings.dryRun = false ∧ batch.commands.isEmpty = false := by
  simp only [performBatch]
  split
  · exact .inl rfl
  next something =>
    cases subcommand with
    | exportBatch => exact .inl rfl
    | runBatch =>
      by_cases earnest : settings.dryRun = true
      · simp [earnest]
      · exact .inr ⟨rfl, by simpa using earnest, by simpa using something⟩

theorem performOptions_world (subcommand : Subcommand) (options : Options) (world : σ) :
    (performOptions occasion subcommand options world).2 = world ∨
      ∃ settings batch, options.settings occasion.surroundings subcommand = .ok settings ∧
        options.batch occasion.surroundings = .ok batch ∧
        subcommand = .runBatch ∧ settings.dryRun = false ∧ batch.commands.isEmpty = false := by
  unfold performOptions
  split
  · exact .inl rfl
  next settings set =>
    split
    · exact .inl rfl
    next batch collected =>
      exact (performBatch_world subcommand world).imp_right fun far =>
        ⟨settings, batch, set, collected, far⟩

/-- Only an invocation that gets as far as that does anything to the world. -/
theorem world_or_executes (arguments : List String) (world : σ) :
    (program occasion arguments world).2 = world ∨
      ∃ settings batch, Executes occasion arguments settings batch := by
  change (performArguments occasion arguments world).2 = world ∨ _
  unfold performArguments
  split
  · exact .inl rfl
  next wish asked =>
    unfold performWish
    split
    · exact .inl rfl
    · exact .inl rfl
    next subcommand given =>
      split
      · exact .inl rfl
      next options converted =>
        refine (performOptions_world subcommand options world).imp_right ?_
        rintro ⟨settings, batch, set, collected, rfl, earnest, something⟩
        exact ⟨settings, batch, ⟨given, options, asked, converted, set, collected⟩, earnest,
          something⟩

def notes (batch : Batch) : String := String.join (batch.malformed.map skippedNote)

theorem performBatch_of_executes (world : σ) (earnest : settings.dryRun = false)
    (something : batch.commands.isEmpty = false) :
    performBatch occasion .runBatch settings batch world =
      executeBatch occasion settings (notes batch) batch.commands world := by
  unfold performBatch
  rw [something, earnest]
  rfl

theorem performOptions_of_ok {subcommand : Subcommand} {options : Options} (world : σ)
    (set : options.settings occasion.surroundings subcommand = .ok settings)
    (collected : options.batch occasion.surroundings = .ok batch) :
    performOptions occasion subcommand options world =
      performBatch occasion subcommand settings batch world := by
  unfold performOptions
  generalize options.settings occasion.surroundings subcommand = readSettings at set
  generalize options.batch occasion.surroundings = readBatch at collected
  rw [set, collected]

theorem Executes.performed (executes : Executes occasion arguments settings batch) (world : σ) :
    performArguments occasion arguments world =
      executeBatch occasion settings (notes batch) batch.commands world := by
  obtain ⟨⟨given, options, asked, converted, set, collected⟩, earnest, something⟩ := executes
  calc performArguments occasion arguments world
      = performWish occasion (.perform .runBatch given) world := by rw [performArguments, asked]
    _ = performOptions occasion .runBatch options world := by simp only [performWish, converted]
    _ = performBatch occasion .runBatch settings batch world :=
      performOptions_of_ok world set collected
    _ = _ := performBatch_of_executes world earnest something

theorem waiting_of_batch {surroundings : Surroundings} {options : Options}
    (collected : options.batch surroundings = .ok batch) :
    ∀ command ∈ batch.commands, command.status = .waiting := by
  unfold Options.batch at collected
  split at collected
  · simp at collected
  · split at collected
    next read =>
      cases collected
      exact Batch.waiting_of_read read
    next => simp at collected

theorem effectiveThrottle_lt (throttled : ∀ given, settings.throttle = some given → given < 2 ^ 53) :
    settings.effectiveThrottle < 2 ^ 53 := by
  have usual : settings.accountThrottle < 2 ^ 53 := by
    unfold Settings.accountThrottle
    split <;> decide
  unfold Settings.effectiveThrottle
  split
  next given is =>
    split
    · exact throttled given is
    · exact usual
  next => exact usual

theorem Executes.watchable (executes : Executes occasion arguments settings batch) (world : σ)
    (throttled : ∀ given, settings.throttle = some given → given < 2 ^ 53)
    (polled : settings.pollInterval < 2 ^ 53) :
    Watchable (setupFor settings occasion.server) batch.commands
      settings.effectiveConcurrency.toNat settings.effectiveThrottle.toNat world
      (begin settings batch.commands world) := by
  obtain ⟨⟨given, options, -, -, -, collected⟩, -, -⟩ := executes
  have limited := settings.effectiveConcurrency_bounds.1
  have short := effectiveThrottle_lt throttled
  exact
    { begins := rfl
      waiting := waiting_of_batch collected
      limited := by omega
      throttled := by
        simp only [Nat.pow_eq]
        omega
      polled := by
        simp only [setupFor, Nat.pow_eq]
        omega
      uncancelled := fun _ => rfl
      recovers := Wiki.client_recovers _ _
      names := Wiki.client_namesItems _ _ }

/-! ## From the batch to the exit code -/

def watched (occasion : Occasion σ) (settings : Settings) (batch : Batch) (world : σ) : Watched σ :=
  watch (setupFor settings occasion.server) occasion.interruptAt
    (begin settings batch.commands world)

theorem Accounts.isNormal {endpoints : Wiki.Endpoints} {server : Http.Server σ} {setup : Setup σ}
    {first last : Machine σ} {report : Report} (accounts : Accounts setup first last report)
    (wikidata : setup.client = Wiki.client endpoints server) :
    ∀ id ∈ report.createdIds, Item.IsNormal id := by
  intro id member
  obtain ⟨replies, answered, created⟩ := accounts.created
  rw [created, List.mem_filterMap] at member
  obtain ⟨index, completed, isId⟩ := member
  obtain ⟨before, command, -, -, -, same⟩ := answered index (accounts.completed.subset completed)
  rw [Execution.createdId?] at isId
  split at isId
  next =>
    obtain ⟨exchange, among, new⟩ := List.exists_of_findSome?_eq_some isId
    rw [same] at among
    have numbered := Plan.exchanges_meet
      (wikidata ▸ Wiki.client_numbersItems endpoints server) _ _ _ exchange among
    obtain ⟨site, page, rfl⟩ := Exchange.newId?_eq_some_iff.mp new
    exact numbered
  next => simp at isId

theorem Accounts.code_eq {setup : Setup σ} {first last : Machine σ} {report : Report}
    (accounts : Accounts setup first last report) :
    (if report.failedIds.isEmpty then 0 else 1) =
      if last.run.outcomes.any (fun told => !told.2.isOk) then 1 else 0 := by
  have none : report.failedIds.isEmpty = true ↔
      ¬ last.run.outcomes.any (fun told => !told.2.isOk) = true := by
    rw [List.isEmpty_iff_length_eq_zero, accounts.failed, List.countP_eq_zero, List.any_eq_true]
    simp
  by_cases failed : last.run.outcomes.any (fun told => !told.2.isOk) = true
  · rw [if_pos failed, if_neg fun empty => none.mp empty failed]
  · rw [if_neg failed, if_pos (none.mpr failed)]

/-- What the program prints and leaves, told from the batch that it watched. -/
theorem Executes.program_eq (executes : Executes occasion arguments settings batch) (world : σ)
    (throttled : ∀ given, settings.throttle = some given → given < 2 ^ 53)
    (polled : settings.pollInterval < 2 ^ 53) :
    program occasion arguments world =
      ({ output := (watched occasion settings batch world).shown ++
           summary (reportOf (watched occasion settings batch world).machine)
         errors := plain (notes batch)
         ending := .exit (if (watched occasion settings batch world).machine.run.outcomes.any
           (fun told => !told.2.isOk) then 1 else 0) },
        (watched occasion settings batch world).machine.client) := by
  obtain ⟨accounts, -⟩ := (executes.watchable world throttled polled).concludes
    occasion.interruptAt
  have output : Unescaped ((watched occasion settings batch world).shown ++
      summary (reportOf (watched occasion settings batch world).machine)) :=
    unescaped_append.mpr ⟨unescaped_watch _ _ _, unescaped_summary fun id member =>
      (accounts.isNormal rfl id member).unescaped⟩
  have code : (if (reportOf (watched occasion settings batch world).machine).failedIds.isEmpty
      then 0 else 1) = if (watched occasion settings batch world).machine.run.outcomes.any
        (fun told => !told.2.isOk) then 1 else 0 :=
    accounts.code_eq
  have printed : program occasion arguments world =
      ((executeBatch occasion settings (notes batch) batch.commands world).1.withoutControl,
        (executeBatch occasion settings (notes batch) batch.commands world).2) := by
    rw [← executes.performed world]
    rfl
  rw [printed, ← code, ← plain_of_unescaped output]
  rfl

/-- Whatever the server does and whenever an interrupt comes, an invocation that executes a batch
ends. It has printed what it noticed while it waited and then a report that accounts for the whole
run, where new items are listed in the order of their completion unless the failure of a label
escaped. The exit code is one if and only if a command has failed. An interrupt before the end is
heeded, and otherwise everything has been sent off. -/
theorem reports_faithfully (executes : Executes occasion arguments settings batch) (world : σ)
    (throttled : ∀ given, settings.throttle = some given → given < 2 ^ 53)
    (polled : settings.pollInterval < 2 ^ 53) :
    program occasion arguments world =
      ({ output := (watched occasion settings batch world).shown ++
           summary (reportOf (watched occasion settings batch world).machine)
         errors := plain (notes batch)
         ending := .exit (if (watched occasion settings batch world).machine.run.outcomes.any
           (fun told => !told.2.isOk) then 1 else 0) },
        (watched occasion settings batch world).machine.client) ∧
      Accounts (setupFor settings occasion.server) (begin settings batch.commands world)
        (watched occasion settings batch world).machine
        (reportOf (watched occasion settings batch world).machine) ∧
      Heeds (setupFor settings occasion.server) occasion.interruptAt
        (begin settings batch.commands world) (watched occasion settings batch world).machine :=
  ⟨executes.program_eq world throttled polled,
    (executes.watchable world throttled polled).concludes occasion.interruptAt⟩

def bare : Surroundings where
  files := Rehearsal.Directory.lookAt []

def hasty : Settings := { throttle := some 0 }

def creating : List String := ["run", "--redlink", "Foo", "-s", "P31:Q5", "--throttle-ms", "0"]

def created : Command :=
  { id := 0, entityRef := "create_item_0", mode := .create, page := "Foo", fromRedlink := true
    groupId := some "Foo" }

def edited : Command :=
  { id := 1, entityRef := "create_item_0", mode := .add, prop := "P31", value := some "Q5"
    groupId := some "Foo", closesGroup := true }

theorem executes_creating (server : Http.Server σ) (interruptAt : Option Nat) :
    Executes ⟨bare, server, interruptAt⟩ creating hasty ⟨[created, edited], []⟩ := by
  have read : Wish.read creating = .ok (.perform .runBatch
      ⟨[⟨.redlink, "Foo"⟩, ⟨.statement, "P31:Q5"⟩, ⟨.throttle, "0"⟩], []⟩) ∧
      Options.ofArguments bare.files
        ⟨[⟨.redlink, "Foo"⟩, ⟨.statement, "P31:Q5"⟩, ⟨.throttle, "0"⟩], []⟩ =
          .ok { statements := ["P31:Q5"], redlinkPages := ["Foo"], throttle := some 0 } ∧
      Options.settings bare .runBatch
        { statements := ["P31:Q5"], redlinkPages := ["Foo"], throttle := some 0 } = .ok hasty ∧
      Options.batch bare { statements := ["P31:Q5"], redlinkPages := ["Foo"], throttle := some 0 } =
        .ok ⟨[created, edited], []⟩ := by
    decide +kernel
  exact ⟨⟨_, _, read⟩, rfl, rfl⟩

theorem plain_notes {commands : List Command} : plain (notes ⟨commands, []⟩) = "" :=
  plain_of_unescaped (show Unescaped "" by decide)

def interrupted : Machine Rehearsal.ServerState :=
  (begin hasty [created, edited] { delay := 20 }).steps (setupFor hasty Rehearsal.server) 30 10

def stopped : Machine Rehearsal.ServerState :=
  Machine.steps (setupFor hasty Rehearsal.server) 100 10
    ⟨30, interrupted.run.cancel, interrupted.client⟩

theorem course_interrupted :
    (interrupted.step? (setupFor hasty Rehearsal.server) 30).isNone = true ∧
      interrupted.clock = 0 ∧ interrupted.outcome? = none ∧ stopped.outcome? = some .stopped ∧
      stopped.run.outcomes.any (fun told => !told.2.isOk) = false ∧
      summary (reportOf stopped) =
        "\nBatch stopped: 1/2 done, 0 failed\nCreated items:\n  Q101\n" := by
  decide +kernel

theorem watched_interrupted :
    watched ⟨bare, Rehearsal.server, some 30⟩ hasty ⟨[created, edited], []⟩ { delay := 20 } =
      ⟨stopped, stoppingNote⟩ := by
  obtain ⟨rests, clock, unended, ended, -, -⟩ := course_interrupted
  have found : untilInterrupt (setupFor hasty Rehearsal.server) 30
      (begin hasty [created, edited] { delay := 20 }) = interrupted :=
    Machine.runUntil_eq_steps (Option.isNone_iff_eq_none.mp rests)
  have goes : (untilInterrupt (setupFor hasty Rehearsal.server) 30
      (begin hasty [created, edited] { delay := 20 })).outcome? = none := by
    rw [found, unended]
  have cancelled : cancelledAt (setupFor hasty Rehearsal.server) 30
      (begin hasty [created, edited] { delay := 20 }) =
        ⟨30, interrupted.run.cancel, interrupted.client⟩ := by
    rw [cancelledAt, found, clock]
    rfl
  have watchable := (executes_creating Rehearsal.server (some 30)).watchable { delay := 20 }
    (by simp [hasty]) (by decide)
  have settled := (watchable.stops_cancelledAt goes).2.2
  have finish : (cancelledAt (setupFor hasty Rehearsal.server) 30
      (begin hasty [created, edited] { delay := 20 })).runToEnd (setupFor hasty Rehearsal.server) =
        stopped :=
    runToEnd_eq _ settled (cancelled ▸ Machine.steps_steps _ 100 10 _) ended
  rw [← finish]
  exact watch_of_goes _ goes

theorem reports_faithfully_interrupted :
    Executes ⟨bare, Rehearsal.server, some 30⟩ creating hasty ⟨[created, edited], []⟩ ∧
      (program ⟨bare, Rehearsal.server, some 30⟩ creating { delay := 20 }).1 =
        { output := stoppingNote ++
            "\nBatch stopped: 1/2 done, 0 failed\nCreated items:\n  Q101\n" } ∧
      Heeds (setupFor hasty Rehearsal.server) (some 30)
        (begin hasty [created, edited] { delay := 20 }) stopped := by
  have executes := executes_creating Rehearsal.server (some 30)
  obtain ⟨printed, -, heeds⟩ := reports_faithfully executes { delay := 20 }
    (by simp [hasty]) (by decide)
  obtain ⟨-, -, -, -, succeeded, last⟩ := course_interrupted
  rw [watched_interrupted] at printed heeds
  dsimp only at printed heeds
  refine ⟨executes, ?_, heeds⟩
  rw [printed, succeeded, last, plain_notes]
  rfl

/-! ## An item that is not listed -/

def answering (body : Http.Body) : Http.Server Unit where
  answer _ request state :=
    if request.params.lookup "action" = some "create_blank_item" then
      (⟨.ok ⟨200, .json (.obj [("error", .str "OK"), ("q", .str "Q101")])⟩, 0⟩, state)
    else (⟨.ok ⟨200, body⟩, 0⟩, state)

def proxy : Http.Url := ⟨"https", ⟨"", "tools.wmflabs.org", none⟩, "/widar/index.php"⟩

theorem reaches_proxy :
    Http.Url.read? hasty.editUrl = some proxy ∧ proxy.namesServer = true ∧
      (Http.queryOf (Wiki.requestOf hasty.endpoints (.createEntity none none)).params).length ≤
        Http.lengthLimit ∧
      (Http.queryOf (Wiki.requestOf hasty.endpoints (.setLabel "Q101"
        (Wiki.labelLanguage hasty.wiki) (Wiki.pageLabel "Foo"))).params).length ≤
          Http.lengthLimit ∧
      Wiki.replyOf (.ok ⟨200, .json (.obj [("error", .str "OK"), ("q", .str "Q101")])⟩)
        (.createEntity none none) = .ok "Q101" ∧
      Wiki.labelLanguage hasty.wiki = "en" ∧ Wiki.pageLabel "Foo" = "Foo" := by
  decide +kernel

section tooDeep

variable {body : Http.Body} {kind : String}

theorem perform_createEntity (now : Nat) :
    (setupFor hasty (answering body)).client.perform now (.createEntity none none) () =
      (⟨.ok "Q101", 0⟩, ()) := by
  obtain ⟨read, named, short, -, accepted, -⟩ := reaches_proxy
  have reaches := @Wiki.send_eq _ (answering body)
    (Wiki.requestOf hasty.endpoints (.createEntity none none)) _ read named short now ()
  have action : (Wiki.requestOf hasty.endpoints (.createEntity none none)).params.lookup "action" =
      some "create_blank_item" := rfl
  simp only [setupFor, Wiki.client, reaches]
  simp only [answering, action, if_true, accepted]

theorem perform_setLabel (tooDeep : body.document = .error (.tooDeep kind)) (now : Nat) :
    (setupFor hasty (answering body)).client.perform now
        (.setLabel "Q101" (Wiki.labelLanguage hasty.wiki) (Wiki.pageLabel "Foo")) () =
      (⟨.error (.fault (.tooDeep kind)), 0⟩, ()) := by
  obtain ⟨read, named, -, short, -⟩ := reaches_proxy
  generalize Wiki.labelLanguage hasty.wiki = language at short
  generalize Wiki.pageLabel "Foo" = label at short
  have reaches := @Wiki.send_eq _ (answering body)
    (Wiki.requestOf hasty.endpoints (.setLabel "Q101" language label)) _ read named short now ()
  have action : (Wiki.requestOf hasty.endpoints (.setLabel "Q101" language label)).params.lookup
      "action" = some "set_label" := rfl
  simp only [setupFor, Wiki.client, reaches]
  simp [answering, action, Wiki.replyOf_of_fault (Wiki.document_of_tooDeep tooDeep)]

theorem performance_created (tooDeep : body.document = .error (.tooDeep kind)) (now : Nat) :
    Run.performance (setupFor hasty (answering body)) now created () =
      ⟨.error (.fault (.tooDeep kind)),
        [⟨now, .createEntity none none⟩, ⟨now, .setLabel "Q101" "en" "Foo"⟩], now, ()⟩ := by
  obtain ⟨-, -, -, -, -, language, label⟩ := reaches_proxy
  have labelled := perform_setLabel tooDeep now
  have wiki : (setupFor hasty (answering body)).wiki = hasty.wiki := rfl
  rw [Run.performance, Execution.execution_of_create _ _ rfl, wiki]
  simp only [Execution.create, created, if_true, Plan.perform, perform_createEntity, labelled,
    Execution.afterLabel, Execution.failAt, Nat.add_zero, language, label]

def labelling : Machine Unit :=
  ⟨0, { (begin hasty [created, edited] ()).run with phase := .dispatching }, ()⟩

theorem step?_labelling (horizon : Nat) :
    (begin hasty [created, edited] ()).step? (setupFor hasty (answering body)) horizon =
      some labelling := by
  refine Machine.step?_eq_some_iff.mpr ⟨0, rfl, Nat.zero_le _, ?_⟩
  have representable : ¬ (pauseLimit ≤ (begin hasty [created, edited] ()).run.throttle ∨
      pauseLimit ≤ (setupFor hasty (answering body)).poll) := by
    rintro (long | long)
    · exact lt_pauseLimit (by decide) long
    · exact lt_pauseLimit (show 100 < _ by decide) long
  have phase : (begin hasty [created, edited] ()).run.phase = .created := rfl
  simp only [Run.step, phase, if_neg representable]
  rfl

theorem sends_created : labelling.Sends 0 created :=
  ⟨rfl, rfl, rfl⟩

theorem newId?_created : (labelling.exchanges (setupFor hasty (answering body)) created).findSome?
    Exchange.newId? = some "Q101" := by
  rw [Machine.exchanges, Run.exchanges, Execution.execution_of_create _ _ rfl]
  simp only [Execution.create, created, if_true, Plan.exchanges, labelling, perform_createEntity,
    List.findSome?_cons, Exchange.newId?]

def labelled (kind : String) : Machine Unit :=
  ⟨0, { labelling.run with
    commands := [{ created with status := .running }, edited]
    inFlight := [⟨0, some (.failure .remote (Fault.tooDeep kind).message ""), 0⟩]
    history := [.dispatched 0 0 "create_item_0" 0, .called 0 0 (.createEntity none none),
      .called 0 0 (.setLabel "Q101" "en" "Foo")] }, ()⟩

theorem sendOff_created (tooDeep : body.document = .error (.tooDeep kind)) :
    labelling.sendOff (setupFor hasty (answering body)) 0 created = labelled kind := by
  have performed := performance_created tooDeep 0
  simp only [Machine.sendOff, Run.dispatch, show labelling.clock = 0 from rfl,
    show labelling.client = () from rfl, performed]
  rfl

theorem steps_labelled (tooDeep : body.document = .error (.tooDeep kind)) :
    (begin hasty [created, edited] ()).Steps (setupFor hasty (answering body)) (labelled kind) := by
  rw [← sendOff_created tooDeep]
  exact .tail (.single ⟨0, step?_labelling 0⟩) ⟨0, sends_created.step? 0⟩

end tooDeep

def deep : Http.Body := .text (String.ofList (List.replicate 2000 '['))

theorem document_deep : deep.document = .error (.tooDeep "array") := by
  rw [deep, Http.Body.document]
  exact Json.readDocument_brackets (by simp [Json.nestingLimit])

def failed : Machine Unit := (labelled "array").steps (setupFor hasty (answering deep)) 0 20

theorem course_failed :
    failed.outcome? = some .completed ∧ failed.clock = 0 ∧
      failed.run.outcomes.any (fun told => !told.2.isOk) = true ∧
      summary (reportOf failed) = "\nBatch completed: 2/2 done, 2 failed\n" := by
  decide +kernel

theorem watched_failed :
    watched ⟨bare, answering deep, none⟩ hasty ⟨[created, edited], []⟩ () = ⟨failed, ""⟩ := by
  obtain ⟨ended, clock, -, -⟩ := course_failed
  have watchable := (executes_creating (answering deep) none).watchable () (by simp [hasty])
    (by decide)
  obtain ⟨-, rfl, -, -, -, -, settled⟩ := watchable.completes
  have last : (begin hasty [created, edited] ()).runToEnd (setupFor hasty (answering deep)) =
      failed :=
    runToEnd_eq _ settled
      ((steps_labelled document_deep).trans (Machine.steps_steps _ 0 20 _)) ended
  have shown : progressShown failed.run (sliceEnds failed.clock) = "" := by
    rw [clock]
    rfl
  rw [← shown, ← last]
  rfl

/-- An item is created, but the report does not list it, and nothing edits it. -/
theorem new_item_unlisted :
    Executes ⟨bare, answering deep, none⟩ creating hasty ⟨[created, edited], []⟩ ∧
      (begin hasty [created, edited] ()).Alone (setupFor hasty (answering deep)) labelling ∧
      labelling.Sends 0 created ∧
      (labelling.exchanges (setupFor hasty (answering deep)) created).findSome?
        Exchange.newId? = some "Q101" ∧
      (labelling.sendOff (setupFor hasty (answering deep)) 0 created).Alone
        (setupFor hasty (answering deep)) failed ∧
      (program ⟨bare, answering deep, none⟩ creating ()).1 =
        { output := "\nBatch completed: 2/2 done, 2 failed\n", ending := .exit 1 } := by
  have executes := executes_creating (answering deep) none
  have printed := executes.program_eq () (by simp [hasty]) (by decide)
  obtain ⟨-, -, fails, last⟩ := course_failed
  refine ⟨executes, .single ⟨.step 0 (step?_labelling 0), .inl ⟨0, step?_labelling 0⟩⟩,
    sends_created, newId?_created, ?_, ?_⟩
  · rw [sendOff_created document_deep]
    exact Machine.alone_steps _ 0 20 _
  · rw [printed, watched_failed]
    dsimp only
    rw [fails, last, plain_notes]
    rfl

end EditBatch.CommandLine

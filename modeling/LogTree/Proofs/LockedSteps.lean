import LogTree.Locks.Step
import LogTree.Proofs.LockedDeliveries

namespace LogTree

/-- A program comes to its end and leaves a session as an outcome has it. -/
def Program.Performs (program : Program Program.Result) (locked : Locked) (outcome : Outcome) :
    Prop :=
  ∃ after, program.run locked = .ok outcome.2 after ∧ after.session = outcome.1

namespace Program

@[simp] theorem run_answer (reply : Answer) (locked : Locked) :
    (answer reply).run locked = .ok (.ok reply) locked :=
  rfl

@[simp] theorem run_refuse (refusal : Refusal) (locked : Locked) :
    (refuse refusal).run locked = .ok (.error refusal) locked :=
  rfl

theorem performs_of_run {program : Program Result} {locked : Locked} {result : Result}
    {session : Session} (h : program.run locked = .ok result { locked with session }) :
    program.Performs locked (session, result) :=
  ⟨_, h, rfl⟩

theorem performs_bind {α : Type} {first : Program α} {next : α → Program Result}
    {locked after : Locked} {value : α} {outcome : Outcome}
    (h : first.run locked = .ok value after) (hnext : (next value).Performs after outcome) :
    (first >>= next).Performs locked outcome := by
  obtain ⟨last, hrun, hlast⟩ := hnext
  exact ⟨last, by rw [EStateM.run_bind, h]; exact hrun, hlast⟩

theorem performs_configured (key : String) (config : Config) (locked : Locked) :
    (configured key config).Performs locked (locked.session.configure key config) :=
  performs_of_run (by simp [configured])

theorem performs_stepRegistry (key : String) (command : RegistryCommand) (locked : Locked) :
    (stepRegistry key command).Performs locked (locked.session.stepRegistry key command) := by
  cases command with
  | names => exact performs_of_run (by simp [stepRegistry])
  | contains name => exact performs_of_run (by simp [stepRegistry])
  | chain name => exact performs_of_run (by simp [stepRegistry])
  | same name other =>
      exact performs_of_run (by simp [stepRegistry])
  | disable level => exact performs_of_run (by simp [stepRegistry])
  | isDisabled level => exact performs_of_run (by simp [stepRegistry])
  | apply config => exact performs_configured key config locked
  | configure directives =>
      rw [stepRegistry, Session.stepRegistry]
      cases Config.parse directives with
      | error e => exact performs_of_run (run_refuse _ locked)
      | ok config => exact performs_configured key config locked
  | configureVerbosity name verbosity => exact performs_configured key _ locked
  | installDefaultLevel name =>
      exact performs_bind (run_installDefaultLevel key name locked) ⟨_, rfl, rfl⟩
  | classLogger cls => exact performs_of_run (by simp [stepRegistry])

@[simp] theorem run_holdingReport (holding : Owned Holding) (locked : Locked) :
    (holdingReport holding).run locked = .ok (locked.session.holdingReport holding) locked := by
  simp [holdingReport, Session.holdingReport]

@[simp] theorem holdingReport_setHolding (session : Session) (key : String)
    (held holding : Owned Holding) :
    (session.setHolding key held).holdingReport holding = session.holdingReport holding :=
  rfl

theorem performs_hold (key : String) (holding : Owned Holding) (locked : Locked) :
    (hold key holding).Performs locked (locked.session.hold key holding) :=
  performs_of_run (by simp [hold])

@[simp] theorem run_locate (address : Address) (locked : Locked) :
    (locate address).run locked =
      .ok (locked.session.locate address).2
        { locked with session := (locked.session.locate address).1 } := by
  simp [locate, Session.locate]

theorem performs_onHandler (key : String) {command : Handler → Program Result} {locked : Locked}
    {outcome : Handler → Outcome}
    (h : ∀ handler, (command handler).Performs locked (outcome handler)) :
    (onHandler key command).Performs locked
      (match locked.session.handlers.get? key with
        | none => locked.session.refuse .unknown
        | some handler => outcome handler) := by
  refine performs_bind (run_session locked) ?_
  cases locked.session.handlers.get? key with
  | none => exact performs_of_run (run_refuse _ locked)
  | some handler => exact h handler

theorem performs_stepLogger {key : String} {locked : Locked} (h : locked.session.Uses key)
    (id : LoggerId) (command : LoggerCommand) :
    (stepLogger key id command).Performs locked
      (locked.session.stepLogger key id command) := by
  cases command with
  | report => exact performs_of_run (by simp [stepLogger])
  | describe => exact performs_of_run (by simp [stepLogger])
  | setLevel level => exact performs_of_run (by simp [stepLogger])
  | setPropagate propagate => exact performs_of_run (by simp [stepLogger])
  | attach handlerKey =>
      rw [stepLogger, Session.stepLogger]
      refine performs_onHandler handlerKey fun handler => ?_
      exact performs_bind (run_attach h id handler) (performs_of_run (by simp [Registry.attach]))
  | detach handlerKey =>
      rw [stepLogger, Session.stepLogger]
      refine performs_onHandler handlerKey fun handler => ?_
      exact performs_bind (run_detach key id handler.id locked)
        (performs_of_run (by simp [Registry.detach]))
  | offer handlerKey fails =>
      rw [stepLogger, Session.stepLogger]
      refine performs_onHandler handlerKey fun handler => ?_
      exact performs_bind (run_offer h id _) (performs_of_run (by simp [Registry.attachIfEmpty]))
  | adapt holdingKey echo => exact performs_hold holdingKey _ locked
  | keep holdingKey => exact performs_hold holdingKey _ locked

theorem run_resolve (target : Target) (locked : Locked) :
    (resolve target).run locked =
      .ok (locked.session.resolve target).2
        { locked with session := (locked.session.resolve target).1 } := by
  cases target with
  | object key =>
      rw [resolve, Session.resolve]
      cases hobject : locked.session.objects.get? key <;> simp [hobject]
  | holding key =>
      rw [resolve, Session.resolve]
      cases hholding : locked.session.holdings.get? key <;> simp [hholding]
  | logger address =>
      rw [resolve, Session.resolve]
      simp only [EStateM.run_bind, run_locate]
      rcases locked.session.locate address with ⟨located, _ | id⟩ <;> rfl

theorem run_log (outlet : Owned Outlet) (submission : Submission) (message : Message)
    (thread : Option String) (locked : Locked) :
    let delivery := locked.session.submit outlet submission
      { message, thread, moment := locked.session.moment }
    ∃ poisoned, (stepOutlet outlet (.log submission message thread)).run locked =
      .ok (.ok (.logged delivery.renderings delivery.aborted))
        (locked.delivered delivery poisoned) := by
  intro delivery
  obtain ⟨poisoned, hsubmit⟩ : ∃ poisoned, (submit outlet submission
      { message, thread, moment := locked.session.moment }).run
        { locked with invoked := [], renderings := 0 } =
          ended delivery.aborted () (locked.delivered delivery poisoned) :=
    run_submit rfl rfl
  refine ⟨poisoned, ?_⟩
  simp only [stepOutlet, EStateM.run_bind, EStateM.run_modify, run_session, run_attempt, hsubmit]
  cases delivery.aborted <;> rfl

theorem performs_stepOutlet (outlet : Owned Outlet) (command : TargetCommand) (locked : Locked) :
    (stepOutlet outlet command).Performs locked
      (locked.session.stepOutlet outlet command) := by
  cases command with
  | effectiveLevel => exact performs_of_run (by simp [stepOutlet])
  | areEnabled levels => exact performs_of_run (by simp [stepOutlet])
  | log submission message thread =>
      obtain ⟨poisoned, hlog⟩ := run_log outlet submission message thread locked
      exact ⟨_, hlog, rfl⟩

theorem performs_stepHandler (key : String) (command : HandlerCommand) (locked : Locked) :
    (stepHandler key command).Performs locked (locked.session.stepHandler key command) := by
  cases command with
  | make threshold destination =>
      rw [stepHandler, Session.stepHandler]
      refine performs_bind (run_session locked) ?_
      split
      · exact performs_of_run (run_refuse _ locked)
      · exact performs_of_run (by simp)
  | drain =>
      rw [stepHandler, Session.stepHandler]
      refine performs_bind (run_session locked) ?_
      generalize (locked.session.handlers.get? key).map Handler.destination = found
      rcases found with _ | destination
      · exact performs_of_run (run_refuse _ locked)
      · cases destination with
        | journal journal => exact performs_of_run (by simp [Cell.records, Outputs.drain])
        | _ => exact performs_of_run (run_refuse _ locked)

theorem performs_stepBuffer (key : String) (command : BufferCommand) (locked : Locked) :
    (stepBuffer key command).Performs locked (locked.session.stepBuffer key command) := by
  cases command with
  | write octets => exact performs_of_run (by simp [stepBuffer])
  | clear => exact performs_of_run (by simp [stepBuffer, Cell.octets, Outputs.clear])

@[simp] theorem run_objectReport (object : Owned Instance) (locked : Locked) :
    (objectReport object).run locked = .ok (locked.session.objectReport object) locked := by
  simp [objectReport, Session.objectReport]

@[simp] theorem objectReport_setObject (session : Session) (key : String)
    (held object : Owned Instance) :
    (session.setObject key held).objectReport object = session.objectReport object :=
  rfl

theorem performs_holdObject (key : String) (object : Owned Instance) (locked : Locked) :
    (holdObject key object).Performs locked (locked.session.holdObject key object) :=
  performs_of_run (by simp [holdObject])

theorem performs_onObject {key : String} {command : Owned Instance → Program Result}
    {locked : Locked} {outcome : Owned Instance → Outcome}
    (h : ∀ object, (command object).Performs locked (outcome object)) :
    (onObject key command).Performs locked (locked.session.onObject key outcome) := by
  rw [Session.onObject]
  refine performs_bind (run_session locked) ?_
  cases locked.session.objects.get? key with
  | none => exact performs_of_run (run_refuse _ locked)
  | some object => exact h object

theorem performs_stepObject (key : String) (command : ObjectCommand) (locked : Locked) :
    (stepObject key command).Performs locked (locked.session.stepObject key command) := by
  cases command with
  | make registryKey cls label stateLabel echo =>
      refine performs_bind (run_classLogger registryKey cls locked) ?_
      refine performs_bind (run_build registryKey _ echo .standard _) ?_
      simp only [Session.registry_setRegistry_self, Session.setRegistry_setRegistry]
      exact performs_holdObject key _ _
  | copy source => exact performs_onObject fun object => performs_holdObject key _ locked
  | report =>
      exact performs_onObject fun object => performs_of_run (by simp)
  | relabel label => exact performs_onObject fun object => performs_holdObject key _ locked
  | writeEcho echo =>
      refine performs_onObject fun object => ?_
      refine performs_bind (run_build object.registry _ echo .standard locked) ?_
      exact performs_holdObject key _ _
  | sameLogger other =>
      exact performs_onObject fun object => performs_onObject fun another =>
        performs_of_run (run_answer _ locked)

theorem performs_buildHolding (key registryKey name : String) (echo : Echo)
    (handler : Option Handler) (locked : Locked) :
    (buildHolding key registryKey name echo handler).Performs locked
      (locked.session.buildHolding key registryKey name echo handler) := by
  refine performs_bind (run_build registryKey name echo (handler.getD .standard) locked) ?_
  cases handler with
  | none => exact performs_of_run (by simp [Registry.build])
  | some handler => exact performs_of_run (by simp)

theorem performs_stepHolding (key : String) (command : HoldingCommand) (locked : Locked) :
    (stepHolding key command).Performs locked (locked.session.stepHolding key command) := by
  cases command with
  | build registryKey name echo handlerKey =>
      cases handlerKey with
      | none => exact performs_buildHolding key registryKey name echo none locked
      | some handlerKey =>
          rw [Session.stepHolding]
          exact performs_onHandler handlerKey fun handler =>
            performs_buildHolding key registryKey name echo (some handler) locked
  | toOutlet =>
      rw [Session.stepHolding]
      refine performs_bind (run_session locked) ?_
      cases locked.session.holdings.get? key with
      | none => exact performs_of_run (run_refuse _ locked)
      | some holding => exact performs_hold key _ locked
  | report =>
      rw [Session.stepHolding]
      refine performs_bind (run_session locked) ?_
      cases locked.session.holdings.get? key with
      | none => exact performs_of_run (run_refuse _ locked)
      | some holding => exact performs_of_run (by simp)

theorem performs_stepClasses (command : ClassCommand) (locked : Locked) :
    (stepClasses command).Performs locked (locked.session.stepClasses command) := by
  cases command with
  | isLogged typeName => exact performs_of_run (by simp [stepClasses, Cell.classes])
  | logged => exact performs_of_run (by simp [stepClasses, Cell.classes])

theorem uses_locate (session : Session) (address : Address) :
    (session.locate address).1.Uses address.registry :=
  session.uses_setRegistry address.registry _

/-- A command does the same lock by lock as at one go. It comes to its end even if a call in it is
aborted. -/
theorem performs_step (command : Command) (locked : Locked) :
    (step command).Performs locked (locked.session.step command) := by
  cases command with
  | registry key command => exact performs_stepRegistry key command locked
  | logger address command =>
      refine performs_bind (run_locate address locked) ?_
      have huses := uses_locate locked.session address
      rw [Session.step]
      generalize locked.session.locate address = found at huses ⊢
      rcases found with ⟨located, _ | id⟩
      · exact performs_of_run (run_refuse _ _)
      · exact performs_stepLogger huses id command
  | target target command =>
      refine performs_bind (run_resolve target locked) ?_
      rw [Session.step]
      rcases locked.session.resolve target with ⟨resolved, refusal | outlet⟩
      · exact performs_of_run (run_refuse _ _)
      · exact performs_stepOutlet outlet command _
  | handler key command => exact performs_stepHandler key command locked
  | buffer key command => exact performs_stepBuffer key command locked
  | object key command => exact performs_stepObject key command locked
  | holding key command => exact performs_stepHolding key command locked
  | classes command => exact performs_stepClasses command locked

theorem run_mapM {α β : Type} (program : α → Program β) (f : α → β) {locked : Locked}
    {values : List α} (h : ∀ value ∈ values, (program value).run locked = .ok (f value) locked) :
    (values.mapM program).run locked = .ok (values.map f) locked := by
  induction values with
  | nil => rfl
  | cons value rest ih =>
      obtain ⟨hvalue, hrest⟩ := List.forall_mem_cons.mp h
      simp [List.mapM_cons, hvalue, ih hrest]

@[simp] theorem run_size? (handler : Handler) (locked : Locked) :
    (size? handler).run locked = .ok (locked.session.size? handler) locked := by
  rw [size?, Session.size?]
  cases handler.destination <;> simp [Cell.records]

@[simp] theorem run_contents (key : String) (locked : Locked) :
    (contents key).run locked = .ok (locked.session.outputs.buffer key).contents locked := by
  simp [contents, Cell.octets]

theorem contents_of_mem_entries {outputs : Outputs} {entry : String × Stream}
    (h : entry ∈ outputs.buffers.entries) :
    (outputs.buffer entry.1).contents = entry.2.contents := by
  rw [Outputs.buffer, NameMap.getD, NameMap.get?_eq_some_iff.mpr h]
  rfl

theorem run_changes (before : Session) (locked : Locked) :
    (changes before).run locked = .ok (Session.changes before locked.session) locked := by
  have hsize : ∀ entry ∈ locked.session.handlers.entries,
      (do return (entry, ← size? entry.2) : Program _).run locked =
        .ok (entry, locked.session.size? entry.2) locked := fun entry _ => by simp
  have hcontents : ∀ entry ∈ locked.session.outputs.buffers.entries,
      (do return (entry.1, ← contents entry.1) : Program _).run locked =
        .ok (entry.1, entry.2.contents) locked := fun entry hentry => by
    simp [contents_of_mem_entries hentry]
  have hsizes := run_mapM _ _ hsize
  have hbuffers := run_mapM _ _ hcontents
  simp only [changes, EStateM.run_bind, run_session, hsizes, hbuffers, EStateM.run_pure,
    Session.changes, List.filterMap_map, ← List.filterMap_eq_filter]
  congr 3
  funext entry
  by_cases h : (before.outputs.buffer entry.1).contents = entry.2.contents <;>
    simp [Option.guard, h]

end Program

namespace Session

/-- The results of some commands, each with what has become visible. -/
def watch (session : Session) : List Command → List (Except Refusal Answer × Changes)
  | [] => []
  | command :: rest =>
      ((session.step command).2, session.changes (session.step command).1) ::
        (session.step command).1.watch rest

end Session

namespace Program

theorem run_carryOut (commands : List Command) (locked : Locked) :
    ∃ after, (carryOut commands).run locked = .ok (locked.session.watch commands) after ∧
      after.session = (locked.session.run commands).1 := by
  induction commands generalizing locked with
  | nil => exact ⟨locked, rfl, rfl⟩
  | cons command rest ih =>
      obtain ⟨next, hstep, hnext⟩ := performs_step command locked
      obtain ⟨last, hrest, hlast⟩ := ih next
      refine ⟨last, ?_, ?_⟩
      · simp [carryOut, hstep, run_changes, hrest, hnext, Session.watch]
      · rw [hlast, hnext, Session.run_cons_fst]

end Program

end LogTree

import LogTree.Proofs.HandlerExchange
import LogTree.Proofs.SessionFrames
import LogTree.Proofs.StandardHandlers

/-!
What a command looks at: the registry that it goes through, and the handler, the objects and the
outlets that it names. In two sessions that agree there, up to the destinations of handlers, it has
the same answer and does the same.
-/

namespace LogTree

namespace Command

/-- The handler that a command attaches, detaches or offers. -/
def handler? : Command → Option String
  | .logger _ (.attach key) | .logger _ (.detach key) | .logger _ (.offer key _) => some key
  | .holding _ (.build _ _ _ key) => key
  | _ => none

def objects : Command → List String
  | .target (.object key) _ | .object key .report | .object key (.relabel _) => [key]
  | .object key (.writeEcho _) => [key]
  | .object _ (.copy source) => [source]
  | .object key (.sameLogger other) => [key, other]
  | _ => []

def holding? : Command → Option String
  | .target (.holding key) _ | .holding key .toOutlet | .holding key .report => some key
  | _ => none

end Command

theorem LoggerCommand.handler?_of_offered? {handlers : NameMap Handler} {address : Address}
    {command : LoggerCommand} {handler : Handler}
    (h : (command.adjustment handlers).offered? = some handler) :
    ∃ key, (Command.logger address command).handler? = some key ∧
      handlers.get? key = some handler := by
  cases command with
  | attach key =>
      rw [adjustment] at h
      cases hheld : handlers.get? key with
      | none =>
          rw [hheld] at h
          cases h
      | some held =>
          rw [hheld] at h
          exact ⟨key, rfl, hheld.trans h⟩
  | offer key fails =>
      rw [adjustment] at h
      cases hheld : handlers.get? key with
      | none =>
          rw [hheld] at h
          cases h
      | some held =>
          rw [hheld] at h
          cases fails with
          | true => cases h
          | false => exact ⟨key, rfl, hheld.trans h⟩
  | detach key =>
      rw [adjustment] at h
      split at h <;> cases h
  | _ => cases h

namespace Session

def homeOf (session : Session) (key : String) : Option String :=
  (session.objects.get? key).map Owned.registry

/-- The registry that a command goes through, if it goes through one alone. -/
def place? (session : Session) : Command → Option String
  | .registry key _ => some key
  | .logger address _ | .target (.logger address) _ => some address.registry
  | .target (.object key) _ | .object key .report | .object key (.relabel _) => session.homeOf key
  | .object key (.writeEcho _) => session.homeOf key
  | .object _ (.make key _ _ _ _) | .holding _ (.build key _ _ _) => some key
  | .object _ (.copy source) => session.homeOf source
  | .object key (.sameLogger other) =>
      if session.homeOf key = session.homeOf other then session.homeOf key else none
  | .target (.holding key) _ | .holding key .toOutlet | .holding key .report =>
      (session.holdings.get? key).map Owned.registry
  | .handler _ _ | .buffer _ _ | .classes _ => none

theorem place?_of_effect? {session : Session} {command : Command} {place : String}
    {operations : List Registry.Operation}
    (h : session.effect? command = some (place, operations)) :
    session.place? command = some place := by
  unfold effect? at h
  split at h
  · exact congrArg some (Prod.mk.inj (Option.some.inj h)).1
  · exact congrArg some (Prod.mk.inj (Option.some.inj h)).1
  · exact congrArg some (Prod.mk.inj (Option.some.inj h)).1
  · exact congrArg some (Prod.mk.inj (Option.some.inj h)).1
  · obtain ⟨object, hobject, heq⟩ := Option.map_eq_some_iff.mp h
    rw [place?, homeOf, hobject]
    exact congrArg some (Prod.mk.inj heq).1
  · exact congrArg some (Prod.mk.inj (Option.some.inj h)).1
  · obtain ⟨handler, -, heq⟩ := Option.map_eq_some_iff.mp h
    exact congrArg some (Prod.mk.inj heq).1
  all_goals cases h

/-- A registry that a command does not go through stays as it is. -/
theorem registry_step_of_place?_ne {session : Session} {command : Command} {place : String}
    (h : session.place? command ≠ some place) :
    (session.step command).1.registry place = session.registry place := by
  rw [registry_step, operations]
  split
  · rfl
  · next addressed operations heffect =>
      have hne : addressed ≠ place := by
        rintro rfl
        exact h (place?_of_effect? heffect)
      rw [if_neg hne]
      rfl

theorem handler_of_build? {session : Session} {command : Command} {build : BuildRequest}
    (h : session.build? command = some build) :
    build.handler = .standard ∨
      ∃ key, command.handler? = some key ∧ session.handlers.get? key = some build.handler := by
  unfold build? at h
  split at h
  · obtain rfl := Option.some.inj h
    exact .inl rfl
  · obtain ⟨object, -, rfl⟩ := Option.map_eq_some_iff.mp h
    exact .inl rfl
  · obtain rfl := Option.some.inj h
    exact .inl rfl
  · obtain ⟨handler, hhandler, rfl⟩ := Option.map_eq_some_iff.mp h
    exact .inr ⟨_, rfl, hhandler⟩
  · cases h

theorem handler_of_offered? {session : Session} {command : Command} {place : String}
    {operation : Registry.Operation} (hoperation : operation ∈ session.operations place command)
    {handler : Handler} (hoffered : operation.offered? = some handler) :
    handler = .standard ∨
      ∃ key, command.handler? = some key ∧ session.handlers.get? key = some handler := by
  rcases of_mem_operations hoperation with
    ⟨inner, -, hinner⟩ | ⟨address, inner, rfl, -, rfl⟩ | ⟨name, generations, rfl⟩ |
      ⟨build, hbuild, rfl⟩
  · rw [RegistryCommand.offered?_eq_none hinner] at hoffered
    cases hoffered
  · exact .inr (LoggerCommand.handler?_of_offered? hoffered)
  · cases hoffered
  · have hhandler : build.handler = handler := by
      rw [Registry.building, Registry.Operation.offered?] at hoffered
      split at hoffered
      · exact Option.some.inj hoffered
      · cases hoffered
    rw [← hhandler]
    exact handler_of_build? hbuild

theorem mem_handlers_step {session : Session} {command : Command} {place : String}
    {id : LoggerId} {handler : Handler}
    (h : handler ∈ ((session.step command).1.registry place).handlers id) :
    handler ∈ (session.registry place).handlers id ∨
      session.place? command = some place ∧ (handler = .standard ∨
        ∃ key, command.handler? = some key ∧ session.handlers.get? key = some handler) := by
  rw [registry_step] at h
  rcases Registry.mem_handlers_performAll h with hheld | ⟨operation, hoperation, hoffered⟩
  · exact .inl hheld
  · obtain ⟨operations, heffect, -⟩ := mem_operations hoperation
    exact .inr ⟨place?_of_effect? heffect, handler_of_offered? hoperation hoffered⟩

/-- What a command looks at is the same in two sessions, but for the destinations of handlers. -/
structure Sees (change : HandlerChange) (command : Command) (session other : Session) : Prop where
  registry_eq : ∀ place, session.place? command = some place →
    other.registry place = (session.registry place).exchange change
  handler_eq : ∀ key, command.handler? = some key →
    other.handlers.get? key = (session.handlers.get? key).map change.apply
  object_eq : ∀ key ∈ command.objects, other.objects.get? key = session.objects.get? key
  holding_eq : ∀ key, command.holding? = some key →
    other.holdings.get? key = session.holdings.get? key

theorem locate_exchange {session other : Session} {change : HandlerChange} {address : Address}
    (h : other.registry address.registry =
      (session.registry address.registry).exchange change) :
    (other.locate address).2 = (session.locate address).2 := by
  simp only [locate, h, Registry.registry_obtain_exchange, Registry.id_obtain_exchange,
    Registry.climb?_exchange]

theorem registry_locate_exchange {session other : Session} {change : HandlerChange}
    {address : Address} (h : other.registry address.registry =
      (session.registry address.registry).exchange change) :
    (other.locate address).1.registry address.registry =
      ((session.locate address).1.registry address.registry).exchange change := by
  rw [registry_locate, registry_locate, if_pos rfl, if_pos rfl, h,
    Registry.registry_obtain_exchange]

theorem adjustment_exchange {session other : Session} {change : HandlerChange} {address : Address}
    {command : LoggerCommand}
    (h : ∀ key, (Command.logger address command).handler? = some key →
      other.handlers.get? key = (session.handlers.get? key).map change.apply) :
    command.adjustment other.handlers =
      (command.adjustment session.handlers).exchange change := by
  cases command with
  | attach key =>
      rw [LoggerCommand.adjustment, LoggerCommand.adjustment, h key rfl]
      cases session.handlers.get? key <;> rfl
  | detach key =>
      rw [LoggerCommand.adjustment, LoggerCommand.adjustment, h key rfl]
      cases session.handlers.get? key <;> rfl
  | offer key fails =>
      rw [LoggerCommand.adjustment, LoggerCommand.adjustment, h key rfl]
      cases session.handlers.get? key with
      | none => rfl
      | some handler => cases fails <;> rfl
  | _ => rfl

section

variable {change : HandlerChange} {command : Command} {session other : Session}
  (h : Sees change command session other)

include h

theorem Sees.effect?_eq :
    other.effect? command = (session.effect? command).map fun effect =>
      (effect.1, effect.2.map (Registry.Operation.exchange change)) := by
  have hbuilding : ∀ (name : String) (echo : Echo) (handler : Handler),
      (Registry.building name echo (some handler)).exchange change =
        Registry.building name echo (some (change.apply handler)) := by
    intro name echo handler
    cases echo <;> rfl
  have hstandard : ∀ (name : String) (echo : Echo),
      (Registry.building name echo (some .standard)).exchange change =
        Registry.building name echo (some .standard) := by
    intro name echo
    rw [hbuilding, change.apply_standard]
  cases command with
  | registry key command =>
      simp only [effect?, Option.map_some, Option.some.injEq, Prod.mk.injEq, true_and]
      cases command with
      | apply config => exact (Registry.map_exchange_configuring config change).symm
      | configure directives =>
          rw [RegistryCommand.operations]
          split
          · rfl
          · exact (Registry.map_exchange_configuring _ change).symm
      | configureVerbosity name verbosity =>
          exact (Registry.map_exchange_configuring _ change).symm
      | _ => rfl
  | logger address command =>
      simp only [effect?, Option.map_some, List.map_cons, List.map_nil,
        Registry.Operation.exchange, adjustment_exchange h.handler_eq]
  | target target command => cases target <;> rfl
  | object key command =>
      cases command with
      | make registryKey cls label stateLabel echo =>
          simp only [effect?, Option.map_some, List.map_cons, List.map_nil, hstandard]
          rfl
      | writeEcho echo =>
          simp only [effect?, h.object_eq key List.mem_cons_self, Option.map_map]
          congr 1
          funext object
          simp only [Function.comp_apply, List.map_cons, List.map_nil, hstandard]
      | _ => rfl
  | holding key command =>
      cases command with
      | build registryKey name echo handlerKey =>
          cases handlerKey with
          | none => simp only [effect?, Option.map_some, List.map_cons, List.map_nil, hstandard]
          | some handlerKey =>
              simp only [effect?, h.handler_eq handlerKey rfl, Option.map_map]
              congr 1
              funext handler
              simp only [Function.comp_apply, List.map_cons, List.map_nil, hbuilding]
      | _ => rfl
  | _ => rfl

theorem Sees.operations_eq (key : String) :
    other.operations key command =
      (session.operations key command).map (Registry.Operation.exchange change) := by
  rw [operations, operations, h.effect?_eq]
  cases session.effect? command with
  | none => rfl
  | some effect =>
      exact (apply_ite (List.map (Registry.Operation.exchange change)) _ effect.2 []).symm

theorem Sees.placed?_eq : other.placed? command = session.placed? command := by
  cases command with
  | object key command =>
      cases command with
      | make registryKey cls label stateLabel echo =>
          simp only [placed?, h.registry_eq registryKey rfl, Registry.makeState_exchange]
      | copy source => simp only [placed?, h.object_eq source List.mem_cons_self]
      | relabel label => simp only [placed?, h.object_eq key List.mem_cons_self]
      | writeEcho echo =>
          have hobject := h.object_eq key List.mem_cons_self
          simp only [placed?, hobject]
          cases hheld : session.objects.get? key with
          | none => rfl
          | some object =>
              have hplace : session.place? (.object key (.writeEcho echo)) =
                  some object.registry := by
                rw [place?, homeOf, hheld]
                rfl
              simp only [Option.map_some, h.registry_eq _ hplace, Registry.writeEcho_exchange]
      | _ => rfl
  | _ => rfl

theorem Sees.held?_eq : other.held? command = session.held? command := by
  cases command with
  | logger address command =>
      have hlocate := locate_exchange (h.registry_eq address.registry rfl)
      cases command with
      | adapt key echo => simp only [held?, hlocate]
      | keep key => simp only [held?, hlocate]
      | _ => rfl
  | holding key command =>
      cases command with
      | build registryKey name echo handlerKey =>
          have hregistry := h.registry_eq registryKey rfl
          cases handlerKey with
          | none => simp only [held?, hregistry, Registry.build_exchange]
          | some handlerKey =>
              simp only [held?, hregistry, h.handler_eq handlerKey rfl, Option.map_map]
              congr 1
              funext handler
              simp only [Function.comp_apply, Registry.buildWith_exchange]
      | toOutlet => simp only [held?, h.holding_eq key rfl]
      | report => rfl
  | _ => rfl

theorem Sees.registry_step {place : String} (hplace : session.place? command = some place) :
    (other.step command).1.registry place =
      ((session.step command).1.registry place).exchange change := by
  rw [Session.registry_step, Session.registry_step, h.operations_eq, h.registry_eq place hplace,
    Registry.performAll_exchange]

end

section

variable {session other : Session} {change : HandlerChange}

theorem answer_stepRegistry {key : String}
    (h : other.registry key = (session.registry key).exchange change)
    (command : RegistryCommand) :
    (other.stepRegistry key command).2 = (session.stepRegistry key command).2 := by
  have hconfigure : ∀ config,
      (other.configure key config).2 = (session.configure key config).2 := by
    intro config
    simp only [configure, answer, h, Registry.configure_exchange, Registry.names_exchange]
  cases command with
  | names => simp only [stepRegistry, answer, h, Registry.names_exchange]
  | contains name => simp only [stepRegistry, answer, h, Registry.contains_exchange]
  | chain name =>
      simp only [stepRegistry, answer, h, Registry.registry_obtain_exchange,
        Registry.id_obtain_exchange, Registry.ancestry_exchange,
        funext (Registry.name_exchange _ change)]
  | same name second => simp only [stepRegistry, answer, h, Registry.sameLogger_exchange]
  | disable level => rfl
  | isDisabled level => simp only [stepRegistry, answer, h, Registry.isDisabled_exchange]
  | apply config => exact hconfigure config
  | configure directives =>
      rw [stepRegistry, stepRegistry]
      split
      · rfl
      · exact hconfigure _
  | configureVerbosity name verbosity => exact hconfigure _
  | installDefaultLevel name =>
      simp only [stepRegistry, answer, h, Registry.installDefaultLevel_exchange]
  | classLogger cls =>
      simp only [stepRegistry, answer, h, Registry.classLogger, Registry.registry_obtain_exchange,
        Registry.id_obtain_exchange, Registry.name_exchange, Registry.level_exchange,
        Registry.effectiveLevel_exchange, Registry.isShared_exchange]

theorem holdingReport_exchange (change : HandlerChange) {holding : Owned Holding}
    (h : other.registry holding.registry =
      (session.registry holding.registry).exchange change) :
    other.holdingReport holding = session.holdingReport holding := by
  unfold holdingReport
  simp only [h, Registry.name_exchange, Outlet.effectiveLevel_exchange,
    Registry.handlerIds_exchange, Adapter.describe_exchange, Outlet.describe_exchange]

theorem objectReport_exchange (change : HandlerChange) {object : Owned Instance}
    (h : other.registry object.registry = (session.registry object.registry).exchange change) :
    other.objectReport object = session.objectReport object := by
  simp only [objectReport, h, Registry.name_exchange, Outlet.effectiveLevel_exchange,
    Outlet.isEnabledFor_exchange, Registry.isShared_exchange, Registry.handlerIds_exchange]

theorem answer_stepLogger {address : Address} {command : LoggerCommand} {id : LoggerId}
    (h : other.registry address.registry =
      (session.registry address.registry).exchange change)
    (hhandler : ∀ key, (Command.logger address command).handler? = some key →
      other.handlers.get? key = (session.handlers.get? key).map change.apply) :
    (other.stepLogger address.registry id command).2 =
      (session.stepLogger address.registry id command).2 := by
  have hhold : ∀ holding : Owned Holding, other.registry holding.registry =
      (session.registry holding.registry).exchange change →
      (Except.ok (.holding (other.holdingReport holding)) : Except Refusal Answer) =
        .ok (.holding (session.holdingReport holding)) :=
    fun _ hregistry => by rw [holdingReport_exchange change hregistry]
  cases command with
  | report => simp only [stepLogger, answer, h, Registry.report_exchange]
  | describe => simp only [stepLogger, answer, h, Registry.describe_exchange]
  | setLevel level =>
      simp only [stepLogger, answer, h, Registry.setLevel_exchange, Registry.level_exchange,
        Registry.effectiveLevel_exchange]
  | setPropagate propagate =>
      simp only [stepLogger, answer, h, Registry.setPropagate_exchange, Registry.propagate_exchange,
        Registry.hasHandlers_exchange]
  | attach key =>
      simp only [stepLogger, hhandler key rfl]
      cases session.handlers.get? key with
      | none => rfl
      | some handler =>
          simp only [Option.map_some, answer, h, Registry.attach_exchange,
            Registry.handlerIds_exchange]
  | detach key =>
      simp only [stepLogger, hhandler key rfl]
      cases session.handlers.get? key with
      | none => rfl
      | some handler =>
          have hid : (change.apply handler).id = handler.id := rfl
          simp only [Option.map_some, answer, h, hid, Registry.detach_exchange,
            Registry.handlerIds_exchange]
  | offer key fails =>
      simp only [stepLogger, hhandler key rfl]
      cases session.handlers.get? key with
      | none => rfl
      | some handler =>
          have hoffer := (session.registry address.registry).attachIfEmpty_exchange change id
            (if fails then none else some handler)
          rw [apply_ite (Option.map change.apply), Option.map_none, Option.map_some] at hoffer
          simp only [Option.map_some, answer, h, hoffer, Registry.handlerIds_exchange]
  | adapt key echo =>
      exact hhold { registry := address.registry, value := .adapter { echo, logger := id } } h
  | keep key => exact hhold { registry := address.registry, value := .outlet (.direct id) } h

theorem answer_stepOutlet {target : Target} {outlet : Owned Outlet} {command : TargetCommand}
    (h : other.registry outlet.registry = (session.registry outlet.registry).exchange change)
    (hquiet : (Command.target target command).touchesOutputs = false) :
    (other.stepOutlet outlet command).2 = (session.stepOutlet outlet command).2 := by
  cases command with
  | effectiveLevel => simp only [stepOutlet, answer, h, Outlet.effectiveLevel_exchange]
  | areEnabled levels =>
      simp only [stepOutlet, answer, h, funext (Outlet.isEnabledFor_exchange _ change outlet.value)]
  | log submission message thread => cases hquiet

end

section

variable {change : HandlerChange} {session other : Session}

theorem Sees.resolve {target : Target} {command : TargetCommand}
    (h : Sees change (.target target command) session other) :
    (other.resolve target).2 = (session.resolve target).2 ∧
      ∀ outlet, (session.resolve target).2 = .ok outlet →
        session.place? (.target target command) = some outlet.registry ∧
          (other.resolve target).1.registry outlet.registry =
            ((session.resolve target).1.registry outlet.registry).exchange change := by
  cases target with
  | object key =>
      have hobject := h.object_eq key List.mem_cons_self
      rw [Session.resolve, Session.resolve, hobject]
      cases hheld : session.objects.get? key with
      | none => exact ⟨rfl, fun _ hnone => by cases hnone⟩
      | some object =>
          have hplace : session.place? (.target (.object key) command) = some object.registry := by
            rw [place?, homeOf, hheld]
            rfl
          refine ⟨rfl, ?_⟩
          rintro outlet ⟨rfl⟩
          exact ⟨hplace, h.registry_eq _ hplace⟩
  | holding key =>
      have hholding := h.holding_eq key rfl
      rw [Session.resolve, Session.resolve, hholding]
      cases hheld : session.holdings.get? key with
      | none => exact ⟨rfl, fun _ hnone => by cases hnone⟩
      | some holding =>
          have hplace : session.place? (.target (.holding key) command) =
              some holding.registry := by
            rw [place?, hheld]
            rfl
          refine ⟨rfl, ?_⟩
          rintro outlet ⟨rfl⟩
          exact ⟨hplace, h.registry_eq _ hplace⟩
  | logger address =>
      have hregistry := h.registry_eq address.registry rfl
      have hid := locate_exchange hregistry
      have hlocated := registry_locate_exchange hregistry
      rw [Session.resolve, Session.resolve]
      generalize session.locate address = located at hid hlocated ⊢
      generalize other.locate address = twin at hid hlocated ⊢
      obtain ⟨located, id⟩ := located
      obtain ⟨twin, twinId⟩ := twin
      obtain rfl : twinId = id := hid
      cases twinId with
      | none => exact ⟨rfl, fun _ hnone => by cases hnone⟩
      | some id =>
          refine ⟨rfl, ?_⟩
          rintro outlet ⟨rfl⟩
          exact ⟨rfl, hlocated⟩

theorem Sees.answer_target {target : Target} {command : TargetCommand}
    (h : Sees change (.target target command) session other)
    (hquiet : (Command.target target command).touchesOutputs = false) :
    (other.step (.target target command)).2 = (session.step (.target target command)).2 := by
  obtain ⟨heq, hregistry⟩ := h.resolve
  rw [step, step]
  generalize session.resolve target = resolved at heq hregistry ⊢
  generalize other.resolve target = twin at heq hregistry ⊢
  obtain ⟨resolved, result⟩ := resolved
  obtain ⟨twin, twinResult⟩ := twin
  obtain rfl : twinResult = result := heq
  cases twinResult with
  | error refusal => rfl
  | ok outlet => exact answer_stepOutlet (hregistry outlet rfl).2 hquiet

theorem Sees.answer_logger {address : Address} {command : LoggerCommand}
    (h : Sees change (.logger address command) session other) :
    (other.step (.logger address command)).2 = (session.step (.logger address command)).2 := by
  have hregistry := h.registry_eq address.registry rfl
  have hid := locate_exchange hregistry
  have hlocated := registry_locate_exchange hregistry
  have hhandlers : (other.locate address).1.handlers = other.handlers ∧
      (session.locate address).1.handlers = session.handlers := ⟨rfl, rfl⟩
  rw [step, step]
  generalize session.locate address = located at hid hlocated hhandlers ⊢
  generalize other.locate address = twin at hid hlocated hhandlers ⊢
  obtain ⟨located, id⟩ := located
  obtain ⟨twin, twinId⟩ := twin
  obtain rfl : twinId = id := hid
  cases twinId with
  | none => rfl
  | some id =>
      refine answer_stepLogger hlocated ?_
      intro key hkey
      obtain ⟨hother, hsession⟩ := hhandlers
      change twin.handlers = _ at hother
      change located.handlers = _ at hsession
      rw [hother, hsession]
      exact h.handler_eq key hkey

theorem Sees.answer_object {key : String} {command : ObjectCommand}
    (h : Sees change (.object key command) session other) :
    (other.step (.object key command)).2 = (session.step (.object key command)).2 := by
  -- A report is made of the registry that the object has by then.
  have hreport : ∀ object : Owned Instance, other.registry object.registry =
      (session.registry object.registry).exchange change →
      (Except.ok (.object (other.objectReport object)) : Except Refusal Answer) =
        .ok (.object (session.objectReport object)) :=
    fun _ hregistry => by rw [objectReport_exchange change hregistry]
  have hplace : ∀ object, session.objects.get? key = some object →
      session.homeOf key = some object.registry := by
    intro object hobject
    rw [homeOf, hobject]
    rfl
  cases command with
  | make registryKey cls label stateLabel echo =>
      have hregistry := h.registry_eq registryKey rfl
      simp only [step, stepObject, holdObject, answer, hregistry, Registry.makeState_exchange]
      rw [objectReport_exchange change]
      simp only [registry_setRegistry, if_true]
  | copy source =>
      simp only [step, stepObject, onObject, h.object_eq source List.mem_cons_self]
      cases hheld : session.objects.get? source with
      | none => rfl
      | some object =>
          refine hreport { object with value := _ } (h.registry_eq object.registry ?_)
          rw [place?, homeOf, hheld]
          rfl
  | report =>
      simp only [step, stepObject, onObject, h.object_eq key List.mem_cons_self]
      cases hheld : session.objects.get? key with
      | none => rfl
      | some object => exact hreport object (h.registry_eq object.registry (hplace object hheld))
  | relabel label =>
      simp only [step, stepObject, onObject, h.object_eq key List.mem_cons_self]
      cases hheld : session.objects.get? key with
      | none => rfl
      | some object =>
          exact hreport { object with value := _ }
            (h.registry_eq object.registry (hplace object hheld))
  | writeEcho echo =>
      simp only [step, stepObject, onObject, h.object_eq key List.mem_cons_self]
      cases hheld : session.objects.get? key with
      | none => rfl
      | some object =>
          have hregistry := h.registry_eq object.registry (hplace object hheld)
          simp only [holdObject, answer, hregistry, Registry.writeEcho_exchange]
          rw [objectReport_exchange change]
          simp only [registry_setRegistry, if_true]
  | sameLogger second =>
      simp only [step, stepObject, onObject, h.object_eq key List.mem_cons_self,
        h.object_eq second (List.mem_cons_of_mem _ List.mem_cons_self)]
      cases session.objects.get? key with
      | none => rfl
      | some object => cases session.objects.get? second <;> rfl

theorem Sees.answer_holding {key : String} {command : HoldingCommand}
    (h : Sees change (.holding key command) session other) :
    (other.step (.holding key command)).2 = (session.step (.holding key command)).2 := by
  cases command with
  | build registryKey name echo handlerKey =>
      have hregistry := h.registry_eq registryKey rfl
      cases handlerKey with
      | none =>
          simp only [step, stepHolding, buildHolding, answer, hregistry, Registry.build_exchange]
          rw [holdingReport_exchange change]
          simp only [registry_setRegistry, if_true]
      | some handlerKey =>
          simp only [step, stepHolding, h.handler_eq handlerKey rfl]
          cases session.handlers.get? handlerKey with
          | none => rfl
          | some handler =>
              simp only [Option.map_some, buildHolding, answer, hregistry,
                Registry.buildWith_exchange]
              rw [holdingReport_exchange change]
              simp only [registry_setRegistry, if_true]
  | toOutlet =>
      simp only [step, stepHolding, h.holding_eq key rfl]
      cases hheld : session.holdings.get? key with
      | none => rfl
      | some holding =>
          have hregistry := h.registry_eq holding.registry (by rw [place?, hheld]; rfl)
          simp only [hold, answer]
          rw [holdingReport_exchange change]
          exact hregistry
  | report =>
      simp only [step, stepHolding, h.holding_eq key rfl]
      cases hheld : session.holdings.get? key with
      | none => rfl
      | some holding =>
          have hregistry := h.registry_eq holding.registry (by rw [place?, hheld]; rfl)
          simp only [answer]
          rw [holdingReport_exchange change hregistry]

/-- A command that neither touches the outputs nor asks for classes has the same answer. -/
theorem Sees.answer_eq {command : Command} (h : Sees change command session other)
    (hquiet : command.touchesOutputs = false) (hclasses : ∀ asked, command ≠ .classes asked) :
    (other.step command).2 = (session.step command).2 := by
  cases command with
  | registry key command => exact answer_stepRegistry (h.registry_eq key rfl) command
  | logger address command => exact h.answer_logger
  | target target command => exact h.answer_target hquiet
  | handler key command => cases hquiet
  | buffer key command => cases hquiet
  | object key command => exact h.answer_object
  | holding key command => exact h.answer_holding
  | classes command => exact absurd rfl (hclasses command)

end

end Session

end LogTree

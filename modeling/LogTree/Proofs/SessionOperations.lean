import LogTree.NameMap.Lemmas
import LogTree.Proofs.RegistryOperations
import LogTree.Session.Step

/-!
What the commands of a session do to its registries. Each command addresses at most one registry,
and what it does there is a sequence of operations, so every invariant of operations is one of runs.
-/

namespace LogTree

open Registry (Operation building configuring)

def RegistryCommand.operations : RegistryCommand → List Operation
  | .names | .contains _ | .isDisabled _ => []
  | .chain name => [.adjust name 0 .keep]
  | .same name other => [.adjust name 0 .keep, .adjust other 0 .keep]
  | .disable level => [.disable level]
  | .apply config => configuring config
  | .configure directives =>
      match Config.parse directives with
      | .error _ => []
      | .ok config => configuring config
  | .configureVerbosity name verbosity => configuring (Config.ofVerbosity name verbosity)
  | .installDefaultLevel name => [.adjust name 0 .setDefaultLevel]
  | .classLogger cls => [.adjust cls.namespaceName 0 .keep]

def LoggerCommand.adjustment (handlers : NameMap Handler) : LoggerCommand → Adjustment
  | .setLevel level => .setLevel level
  | .setPropagate propagate => .setPropagate propagate
  | .attach key =>
      match handlers.get? key with
      | none => .keep
      | some handler => .attach handler
  | .detach key =>
      match handlers.get? key with
      | none => .keep
      | some handler => .detach handler.id
  | .offer key fails =>
      match handlers.get? key with
      | none => .keep
      | some handler => .offer (if fails then none else some handler)
  | .report | .describe | .adapt _ _ | .keep _ => .keep

def RegistryCommand.config? : RegistryCommand → Option Config
  | .apply config => some config
  | .configure directives => (Config.parse directives).toOption
  | .configureVerbosity name verbosity => some (Config.ofVerbosity name verbosity)
  | .names | .contains _ | .chain _ | .same _ _ | .disable _ | .isDisabled _
  | .installDefaultLevel _ | .classLogger _ => none

theorem RegistryCommand.of_mem_operations {command : RegistryCommand} {operation : Operation}
    (h : operation ∈ command.operations) :
    (∃ config, command.config? = some config ∧ operation ∈ configuring config) ∨
      (∃ name, command = .installDefaultLevel name ∧
        operation = .adjust name 0 .setDefaultLevel) ∨
      (∃ level, command = .disable level ∧ operation = .disable level) ∨
      ∃ name, operation = .adjust name 0 .keep := by
  cases command with
  | names => cases h
  | contains name => cases h
  | isDisabled level => cases h
  | chain name => exact .inr (.inr (.inr ⟨name, List.mem_singleton.mp h⟩))
  | same name other =>
      rcases List.mem_cons.mp h with heq | hother
      · exact .inr (.inr (.inr ⟨name, heq⟩))
      · exact .inr (.inr (.inr ⟨other, List.mem_singleton.mp hother⟩))
  | disable level => exact .inr (.inr (.inl ⟨level, rfl, List.mem_singleton.mp h⟩))
  | apply config => exact .inl ⟨config, rfl, h⟩
  | configure directives =>
      rw [operations] at h
      split at h
      · cases h
      · next config hparse =>
          refine .inl ⟨config, ?_, h⟩
          rw [config?, hparse]
          rfl
  | configureVerbosity name verbosity => exact .inl ⟨_, rfl, h⟩
  | installDefaultLevel name => exact .inr (.inl ⟨name, rfl, List.mem_singleton.mp h⟩)
  | classLogger cls => exact .inr (.inr (.inr ⟨_, List.mem_singleton.mp h⟩))

/-- The building of an outlet that a command asks for, with the handler for a logger that has
none. -/
structure BuildRequest where
  registry : String
  name : String
  echo : Echo
  handler : Handler

namespace Session

/-- The registry that a command addresses, if it addresses one, with the operations on it. -/
def effect? (session : Session) : Command → Option (String × List Operation)
  | .registry key command => some (key, command.operations)
  | .logger address command =>
      some (address.registry,
        [.adjust address.name address.generations (command.adjustment session.handlers)])
  | .target (.logger address) _ =>
      some (address.registry, [.adjust address.name address.generations .keep])
  | .object _ (.make key cls _ label echo) =>
      some (key, [.adjust cls.namespaceName 0 .keep,
        building (cls.instanceName label) echo (some .standard)])
  | .object key (.writeEcho echo) =>
      (session.objects.get? key).map fun object =>
        (object.registry, [building object.value.resolvedName echo (some .standard)])
  | .holding _ (.build key name echo none) =>
      some (key, [building name echo (some .standard)])
  | .holding _ (.build key name echo (some handlerKey)) =>
      (session.handlers.get? handlerKey).map fun handler =>
        (key, [building name echo (some handler)])
  | .target (.object _) _ | .target (.holding _) _ | .handler _ _ | .buffer _ _ | .classes _ => none
  | .object _ (.copy _) | .object _ .report | .object _ (.relabel _) => none
  | .object _ (.sameLogger _) | .holding _ .toOutlet | .holding _ .report => none

def operations (session : Session) (key : String) (command : Command) : List Operation :=
  match session.effect? command with
  | none => []
  | some (addressed, operations) => if addressed = key then operations else []

theorem registry_setRegistry (session : Session) (key other : String) (registry : Registry) :
    (session.setRegistry key registry).registry other =
      if other = key then registry else session.registry other := by
  rw [Session.registry, setRegistry, NameMap.getD, NameMap.get?_insert]
  split <;> rfl

@[simp] theorem registry_setRegistry_self (session : Session) (key : String)
    (registry : Registry) : (session.setRegistry key registry).registry key = registry :=
  (session.registry_setRegistry key key registry).trans (if_pos rfl)

@[simp] theorem setRegistry_setRegistry (session : Session) (key : String)
    (registry other : Registry) :
    (session.setRegistry key registry).setRegistry key other = session.setRegistry key other := by
  simp only [setRegistry, NameMap.insert_insert]

theorem registry_eq_ite (session : Session) (key other : String) :
    session.registry other =
      if other = key then session.registry key else session.registry other := by
  split
  · next heq =>
      rw [heq]
  · rfl

theorem registry_stepRegistry (session : Session) (key other : String)
    (command : RegistryCommand) :
    (session.stepRegistry key command).1.registry other =
      if other = key then (session.registry key).performAll command.operations
      else session.registry other := by
  cases command with
  | names => exact session.registry_eq_ite key other
  | contains name => exact session.registry_eq_ite key other
  | isDisabled level => exact session.registry_eq_ite key other
  | chain name =>
      rw [RegistryCommand.operations, Registry.performAll_cons, Registry.perform_keep]
      exact session.registry_setRegistry key other _
  | same name second =>
      rw [RegistryCommand.operations, Registry.performAll_cons, Registry.performAll_cons,
        Registry.perform_keep, Registry.perform_keep]
      exact session.registry_setRegistry key other _
  | disable level => exact session.registry_setRegistry key other _
  | apply config =>
      rw [RegistryCommand.operations, Registry.performAll_configuring]
      exact session.registry_setRegistry key other _
  | configure directives =>
      rw [RegistryCommand.operations, stepRegistry]
      cases Config.parse directives with
      | error e => exact session.registry_eq_ite key other
      | ok config =>
          simp only [Registry.performAll_configuring]
          exact session.registry_setRegistry key other _
  | configureVerbosity name verbosity =>
      rw [RegistryCommand.operations, Registry.performAll_configuring]
      exact session.registry_setRegistry key other _
  | installDefaultLevel name =>
      rw [RegistryCommand.operations, Registry.performAll_cons, Registry.perform_setDefaultLevel]
      exact session.registry_setRegistry key other _
  | classLogger cls =>
      rw [RegistryCommand.operations, Registry.performAll_cons, Registry.perform_keep]
      exact session.registry_setRegistry key other _

theorem registry_stepLogger (session : Session) (key other : String) (id : LoggerId)
    (command : LoggerCommand) :
    (session.stepLogger key id command).1.registry other =
      if other = key then
        (session.registry key).update id (command.adjustment session.handlers).apply
      else session.registry other := by
  have hkeep : session.registry other =
      if other = key then (session.registry key).update id Adjustment.keep.apply
      else session.registry other := by
    rw [Registry.update_keep]
    exact session.registry_eq_ite key other
  cases command with
  | report => exact hkeep
  | describe => exact hkeep
  | setLevel level => exact session.registry_setRegistry key other _
  | setPropagate propagate => exact session.registry_setRegistry key other _
  | attach handlerKey =>
      rw [stepLogger, LoggerCommand.adjustment]
      cases session.handlers.get? handlerKey with
      | none => exact hkeep
      | some handler => exact session.registry_setRegistry key other _
  | detach handlerKey =>
      rw [stepLogger, LoggerCommand.adjustment]
      cases session.handlers.get? handlerKey with
      | none => exact hkeep
      | some handler => exact session.registry_setRegistry key other _
  | offer handlerKey fails =>
      rw [stepLogger, LoggerCommand.adjustment]
      cases session.handlers.get? handlerKey with
      | none => exact hkeep
      | some handler =>
          simp only [← Registry.attachIfEmpty_fst _ _ fun _ => if fails then none else some handler]
          exact session.registry_setRegistry key other _
  | adapt holdingKey echo => exact hkeep
  | keep holdingKey => exact hkeep

theorem registry_locate (session : Session) (address : Address) (other : String) :
    (session.locate address).1.registry other =
      if other = address.registry then
        ((session.registry address.registry).obtain address.name).registry
      else session.registry other :=
  session.registry_setRegistry address.registry other _

theorem registry_step_logger (session : Session) (address : Address) (command : LoggerCommand)
    (other : String) :
    (session.step (.logger address command)).1.registry other =
      if other = address.registry then
        (session.registry address.registry).perform
          (.adjust address.name address.generations (command.adjustment session.handlers))
      else session.registry other := by
  have hlocated := registry_locate session address
  rw [step, Registry.perform]
  split
  · next located hlocate =>
      obtain ⟨rfl, hnone⟩ := Prod.mk.inj hlocate
      simp only [hnone]
      exact hlocated other
  · next located id hlocate =>
      obtain ⟨rfl, hsome⟩ := Prod.mk.inj hlocate
      simp only [hsome]
      rw [registry_stepLogger]
      rcases Decidable.em (other = address.registry) with rfl | hne
      · rw [if_pos rfl, if_pos rfl]
        congr 1
        exact (hlocated address.registry).trans (if_pos rfl)
      · rw [if_neg hne, if_neg hne]
        exact (hlocated other).trans (if_neg hne)

theorem registry_stepOutlet (session : Session) (outlet : Owned Outlet) (command : TargetCommand)
    (other : String) :
    (session.stepOutlet outlet command).1.registry other = session.registry other := by
  cases command <;> rfl

theorem registry_step_target (session : Session) (target : Target) (command : TargetCommand)
    (other : String) :
    (session.step (.target target command)).1.registry other =
      (session.resolve target).1.registry other := by
  rw [step]
  split
  · next refused refusal hresolve =>
      rw [hresolve]
      rfl
  · next resolved outlet hresolve =>
      rw [hresolve]
      exact registry_stepOutlet resolved outlet command other

theorem registry_buildHolding (session : Session) (key registryKey name : String) (echo : Echo)
    (handler : Option Handler) (other : String) :
    (session.buildHolding key registryKey name echo handler).1.registry other =
      if other = registryKey then
        (session.registry registryKey).perform
          (building name echo (some (handler.getD .standard)))
      else session.registry other := by
  cases handler with
  | none =>
      rw [Option.getD_none, Registry.perform_building _ _ _ fun _ => some Handler.standard]
      exact session.registry_setRegistry registryKey other _
  | some handler =>
      rw [Option.getD_some, Registry.perform_building _ _ _ fun _ => some handler]
      exact session.registry_setRegistry registryKey other _

theorem foldl_operations_of_none {State : Type} {session : Session} {command : Command}
    (h : session.effect? command = none) (key : String) (perform : State → Operation → State)
    (state : State) : (session.operations key command).foldl perform state = state := by
  rw [operations, h]
  rfl

theorem foldl_operations_of_some {State : Type} {session : Session} {command : Command}
    {addressed : String} {operations : List Operation}
    (h : session.effect? command = some (addressed, operations)) (key : String)
    (perform : State → Operation → State) (state : State) :
    (session.operations key command).foldl perform state =
      if addressed = key then operations.foldl perform state else state := by
  rw [Session.operations, h]
  exact apply_ite (List.foldl perform state) _ _ _

theorem performAll_operations_of_none {session : Session} {command : Command}
    (h : session.effect? command = none) (key : String) :
    (session.registry key).performAll (session.operations key command) =
      session.registry key :=
  foldl_operations_of_none h key _ _

theorem performAll_operations_of_some {session : Session} {command : Command}
    {addressed : String} {operations : List Operation}
    (h : session.effect? command = some (addressed, operations)) (key : String) :
    (session.registry key).performAll (session.operations key command) =
      if key = addressed then (session.registry addressed).performAll operations
      else session.registry key := by
  rw [Registry.performAll, foldl_operations_of_some h]
  rcases Decidable.em (key = addressed) with rfl | hne
  · rw [if_pos rfl, if_pos rfl]
    rfl
  · rw [if_neg hne, if_neg (Ne.symm hne)]

theorem mem_operations {session : Session} {command : Command} {key : String}
    {operation : Operation} (h : operation ∈ session.operations key command) :
    ∃ operations, session.effect? command = some (key, operations) ∧ operation ∈ operations := by
  rw [operations] at h
  split at h
  · cases h
  · next addressed operations heffect =>
      split at h
      · next haddressed =>
          rw [haddressed] at heffect
          exact ⟨operations, heffect, h⟩
      · cases h

/-- The building of an outlet that a command asks for, if it asks for one. -/
def build? (session : Session) : Command → Option BuildRequest
  | .object _ (.make registry cls _ label echo) =>
      some { registry, name := cls.instanceName label, echo, handler := .standard }
  | .object key (.writeEcho echo) =>
      (session.objects.get? key).map fun object =>
        { registry := object.registry, name := object.value.resolvedName, echo,
          handler := .standard }
  | .holding _ (.build registry name echo none) =>
      some { registry, name, echo, handler := .standard }
  | .holding _ (.build registry name echo (some handlerKey)) =>
      (session.handlers.get? handlerKey).map fun handler => { registry, name, echo, handler }
  | _ => none

/-- Where the operations of a command come from. -/
theorem of_mem_operations {session : Session} {command : Command} {key : String}
    {operation : Operation} (h : operation ∈ session.operations key command) :
    (∃ inner, command = .registry key inner ∧ operation ∈ inner.operations) ∨
      (∃ address inner, command = .logger address inner ∧ address.registry = key ∧
        operation = .adjust address.name address.generations
          (inner.adjustment session.handlers)) ∨
      (∃ name generations, operation = .adjust name generations .keep) ∨
      ∃ build, session.build? command = some build ∧
        operation = building build.name build.echo (some build.handler) := by
  obtain ⟨operations, heffect, hmem⟩ := mem_operations h
  -- The cases are those of `effect?`. The last four build outlets.
  unfold effect? at heffect
  split at heffect
  · next addressed inner =>
      obtain ⟨rfl, rfl⟩ := Prod.mk.inj (Option.some.inj heffect)
      exact .inl ⟨inner, rfl, hmem⟩
  · next address inner =>
      obtain ⟨rfl, rfl⟩ := Prod.mk.inj (Option.some.inj heffect)
      exact .inr (.inl ⟨address, inner, rfl, rfl, List.mem_singleton.mp hmem⟩)
  · obtain ⟨-, rfl⟩ := Prod.mk.inj (Option.some.inj heffect)
    exact .inr (.inr (.inl ⟨_, _, List.mem_singleton.mp hmem⟩))
  · obtain ⟨-, rfl⟩ := Prod.mk.inj (Option.some.inj heffect)
    rcases List.mem_cons.mp hmem with heq | hbuilding
    · exact .inr (.inr (.inl ⟨_, _, heq⟩))
    · exact .inr (.inr (.inr ⟨_, rfl, List.mem_singleton.mp hbuilding⟩))
  · next objectKey echo =>
      obtain ⟨object, hobject, heq⟩ := Option.map_eq_some_iff.mp heffect
      obtain ⟨-, rfl⟩ := Prod.mk.inj heq
      have hbuild : session.build? (.object objectKey (.writeEcho echo)) = some {
          registry := object.registry, name := object.value.resolvedName, echo,
          handler := .standard } := by
        rw [build?, hobject]
        rfl
      exact .inr (.inr (.inr ⟨_, hbuild, List.mem_singleton.mp hmem⟩))
  · obtain ⟨-, rfl⟩ := Prod.mk.inj (Option.some.inj heffect)
    exact .inr (.inr (.inr ⟨_, rfl, List.mem_singleton.mp hmem⟩))
  · next holdingKey registry name echo handlerKey =>
      obtain ⟨handler, hhandler, heq⟩ := Option.map_eq_some_iff.mp heffect
      obtain ⟨-, rfl⟩ := Prod.mk.inj heq
      have hbuild : session.build? (.holding holdingKey (.build registry name echo handlerKey)) =
          some { registry, name, echo, handler } := by
        rw [build?, hhandler]
        rfl
      exact .inr (.inr (.inr ⟨_, hbuild, List.mem_singleton.mp hmem⟩))
  all_goals cases heffect

theorem registry_stepObject (session : Session) (objectKey : String) (command : ObjectCommand)
    (key : String) :
    (session.stepObject objectKey command).1.registry key =
      (session.registry key).performAll
        (session.operations key (.object objectKey command)) := by
  cases command with
  | make registryKey cls label stateLabel echo =>
      rw [performAll_operations_of_some rfl, Registry.performAll_cons, Registry.performAll_cons,
        Registry.perform_keep, Registry.perform_building _ _ _ fun _ => some Handler.standard]
      exact session.registry_setRegistry registryKey key _
  | copy source =>
      rw [performAll_operations_of_none rfl, stepObject, onObject]
      cases session.objects.get? source <;> rfl
  | report =>
      rw [performAll_operations_of_none rfl, stepObject, onObject]
      cases session.objects.get? objectKey <;> rfl
  | relabel label =>
      rw [performAll_operations_of_none rfl, stepObject, onObject]
      cases session.objects.get? objectKey <;> rfl
  | writeEcho echo =>
      rw [stepObject, onObject]
      cases hobject : session.objects.get? objectKey with
      | none =>
          rw [performAll_operations_of_none (by simp [effect?, hobject])]
          rfl
      | some object =>
          have heffect : session.effect? (.object objectKey (.writeEcho echo)) =
              some (object.registry,
                [building object.value.resolvedName echo (some .standard)]) := by
            simp [effect?, hobject]
          rw [performAll_operations_of_some heffect, Registry.performAll_cons,
            Registry.perform_building _ _ _ fun _ => some Handler.standard]
          exact session.registry_setRegistry object.registry key _
  | sameLogger other =>
      rw [performAll_operations_of_none rfl, stepObject, onObject]
      cases session.objects.get? objectKey with
      | none => rfl
      | some object =>
          simp only [onObject]
          cases session.objects.get? other <;> rfl

theorem registry_stepHolding (session : Session) (holdingKey : String)
    (command : HoldingCommand) (key : String) :
    (session.stepHolding holdingKey command).1.registry key =
      (session.registry key).performAll
        (session.operations key (.holding holdingKey command)) := by
  cases command with
  | build registryKey name echo handlerKey =>
      cases handlerKey with
      | none =>
          rw [performAll_operations_of_some rfl]
          exact session.registry_buildHolding holdingKey registryKey name echo none key
      | some handlerKey =>
          rw [stepHolding]
          cases hhandler : session.handlers.get? handlerKey with
          | none =>
              rw [performAll_operations_of_none (by simp [effect?, hhandler])]
              rfl
          | some handler =>
              have heffect : session.effect?
                  (.holding holdingKey (.build registryKey name echo (some handlerKey))) =
                    some (registryKey, [building name echo (some handler)]) := by
                simp [effect?, hhandler]
              rw [performAll_operations_of_some heffect]
              exact session.registry_buildHolding holdingKey registryKey name echo handler key
  | toOutlet =>
      rw [performAll_operations_of_none rfl, stepHolding]
      cases session.holdings.get? holdingKey <;> rfl
  | report =>
      rw [performAll_operations_of_none rfl, stepHolding]
      cases session.holdings.get? holdingKey <;> rfl

/-- A command does its operations to a registry and nothing else. -/
theorem registry_step (session : Session) (command : Command) (key : String) :
    (session.step command).1.registry key =
      (session.registry key).performAll (session.operations key command) := by
  cases command with
  | registry addressed command =>
      rw [performAll_operations_of_some rfl]
      exact session.registry_stepRegistry addressed key command
  | logger address command =>
      rw [performAll_operations_of_some rfl, registry_step_logger]
      rfl
  | target target command =>
      rw [registry_step_target]
      cases target with
      | object objectKey =>
          rw [performAll_operations_of_none rfl, resolve]
          cases session.objects.get? objectKey <;> rfl
      | holding holdingKey =>
          rw [performAll_operations_of_none rfl, resolve]
          cases session.holdings.get? holdingKey <;> rfl
      | logger address =>
          rw [performAll_operations_of_some rfl, Registry.performAll_cons, Registry.perform_keep,
            Registry.performAll_nil, ← registry_locate, resolve]
          split <;> simp_all
  | handler handlerKey command =>
      rw [performAll_operations_of_none rfl, step]
      cases command with
      | make threshold destination =>
          rw [stepHandler]
          split <;> rfl
      | drain =>
          rw [stepHandler]
          split <;> rfl
  | buffer bufferKey command =>
      rw [performAll_operations_of_none rfl]
      cases command <;> rfl
  | object objectKey command => exact session.registry_stepObject objectKey command key
  | holding holdingKey command => exact session.registry_stepHolding holdingKey command key
  | classes command =>
      rw [performAll_operations_of_none rfl]
      cases command <;> rfl

def runOperations (session : Session) (key : String) : List Command → List Operation
  | [] => []
  | command :: rest =>
      session.operations key command ++ (session.step command).1.runOperations key rest

@[simp] theorem run_nil (session : Session) : session.run [] = (session, []) :=
  rfl

theorem run_cons_fst (session : Session) (command : Command) (rest : List Command) :
    (session.run (command :: rest)).1 = ((session.step command).1.run rest).1 :=
  rfl

theorem run_cons_snd (session : Session) (command : Command) (rest : List Command) :
    (session.run (command :: rest)).2 =
      (session.step command).2 :: ((session.step command).1.run rest).2 :=
  rfl

theorem run_append_fst (session : Session) (before after : List Command) :
    (session.run (before ++ after)).1 = ((session.run before).1.run after).1 := by
  induction before generalizing session with
  | nil => rfl
  | cons command rest ih => exact ih (session.step command).1

theorem run_append_singleton_fst (session : Session) (commands : List Command)
    (command : Command) :
    (session.run (commands ++ [command])).1 = ((session.run commands).1.step command).1 := by
  rw [run_append_fst, run_cons_fst, run_nil]

theorem registry_run (session : Session) (commands : List Command) (key : String) :
    (session.run commands).1.registry key =
      (session.registry key).performAll (session.runOperations key commands) := by
  induction commands generalizing session with
  | nil => rfl
  | cons command rest ih =>
      rw [run_cons_fst, ih, registry_step, runOperations, Registry.performAll_append]

theorem registry_fresh (moment : Moment) (key : String) :
    Session.registry { moment } key = {} :=
  rfl

theorem wellFormed_registry_run (moment : Moment) (commands : List Command) (key : String) :
    ((run { moment } commands).1.registry key).WellFormed := by
  rw [registry_run, registry_fresh]
  exact Registry.wellFormed_performAll Registry.wellFormed_fresh _

theorem grows_registry_run (session : Session) (commands : List Command) (key : String) :
    (session.registry key).Grows ((session.run commands).1.registry key) := by
  rw [registry_run]
  exact Registry.grows_performAll _ _

end Session

end LogTree

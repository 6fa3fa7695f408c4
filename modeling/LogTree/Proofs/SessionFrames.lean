import LogTree.Proofs.SessionOperations

namespace LogTree

/-- A command may add to the outputs or take something away from them. -/
def Command.touchesOutputs : Command → Bool
  | .target _ (.log _ _ _) | .handler _ _ | .buffer _ _ => true
  | _ => false

def Command.recorded? : Command → Option LoggedClass
  | .registry _ (.classLogger cls) | .object _ (.make _ cls _ _ _) => some cls
  | _ => none

namespace Session

/-- The handlers and the objects of a session are those of another one. -/
structure Keeps (session other : Session) : Prop where
  handlers_eq : other.handlers = session.handlers
  objects_eq : other.objects = session.objects

theorem keeps_stepRegistry (session : Session) (key : String) (command : RegistryCommand) :
    session.Keeps (session.stepRegistry key command).1 := by
  cases command with
  | configure directives =>
      rw [stepRegistry]
      split
      · exact ⟨rfl, rfl⟩
      · exact ⟨rfl, rfl⟩
  | _ => exact ⟨rfl, rfl⟩

theorem keeps_stepLogger (session : Session) (key : String) (id : LoggerId)
    (command : LoggerCommand) : session.Keeps (session.stepLogger key id command).1 := by
  cases command with
  | attach handlerKey =>
      rw [stepLogger]
      split <;> exact ⟨rfl, rfl⟩
  | detach handlerKey =>
      rw [stepLogger]
      split <;> exact ⟨rfl, rfl⟩
  | offer handlerKey fails =>
      rw [stepLogger]
      split <;> exact ⟨rfl, rfl⟩
  | _ => exact ⟨rfl, rfl⟩

theorem keeps_resolve (session : Session) (target : Target) :
    session.Keeps (session.resolve target).1 := by
  cases target with
  | object key =>
      rw [resolve]
      split <;> exact ⟨rfl, rfl⟩
  | holding key =>
      rw [resolve]
      split <;> exact ⟨rfl, rfl⟩
  | logger address =>
      rw [resolve]
      split
      · next located hlocated =>
          obtain ⟨rfl, -⟩ := Prod.mk.inj hlocated
          exact ⟨rfl, rfl⟩
      · next located id hlocated =>
          obtain ⟨rfl, -⟩ := Prod.mk.inj hlocated
          exact ⟨rfl, rfl⟩

theorem keeps_stepOutlet (session : Session) (outlet : Owned Outlet) (command : TargetCommand) :
    session.Keeps (session.stepOutlet outlet command).1 := by
  cases command <;> exact ⟨rfl, rfl⟩

theorem keeps_stepHolding (session : Session) (key : String) (command : HoldingCommand) :
    session.Keeps (session.stepHolding key command).1 := by
  cases command with
  | build registryKey name echo handlerKey =>
      cases handlerKey with
      | none => exact ⟨rfl, rfl⟩
      | some handlerKey =>
          rw [stepHolding]
          split <;> exact ⟨rfl, rfl⟩
  | toOutlet =>
      rw [stepHolding]
      split <;> exact ⟨rfl, rfl⟩
  | report =>
      rw [stepHolding]
      split <;> exact ⟨rfl, rfl⟩

theorem keeps_step_logger (session : Session) (address : Address) (command : LoggerCommand) :
    session.Keeps (session.step (.logger address command)).1 := by
  rw [step]
  split
  · next located hlocated =>
      obtain ⟨rfl, -⟩ := Prod.mk.inj hlocated
      exact ⟨rfl, rfl⟩
  · next located id hlocated =>
      obtain ⟨rfl, -⟩ := Prod.mk.inj hlocated
      obtain ⟨hhandlers, hobjects⟩ :=
        keeps_stepLogger (session.locate address).1 address.registry id command
      exact ⟨hhandlers, hobjects⟩

theorem keeps_step_target (session : Session) (target : Target) (command : TargetCommand) :
    session.Keeps (session.step (.target target command)).1 := by
  have hresolve := session.keeps_resolve target
  rw [step]
  split
  · next refused refusal hrefused =>
      rw [hrefused] at hresolve
      exact hresolve
  · next resolved outlet hresolved =>
      rw [hresolved] at hresolve
      obtain ⟨hhandlers, hobjects⟩ := resolved.keeps_stepOutlet outlet command
      exact ⟨hhandlers.trans hresolve.handlers_eq, hobjects.trans hresolve.objects_eq⟩

theorem handlers_stepObject (session : Session) (key : String) (command : ObjectCommand) :
    (session.stepObject key command).1.handlers = session.handlers := by
  have hobject : ∀ (key : String) (perform : Owned Instance → Outcome),
      (∀ object, (perform object).1.handlers = session.handlers) →
      (session.onObject key perform).1.handlers = session.handlers := by
    intro key perform hperform
    rw [onObject]
    split
    · rfl
    · exact hperform _
  cases command with
  | make registryKey cls label stateLabel echo => rfl
  | copy source => exact hobject source _ fun _ => rfl
  | report => exact hobject key _ fun _ => rfl
  | relabel label => exact hobject key _ fun _ => rfl
  | writeEcho echo => exact hobject key _ fun _ => rfl
  | sameLogger other => exact hobject key _ fun _ => hobject other _ fun _ => rfl

/-- The handler that a command makes, with its key. -/
def made? (session : Session) : Command → Option (String × Handler)
  | .handler key (.make threshold destination) =>
      if session.handlers.contains key then none
      else some (key, { id := .named key, threshold, destination })
  | _ => none

theorem handlers_step (session : Session) (command : Command) :
    (session.step command).1.handlers =
      match session.made? command with
      | none => session.handlers
      | some (key, handler) => session.handlers.insert key handler := by
  cases command with
  | handler key command =>
      cases command with
      | make threshold destination =>
          simp only [step, stepHandler, made?]
          split <;> rfl
      | drain =>
          rw [step, stepHandler]
          split <;> rfl
  | registry key command => exact (session.keeps_stepRegistry key command).handlers_eq
  | logger address command => exact (session.keeps_step_logger address command).handlers_eq
  | target target command => exact (session.keeps_step_target target command).handlers_eq
  | buffer key command => cases command <;> rfl
  | object key command => exact session.handlers_stepObject key command
  | holding key command => exact (session.keeps_stepHolding key command).handlers_eq
  | classes command => cases command <;> rfl

/-- A key that stands for a handler stands for it ever after. -/
theorem get?_handlers_step {session : Session} {key : String} {handler : Handler}
    (h : session.handlers.get? key = some handler) (command : Command) :
    (session.step command).1.handlers.get? key = some handler := by
  rw [handlers_step]
  rcases hmade : session.made? command with _ | ⟨place, made⟩
  · exact h
  · have hne : key ≠ place := by
      rintro rfl
      unfold made? at hmade
      split at hmade
      · split at hmade
        · cases hmade
        · next hfresh =>
            obtain ⟨rfl, -⟩ := Prod.mk.inj (Option.some.inj hmade)
            exact hfresh (by rw [NameMap.contains, h]; rfl)
      · cases hmade
    simp only [NameMap.get?_insert, if_neg hne]
    exact h

theorem id_of_made? {session : Session} {command : Command} {key : String} {handler : Handler}
    (h : session.made? command = some (key, handler)) : handler.id = .named key := by
  unfold made? at h
  split at h
  · split at h
    · cases h
    · obtain ⟨rfl, rfl⟩ := Prod.mk.inj (Option.some.inj h)
      rfl
  · cases h

/-- The handlers of a session are told apart by their keys. -/
def NamesHandlers (session : Session) : Prop :=
  ∀ key handler, session.handlers.get? key = some handler → handler.id = .named key

theorem NamesHandlers.step {session : Session} (h : session.NamesHandlers) (command : Command) :
    (session.step command).1.NamesHandlers := by
  intro key handler hhandler
  rw [handlers_step] at hhandler
  split at hhandler
  · exact h key handler hhandler
  · next addressed made hmade =>
      rw [NameMap.get?_insert] at hhandler
      split at hhandler
      · next heq =>
          obtain rfl := Option.some.inj hhandler
          rw [heq]
          exact id_of_made? hmade
      · exact h key handler hhandler

theorem namesHandlers_fresh (moment : Moment) : NamesHandlers { moment } := by
  rintro key handler ⟨⟩

/-- The object that a command puts in a place, with the key of the place. -/
def placed? (session : Session) : Command → Option (String × Owned Instance)
  | .object key (.make registryKey cls label stateLabel echo) =>
      let state := ((session.registry registryKey).makeState cls stateLabel echo).2
      some (key, { registry := registryKey, value := { loggedClass := cls, label, state } })
  | .object key (.copy source) =>
      (session.objects.get? source).map fun object =>
        (key, { object with value := { object.value with label := object.value.reportedLabel } })
  | .object key (.relabel label) =>
      (session.objects.get? key).map fun object =>
        (key, { object with value := { object.value with label } })
  | .object key (.writeEcho echo) =>
      (session.objects.get? key).map fun object =>
        (key, { object with
          value := ((session.registry object.registry).writeEcho object.value echo).2 })
  | _ => none

theorem objects_step (session : Session) (command : Command) :
    (session.step command).1.objects =
      match session.placed? command with
      | none => session.objects
      | some (key, object) => session.objects.insert key object := by
  cases command with
  | object key command =>
      change (session.stepObject key command).1.objects = _
      cases command with
      | make registryKey cls label stateLabel echo => rfl
      | copy source =>
          simp only [stepObject, onObject, placed?]
          rcases session.objects.get? source with _ | object <;> rfl
      | report =>
          simp only [stepObject, onObject]
          split <;> rfl
      | relabel label =>
          simp only [stepObject, onObject, placed?]
          rcases session.objects.get? key with _ | object <;> rfl
      | writeEcho echo =>
          simp only [stepObject, onObject, placed?]
          rcases session.objects.get? key with _ | object <;> rfl
      | sameLogger other =>
          simp only [stepObject, onObject]
          split
          · rfl
          · split <;> rfl
  | handler key command =>
      cases command with
      | make threshold destination =>
          rw [step, stepHandler]
          split <;> rfl
      | drain =>
          rw [step, stepHandler]
          split <;> rfl
  | registry key command => exact (session.keeps_stepRegistry key command).objects_eq
  | logger address command => exact (session.keeps_step_logger address command).objects_eq
  | target target command => exact (session.keeps_step_target target command).objects_eq
  | buffer key command => cases command <;> rfl
  | holding key command => exact (session.keeps_stepHolding key command).objects_eq
  | classes command => cases command <;> rfl

theorem get?_objects_step (session : Session) (command : Command) (key : String) :
    (session.step command).1.objects.get? key =
      match session.placed? command with
      | none => session.objects.get? key
      | some (place, object) => if key = place then some object else session.objects.get? key := by
  rw [objects_step]
  split
  · rfl
  · exact NameMap.get?_insert _ _ _ _

structure Rests (session other : Session) : Prop where
  moment_eq : other.moment = session.moment
  holdings_eq : other.holdings = session.holdings
  outputs_eq : other.outputs = session.outputs

theorem rests_stepRegistry (session : Session) (key : String) (command : RegistryCommand) :
    session.Rests (session.stepRegistry key command).1 := by
  cases command with
  | configure directives =>
      rw [stepRegistry]
      split <;> exact ⟨rfl, rfl, rfl⟩
  | _ => exact ⟨rfl, rfl, rfl⟩

theorem rests_resolve (session : Session) (target : Target) :
    session.Rests (session.resolve target).1 := by
  cases target with
  | object key =>
      rw [resolve]
      split <;> exact ⟨rfl, rfl, rfl⟩
  | holding key =>
      rw [resolve]
      split <;> exact ⟨rfl, rfl, rfl⟩
  | logger address =>
      rw [resolve]
      split
      · next located hlocated =>
          obtain ⟨rfl, -⟩ := Prod.mk.inj hlocated
          exact ⟨rfl, rfl, rfl⟩
      · next located id hlocated =>
          obtain ⟨rfl, -⟩ := Prod.mk.inj hlocated
          exact ⟨rfl, rfl, rfl⟩

theorem rests_stepObject (session : Session) (key : String) (command : ObjectCommand) :
    session.Rests (session.stepObject key command).1 := by
  cases command with
  | make registryKey cls label stateLabel echo => exact ⟨rfl, rfl, rfl⟩
  | sameLogger other =>
      simp only [stepObject, onObject]
      split
      · exact ⟨rfl, rfl, rfl⟩
      · split <;> exact ⟨rfl, rfl, rfl⟩
  | _ =>
      simp only [stepObject, onObject]
      split <;> exact ⟨rfl, rfl, rfl⟩

/-- The outlet that a command puts under a name, with the name. -/
def held? (session : Session) : Command → Option (String × Owned Holding)
  | .logger address (.adapt key echo) =>
      (session.locate address).2.map fun id =>
        (key, { registry := address.registry, value := .adapter { echo, logger := id } })
  | .logger address (.keep key) =>
      (session.locate address).2.map fun id =>
        (key, { registry := address.registry, value := .outlet (.direct id) })
  | .holding key (.build registry name echo none) =>
      let built := (session.registry registry).build name echo
      some (key, { registry, value := .outlet built.outlet })
  | .holding key (.build registry name echo (some handlerKey)) =>
      (session.handlers.get? handlerKey).map fun handler =>
        let built := (session.registry registry).buildWith name echo fun _ => some handler
        (key, { registry, value := .outlet built.outlet })
  | .holding key .toOutlet =>
      (session.holdings.get? key).map fun holding =>
        (key, { holding with value := .outlet holding.value.toOutlet })
  | _ => none

/-- What a command does to the time, to the outlets kept by name and, as far as it does not touch
them, to the outputs. -/
structure HoldsAfter (session : Session) (command : Command) (other : Session) : Prop where
  moment_eq : other.moment = session.moment
  holdings_eq : other.holdings =
    match session.held? command with
    | none => session.holdings
    | some (key, holding) => session.holdings.insert key holding
  outputs_eq : command.touchesOutputs = false → other.outputs = session.outputs

theorem holdsAfter_step_logger (session : Session) (address : Address) (command : LoggerCommand) :
    session.HoldsAfter (.logger address command) (session.step (.logger address command)).1 := by
  have hlocate : session.Rests (session.locate address).1 := ⟨rfl, rfl, rfl⟩
  rw [step]
  split
  · next located hlocated =>
      rw [hlocated] at hlocate
      obtain ⟨hmoment, hholdings, houtputs⟩ := hlocate
      refine ⟨hmoment, ?_, fun _ => houtputs⟩
      cases command with
      | adapt key echo =>
          rw [held?, hlocated]
          exact hholdings
      | keep key =>
          rw [held?, hlocated]
          exact hholdings
      | _ => exact hholdings
  · next located id hlocated =>
      rw [hlocated] at hlocate
      obtain ⟨hmoment, hholdings, houtputs⟩ := hlocate
      cases command with
      | adapt key echo =>
          refine ⟨hmoment, ?_, fun _ => houtputs⟩
          rw [held?, hlocated, ← hholdings]
          rfl
      | keep key =>
          refine ⟨hmoment, ?_, fun _ => houtputs⟩
          rw [held?, hlocated, ← hholdings]
          rfl
      | attach handlerKey =>
          rw [stepLogger]
          split <;> exact ⟨hmoment, hholdings, fun _ => houtputs⟩
      | detach handlerKey =>
          rw [stepLogger]
          split <;> exact ⟨hmoment, hholdings, fun _ => houtputs⟩
      | offer handlerKey fails =>
          rw [stepLogger]
          split <;> exact ⟨hmoment, hholdings, fun _ => houtputs⟩
      | _ => exact ⟨hmoment, hholdings, fun _ => houtputs⟩

theorem holdsAfter_step_target (session : Session) (target : Target) (command : TargetCommand) :
    session.HoldsAfter (.target target command) (session.step (.target target command)).1 := by
  have hresolve := session.rests_resolve target
  rw [step]
  split
  · next refused refusal hrefused =>
      rw [hrefused] at hresolve
      exact ⟨hresolve.moment_eq, hresolve.holdings_eq, fun _ => hresolve.outputs_eq⟩
  · next resolved outlet hresolved =>
      rw [hresolved] at hresolve
      cases command with
      | log submission message thread =>
          exact ⟨hresolve.moment_eq, hresolve.holdings_eq, fun h => by cases h⟩
      | _ => exact ⟨hresolve.moment_eq, hresolve.holdings_eq, fun _ => hresolve.outputs_eq⟩

theorem holdsAfter_stepHandler (session : Session) (key : String) (command : HandlerCommand) :
    session.HoldsAfter (.handler key command) (session.stepHandler key command).1 := by
  cases command with
  | make threshold destination =>
      rw [stepHandler]
      split <;> exact ⟨rfl, rfl, fun h => by cases h⟩
  | drain =>
      rw [stepHandler]
      split <;> exact ⟨rfl, rfl, fun h => by cases h⟩

theorem holdsAfter_stepHolding (session : Session) (key : String) (command : HoldingCommand) :
    session.HoldsAfter (.holding key command) (session.stepHolding key command).1 := by
  cases command with
  | build registryKey name echo handlerKey =>
      cases handlerKey with
      | none => exact ⟨rfl, rfl, fun _ => rfl⟩
      | some handlerKey =>
          rw [stepHolding]
          cases hhandler : session.handlers.get? handlerKey with
          | none => exact ⟨rfl, by rw [held?, hhandler]; rfl, fun _ => rfl⟩
          | some handler => exact ⟨rfl, by rw [held?, hhandler]; rfl, fun _ => rfl⟩
  | toOutlet =>
      rw [stepHolding]
      cases hholding : session.holdings.get? key with
      | none => exact ⟨rfl, by rw [held?, hholding]; rfl, fun _ => rfl⟩
      | some holding => exact ⟨rfl, by rw [held?, hholding]; rfl, fun _ => rfl⟩
  | report =>
      rw [stepHolding]
      split <;> exact ⟨rfl, rfl, fun _ => rfl⟩

theorem holdsAfter_step (session : Session) (command : Command) :
    session.HoldsAfter command (session.step command).1 := by
  cases command with
  | registry key command =>
      obtain ⟨hmoment, hholdings, houtputs⟩ := session.rests_stepRegistry key command
      exact ⟨hmoment, hholdings, fun _ => houtputs⟩
  | logger address command => exact session.holdsAfter_step_logger address command
  | target target command => exact session.holdsAfter_step_target target command
  | handler key command => exact session.holdsAfter_stepHandler key command
  | buffer key command => cases command <;> exact ⟨rfl, rfl, fun h => by cases h⟩
  | object key command =>
      obtain ⟨hmoment, hholdings, houtputs⟩ := session.rests_stepObject key command
      exact ⟨hmoment, hholdings, fun _ => houtputs⟩
  | holding key command => exact session.holdsAfter_stepHolding key command
  | classes command => cases command <;> exact ⟨rfl, rfl, fun _ => rfl⟩

theorem loggedClasses_stepObject (session : Session) (key : String) (command : ObjectCommand) :
    (session.stepObject key command).1.loggedClasses =
      match (Command.object key command).recorded? with
      | none => session.loggedClasses
      | some cls => session.loggedClasses.insert cls.typeName () := by
  cases command with
  | make registryKey cls label stateLabel echo => rfl
  | sameLogger other =>
      simp only [stepObject, onObject]
      split
      · rfl
      · split <;> rfl
  | _ =>
      simp only [stepObject, onObject]
      split <;> rfl

theorem loggedClasses_step (session : Session) (command : Command) :
    (session.step command).1.loggedClasses =
      match command.recorded? with
      | none => session.loggedClasses
      | some cls => session.loggedClasses.insert cls.typeName () := by
  cases command with
  | registry key command =>
      cases command with
      | configure directives =>
          simp only [step, stepRegistry]
          split <;> rfl
      | _ => rfl
  | logger address command =>
      simp only [step]
      split
      · next located hlocated =>
          obtain ⟨rfl, -⟩ := Prod.mk.inj hlocated
          rfl
      · next located id hlocated =>
          obtain ⟨rfl, -⟩ := Prod.mk.inj hlocated
          cases command with
          | attach handlerKey =>
              simp only [stepLogger]
              split <;> rfl
          | detach handlerKey =>
              simp only [stepLogger]
              split <;> rfl
          | offer handlerKey fails =>
              simp only [stepLogger]
              split <;> rfl
          | _ => rfl
  | target target command =>
      have hresolve : (session.resolve target).1.loggedClasses = session.loggedClasses := by
        cases target with
        | object key =>
            rw [resolve]
            split <;> rfl
        | holding key =>
            rw [resolve]
            split <;> rfl
        | logger address =>
            rw [resolve]
            split
            · next located hlocated =>
                obtain ⟨rfl, -⟩ := Prod.mk.inj hlocated
                rfl
            · next located id hlocated =>
                obtain ⟨rfl, -⟩ := Prod.mk.inj hlocated
                rfl
      simp only [step]
      split
      · next refused refusal hrefused =>
          rw [hrefused] at hresolve
          exact hresolve
      · next resolved outlet hresolved =>
          rw [hresolved] at hresolve
          cases command <;> exact hresolve
  | handler key command =>
      cases command with
      | make threshold destination =>
          simp only [step, stepHandler]
          split <;> rfl
      | drain =>
          simp only [step, stepHandler]
          split <;> rfl
  | buffer key command => cases command <;> rfl
  | object key command => exact session.loggedClasses_stepObject key command
  | holding key command =>
      cases command with
      | build registryKey name echo handlerKey =>
          cases handlerKey with
          | none => rfl
          | some handlerKey =>
              simp only [step, stepHolding]
              split <;> rfl
      | toOutlet =>
          simp only [step, stepHolding]
          split <;> rfl
      | report =>
          simp only [step, stepHolding]
          split <;> rfl
  | classes command => cases command <;> rfl

end Session

end LogTree

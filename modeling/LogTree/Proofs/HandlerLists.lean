import Mathlib.Data.List.Induction
import Mathlib.Data.List.Nodup
import LogTree.Proofs.AttachedHandlers
import LogTree.Proofs.FailingWriters
import LogTree.Proofs.ParentWalks

namespace LogTree

theorem Settings.hasHandler_of_mem {settings : Settings} {handler : Handler}
    (h : handler ∈ settings.handlers) : settings.hasHandler handler.id = true :=
  List.any_eq_true.mpr ⟨handler, h, decide_eq_true rfl⟩

theorem Adjustment.handlers_apply_cases (adjustment : Adjustment) (settings : Settings) :
    (adjustment.apply settings).handlers.Sublist settings.handlers ∨
      ∃ handler, handler ∉ settings.handlers ∧
        (adjustment.apply settings).handlers = settings.handlers ++ [handler] := by
  cases adjustment with
  | attach handler =>
      rw [apply, Settings.attach]
      split
      · exact .inl (List.Sublist.refl _)
      · next hfresh => exact .inr ⟨handler, fun h => hfresh (Settings.hasHandler_of_mem h), rfl⟩
  | detach id => exact .inl List.filter_sublist
  | setDefaultLevel =>
      rw [apply]
      split <;> exact .inl (List.Sublist.refl _)
  | offer offered =>
      cases offered with
      | none => exact .inl (List.Sublist.refl _)
      | some handler =>
          rw [apply]
          split
          · next hnil => exact .inr ⟨handler, by simp [hnil], by simp [hnil]⟩
          · exact .inl (List.Sublist.refl _)
  | _ => exact .inl (List.Sublist.refl _)

theorem Adjustment.handlers_apply_offer (settings : Settings) (fails : Bool) (handler : Handler) :
    ((offer (if fails = true then none else some handler)).apply settings).handlers =
      if settings.handlers = [] ∧ fails = false then [handler] else settings.handlers := by
  cases fails with
  | true => simp [apply]
  | false =>
      simp only [apply, Bool.false_eq_true, if_false, and_true]
      split <;> rfl

theorem Registry.attachIfEmpty_snd (registry : Registry) (id : LoggerId) (fails : Bool)
    (handler : Handler) :
    (registry.attachIfEmpty id fun _ => if fails then none else some handler).2 =
      if registry.handlers id ≠ [] then .declined else if fails then .failed else .attached := by
  rw [attachIfEmpty]
  split
  · next hhandlers => simp [hhandlers]
  · next hhandlers =>
      cases fails <;> simp [hhandlers]

def Registry.Operation.KeepsHandlers : Operation → Prop
  | .adjust _ _ adjustment => ∀ settings, (adjustment.apply settings).handlers = settings.handlers
  | .disable _ => True

theorem Registry.handlers_performAll_of_keeps {registry : Registry} {operations : List Operation}
    (h : ∀ operation ∈ operations, operation.KeepsHandlers) (id : LoggerId) :
    (registry.performAll operations).handlers id = registry.handlers id := by
  refine settings_performAll_induction
    (motive := fun settings => settings.handlers = registry.handlers id) ?_ rfl
  intro name generations adjustment hoperation settings hsettings
  exact (h _ hoperation settings).trans hsettings

theorem RegistryCommand.keepsHandlers {command : RegistryCommand}
    {operation : Registry.Operation} (h : operation ∈ command.operations) :
    operation.KeepsHandlers := by
  have hdefault : ∀ settings, (Adjustment.setDefaultLevel.apply settings).handlers =
      settings.handlers := by
    intro settings
    rw [Adjustment.apply]
    split <;> rfl
  rcases RegistryCommand.of_mem_operations h with
    ⟨config, -, hmem⟩ | ⟨name, -, rfl⟩ | ⟨level, -, rfl⟩ | ⟨name, rfl⟩
  · rcases Registry.mem_configuring_iff.mp hmem with
      ⟨level, -, rfl⟩ | ⟨name, level, -, rfl⟩ | ⟨level, -, rfl⟩
    · exact fun _ => rfl
    · exact fun _ => rfl
    · trivial
  · exact hdefault
  · trivial
  · exact fun _ => rfl

theorem Registry.holds_of_climb? {registry : Registry} {id outer : LoggerId} {generations : Nat}
    (hid : registry.Holds id) (h : registry.climb? id generations = some outer) :
    registry.Holds outer := by
  rw [climb?_eq_getElem?] at h
  exact Nat.le_trans ((registry.ancestry_descends id).2 outer (List.mem_of_getElem? h)) hid

theorem Registry.climb?_update (registry : Registry) (changed id : LoggerId)
    (change : Settings → Settings) (generations : Nat) :
    (registry.update changed change).climb? id generations = registry.climb? id generations := by
  induction generations generalizing id with
  | zero => rfl
  | succ generations ih => rw [climb?, climb?, parent?_update, funext ih]

namespace Session

/-- One logger has these handlers now, and all others have those that they had. -/
def SetsHandlers (session next : Session) (key : String) (id : LoggerId)
    (handlers : List Handler) : Prop :=
  ∀ other place, (next.registry other).handlers place =
    if other = key ∧ place = id then handlers else (session.registry other).handlers place

/-- All loggers have the handlers that they had. -/
def KeepsHandlers (session next : Session) : Prop :=
  ∀ key id, (next.registry key).handlers id = (session.registry key).handlers id

theorem SetsHandlers.self {session next : Session} {key : String} {id : LoggerId}
    {handlers : List Handler} (h : session.SetsHandlers next key id handlers) :
    (next.registry key).handlers id = handlers :=
  (h key id).trans (if_pos ⟨rfl, rfl⟩)

/-- A command that builds no outlet changes no list, unless it adjusts the one of a logger. -/
theorem keepsHandlers_step_of_adjustment {session : Session} {command : Command}
    (hbuild : session.build? command = none)
    (hlogger : ∀ address inner, command = .logger address inner →
      ∀ settings, ((inner.adjustment session.handlers).apply settings).handlers =
        settings.handlers) :
    session.KeepsHandlers (session.step command).1 := by
  intro key id
  rw [registry_step]
  apply Registry.handlers_performAll_of_keeps
  intro operation hoperation
  rcases of_mem_operations hoperation with
    ⟨inner, -, hinner⟩ | ⟨address, inner, hcommand, -, rfl⟩ | ⟨name, generations, rfl⟩ |
      ⟨request, hrequest, -⟩
  · exact RegistryCommand.keepsHandlers hinner
  · exact hlogger address inner hcommand
  · exact fun _ => rfl
  · rw [hbuild] at hrequest
    cases hrequest

theorem keepsHandlers_step {session : Session} {command : Command}
    (hhandler : command.handler? = none) (hbuild : session.build? command = none) :
    session.KeepsHandlers (session.step command).1 := by
  apply keepsHandlers_step_of_adjustment hbuild
  rintro address inner rfl
  cases inner with
  | attach _ | detach _ | offer _ _ => cases hhandler
  | _ => exact fun _ => rfl

section

variable {session located : Session} {address : Address} {found : Option LoggerId}
  (h : session.locate address = (located, found))

include h

theorem handlers_of_locate : located.handlers = session.handlers := by
  obtain ⟨rfl, -⟩ := Prod.mk.inj h
  rfl

theorem settings_locate (key : String) (place : LoggerId) :
    (located.registry key).settings place = (session.registry key).settings place := by
  obtain ⟨rfl, -⟩ := Prod.mk.inj h
  rw [registry_setRegistry]
  split
  · next heq =>
      rw [heq, Registry.settings_obtain]
  · rfl

theorem keepsHandlers_of_locate : session.KeepsHandlers located :=
  fun key place => congrArg Settings.handlers (settings_locate h key place)

end

theorem step_ne_error_of_build? {session : Session} {command : Command} {request : BuildRequest}
    (h : session.build? command = some request) (refusal : Refusal) :
    (session.step command).2 ≠ .error refusal := by
  intro herror
  unfold build? at h
  split at h
  · cases herror
  · obtain ⟨object, hobject, -⟩ := Option.map_eq_some_iff.mp h
    simp only [step, stepObject, onObject, hobject] at herror
    cases herror
  · cases herror
  · obtain ⟨handler, hhandler, -⟩ := Option.map_eq_some_iff.mp h
    simp only [step, stepHolding, hhandler] at herror
    cases herror
  · cases h

theorem keepsHandlers_of_refused {session : Session} {command : Command} {refusal : Refusal}
    (h : (session.step command).2 = .error refusal) :
    session.KeepsHandlers (session.step command).1 := by
  have hbuild : session.build? command = none := by
    rcases hrequest : session.build? command with _ | request
    · rfl
    · exact absurd h (step_ne_error_of_build? hrequest refusal)
  cases command with
  | logger address inner =>
      rcases hlocate : session.locate address with ⟨located, found⟩
      have hkept := keepsHandlers_of_locate hlocate
      simp only [step, hlocate] at h ⊢
      rcases found with _ | id
      · exact hkept
      · -- With the logger at hand, only a handler can be missing.
        cases inner with
        | attach _ | detach _ | offer _ _ =>
            simp only [stepLogger] at h ⊢
            split at h
            · exact hkept
            · cases h
        | _ => cases h
  | _ => exact keepsHandlers_step_of_adjustment hbuild fun _ _ heq => by cases heq

section

variable {session located : Session} {address : Address} {id : LoggerId}
  (h : session.locate address = (located, some id))

include h

theorem step_logger_of_locate (command : LoggerCommand) :
    session.step (.logger address command) = located.stepLogger address.registry id command := by
  simp only [step, h]

theorem holds_of_locate : (located.registry address.registry).Holds id := by
  obtain ⟨rfl, hclimb⟩ := Prod.mk.inj h
  rw [registry_setRegistry_self]
  exact Registry.holds_of_climb? (Registry.obtain _ _).holds hclimb

theorem setsHandlers_of_update {next : Session} {change : Settings → Settings}
    (hnext : ∀ other, next.registry other =
      if other = address.registry then (located.registry address.registry).update id change
      else located.registry other) :
    session.SetsHandlers next address.registry id
      (change ((session.registry address.registry).settings id)).handlers := by
  intro other place
  rw [hnext]
  rcases Decidable.em (other = address.registry) with rfl | hne
  · rw [if_pos rfl, Registry.handlers, Registry.settings_update, settings_locate h]
    rcases Decidable.em (place = id) with rfl | hother
    · rw [if_pos ⟨rfl, holds_of_locate h⟩, if_pos ⟨rfl, rfl⟩]
    · rw [if_neg fun hself => hother hself.1, if_neg fun hself => hother hself.2, Registry.handlers]
  · rw [if_neg hne, if_neg fun hself => hne hself.1, Registry.handlers, settings_locate h,
      Registry.handlers]

/-- What is done to a logger is done to its list and to no other one. -/
theorem setsHandlers_step_logger (command : LoggerCommand) :
    session.SetsHandlers (session.step (.logger address command)).1 address.registry id
      ((command.adjustment session.handlers).apply
        ((session.registry address.registry).settings id)).handlers := by
  apply setsHandlers_of_update h
  intro other
  rw [step_logger_of_locate h, registry_stepLogger, handlers_of_locate h]

theorem exists_locate_step_logger (command : LoggerCommand) :
    ∃ next, (session.step (.logger address command)).1.locate address = (next, some id) := by
  suffices hsome : ((session.step (.logger address command)).1.locate address).2 = some id from
    ⟨_, Prod.ext rfl hsome⟩
  have hregistry : (session.step (.logger address command)).1.registry address.registry =
      ((session.registry address.registry).obtain address.name).registry.update id
        (command.adjustment session.handlers).apply := by
    rw [step_logger_of_locate h, registry_stepLogger, if_pos rfl, handlers_of_locate h]
    obtain ⟨rfl, -⟩ := Prod.mk.inj h
    rw [registry_setRegistry_self]
  have hlookup : ((session.step (.logger address command)).1.registry address.registry).lookup?
      address.name = some ((session.registry address.registry).obtain address.name).id := by
    rw [hregistry, Registry.lookup?_update, Registry.lookup?_obtain_self]
  simp only [locate, Registry.obtain_eq_of_lookup? hlookup]
  rw [hregistry, Registry.climb?_update]
  exact (Prod.mk.inj h).2

end

/-- The lists of a session have no repetitions, and what is on them has been made in it or is a
standard handler. -/
structure ListsHandlers (session : Session) : Prop where
  once : ∀ key, (session.registry key).AttachesOnce
  made : ∀ key id, ∀ handler ∈ (session.registry key).handlers id,
    handler.IsMade session.handlers
  names : session.NamesHandlers

theorem listsHandlers_fresh (moment : Moment) : ListsHandlers { moment } where
  once := fun key => by
    rw [registry_fresh]
    exact Registry.attachesOnce_fresh
  made := by
    intro key id handler hmem
    cases id <;> cases hmem
  names := namesHandlers_fresh moment

theorem ListsHandlers.step {session : Session} (h : session.ListsHandlers) (command : Command) :
    (session.step command).1.ListsHandlers where
  once := fun key => by
    rw [registry_step]
    exact (h.once key).performAll _
  made := by
    intro key id handler hmem
    rcases mem_handlers_step hmem with hheld | ⟨-, hstandard | ⟨place, -, hhandler⟩⟩
    · exact (h.made key id handler hheld).mono fun _ _ hmade => get?_handlers_step hmade command
    · exact .inl hstandard
    · exact .inr ⟨place, h.names place handler hhandler, get?_handlers_step hhandler command⟩
  names := h.names.step command

theorem listsHandlers_run (moment : Moment) (commands : List Command) :
    (run { moment } commands).1.ListsHandlers := by
  suffices hrun : ∀ session : Session, session.ListsHandlers →
      (session.run commands).1.ListsHandlers from hrun _ (listsHandlers_fresh moment)
  induction commands with
  | nil => exact fun _ h => h
  | cons command rest ih => exact fun session h => ih _ (h.step command)

section

variable {session : Session} (h : session.ListsHandlers) {handlerKey : String} {handler : Handler}
  (hhandler : session.handlers.get? handlerKey = some handler)

include h

theorem ListsHandlers.nodup (key : String) (id : LoggerId) :
    ((session.registry key).handlers id).Nodup :=
  (h.once key id).of_map

include hhandler

theorem ListsHandlers.eq_of_id_eq {held : Handler} (hheld : held.IsMade session.handlers)
    (heq : held.id = handler.id) : held = handler := by
  rw [h.names handlerKey handler hhandler] at heq
  rcases hheld with rfl | ⟨place, hid, hmade⟩
  · cases heq
  · rw [hid] at heq
    rw [HandlerId.named.inj heq, hhandler] at hmade
    exact (Option.some.inj hmade).symm

theorem ListsHandlers.hasHandler_eq (key : String) (id : LoggerId) :
    ((session.registry key).settings id).hasHandler handler.id =
      decide (handler ∈ (session.registry key).handlers id) := by
  rw [Bool.eq_iff_iff, decide_eq_true_iff]
  constructor
  · intro hhas
    obtain ⟨held, hheld, heq⟩ := List.any_eq_true.mp hhas
    rwa [h.eq_of_id_eq hhandler (h.made key id held hheld) (of_decide_eq_true heq)] at hheld
  · exact Settings.hasHandler_of_mem

theorem ListsHandlers.handlers_attach (key : String) (id : LoggerId) :
    (((session.registry key).settings id).attach handler).handlers =
      if handler ∈ (session.registry key).handlers id then (session.registry key).handlers id
      else (session.registry key).handlers id ++ [handler] := by
  rw [Settings.attach, h.hasHandler_eq hhandler]
  simp only [decide_eq_true_eq]
  split <;> rfl

theorem ListsHandlers.handlers_detach (key : String) (id : LoggerId) :
    (((session.registry key).settings id).detach handler.id).handlers =
      ((session.registry key).handlers id).erase handler := by
  rw [(h.nodup key id).erase_eq_filter]
  apply List.filter_congr
  intro held hheld
  rcases Decidable.em (held = handler) with rfl | hne
  · simp
  · have hid : held.id ≠ handler.id := fun heq =>
      hne (h.eq_of_id_eq hhandler (h.made key id held hheld) heq)
    simp [hne, hid]

end

/-- What commands do to lists of handlers. -/
structure OrdersHandlers (session : Session) : Prop where
  /-- A handler that is not on the logger is attached behind the others. -/
  attach : ∀ address located id handlerKey handler,
    session.locate address = (located, some id) →
    session.handlers.get? handlerKey = some handler →
    let held := (session.registry address.registry).handlers id
    let after := if handler ∈ held then held else held ++ [handler]
    let outcome := session.step (.logger address (.attach handlerKey))
    session.SetsHandlers outcome.1 address.registry id after ∧
      outcome.2 = .ok (.attachment (handler ∉ held) (after.map Handler.id))
  /-- A handler that is on the logger goes and leaves the others in their order. -/
  detach : ∀ address located id handlerKey handler,
    session.locate address = (located, some id) →
    session.handlers.get? handlerKey = some handler →
    let held := (session.registry address.registry).handlers id
    let after := held.erase handler
    let outcome := session.step (.logger address (.detach handlerKey))
    session.SetsHandlers outcome.1 address.registry id after ∧
      outcome.2 = .ok (.attachment (handler ∈ held) (after.map Handler.id))
  /-- A logger without handlers asks for the one that is offered and gets it if it can be made. -/
  offer : ∀ address located id handlerKey handler fails,
    session.locate address = (located, some id) →
    session.handlers.get? handlerKey = some handler →
    let held := (session.registry address.registry).handlers id
    let after := if held = [] ∧ fails = false then [handler] else held
    let offer : Offer := if held ≠ [] then .declined else if fails then .failed else .attached
    let outcome := session.step (.logger address (.offer handlerKey fails))
    session.SetsHandlers outcome.1 address.registry id after ∧
      outcome.2 = .ok (.offer offer (after.map Handler.id))
  /-- Building an outlet is an offer to the logger of its name, if the outlet asks for output. -/
  build : ∀ command request, session.build? command = some request →
    let next := (session.step command).1
    ∃ id, (next.registry request.registry).lookup? request.name = some id ∧
      let held := (session.registry request.registry).handlers id
      session.SetsHandlers next request.registry id
        (if request.echo.isEnabled = true ∧ held = [] then [request.handler] else held)
  /-- All other commands leave all lists, and so do those that are refused. -/
  others : ∀ command,
    command.handler? = none ∧ session.build? command = none ∨
      (∃ refusal, (session.step command).2 = .error refusal) →
    session.KeepsHandlers (session.step command).1
  /-- Detaching a handler that has just been attached leaves all lists as they were. -/
  restore : ∀ address located id handlerKey handler,
    session.locate address = (located, some id) →
    session.handlers.get? handlerKey = some handler →
    handler ∉ (session.registry address.registry).handlers id →
    session.KeepsHandlers (session.run [.logger address (.attach handlerKey),
      .logger address (.detach handlerKey)]).1

section

variable {session located : Session} (h : session.ListsHandlers) {address : Address}
  {id : LoggerId} {handlerKey : String} {handler : Handler}
  (hlocate : session.locate address = (located, some id))
  (hhandler : session.handlers.get? handlerKey = some handler)

include h hlocate hhandler

theorem ListsHandlers.step_attach :
    let held := (session.registry address.registry).handlers id
    let after := if handler ∈ held then held else held ++ [handler]
    let outcome := session.step (.logger address (.attach handlerKey))
    session.SetsHandlers outcome.1 address.registry id after ∧
      outcome.2 = .ok (.attachment (handler ∉ held) (after.map Handler.id)) := by
  intro held after outcome
  have hsets := setsHandlers_step_logger hlocate (.attach handlerKey)
  simp only [LoggerCommand.adjustment, hhandler, Adjustment.apply,
    h.handlers_attach hhandler] at hsets
  refine ⟨hsets, ?_⟩
  have hself := hsets.self
  simp only [outcome, step_logger_of_locate hlocate, stepLogger, handlers_of_locate hlocate,
    hhandler, answer, registry_setRegistry_self] at hself ⊢
  rw [Registry.handlerIds, hself, Registry.attach, settings_locate hlocate,
    h.hasHandler_eq hhandler, ← decide_not]

theorem ListsHandlers.step_detach :
    let held := (session.registry address.registry).handlers id
    let after := held.erase handler
    let outcome := session.step (.logger address (.detach handlerKey))
    session.SetsHandlers outcome.1 address.registry id after ∧
      outcome.2 = .ok (.attachment (handler ∈ held) (after.map Handler.id)) := by
  intro held after outcome
  have hsets := setsHandlers_step_logger hlocate (.detach handlerKey)
  simp only [LoggerCommand.adjustment, hhandler, Adjustment.apply,
    h.handlers_detach hhandler] at hsets
  refine ⟨hsets, ?_⟩
  have hself := hsets.self
  simp only [outcome, step_logger_of_locate hlocate, stepLogger, handlers_of_locate hlocate,
    hhandler, answer, registry_setRegistry_self] at hself ⊢
  rw [Registry.handlerIds, hself, Registry.detach, settings_locate hlocate,
    h.hasHandler_eq hhandler]

omit h in
theorem step_offer (fails : Bool) :
    let held := (session.registry address.registry).handlers id
    let after := if held = [] ∧ fails = false then [handler] else held
    let offer : Offer := if held ≠ [] then .declined else if fails then .failed else .attached
    let outcome := session.step (.logger address (.offer handlerKey fails))
    session.SetsHandlers outcome.1 address.registry id after ∧
      outcome.2 = .ok (.offer offer (after.map Handler.id)) := by
  intro held after offer outcome
  have hsets := setsHandlers_step_logger hlocate (.offer handlerKey fails)
  simp only [LoggerCommand.adjustment, hhandler, Adjustment.handlers_apply_offer] at hsets
  refine ⟨hsets, ?_⟩
  have hself := hsets.self
  simp only [outcome, step_logger_of_locate hlocate, stepLogger, handlers_of_locate hlocate,
    hhandler, answer, registry_setRegistry_self] at hself ⊢
  rw [Registry.handlerIds, hself, Registry.attachIfEmpty_snd, Registry.handlers,
    settings_locate hlocate]
  rfl

theorem ListsHandlers.restore
    (hnext : (session.step (.logger address (.attach handlerKey))).1.ListsHandlers)
    (hfresh : handler ∉ (session.registry address.registry).handlers id) :
    session.KeepsHandlers (session.run [.logger address (.attach handlerKey),
      .logger address (.detach handlerKey)]).1 := by
  obtain ⟨hattach, -⟩ := h.step_attach hlocate hhandler
  obtain ⟨again, hagain⟩ := exists_locate_step_logger hlocate (.attach handlerKey)
  have hkept : (session.step (.logger address (.attach handlerKey))).1.handlers.get? handlerKey =
      some handler := by
    rw [handlers_step]
    exact hhandler
  obtain ⟨hdetach, -⟩ := hnext.step_detach hagain hkept
  rw [hattach.self, if_neg hfresh, List.erase_append_right _ hfresh, List.erase_cons_head,
    List.append_nil] at hdetach
  intro key place
  rw [run_cons_fst, run_cons_fst, run_nil, hdetach, hattach]
  rcases Decidable.em (key = address.registry ∧ place = id) with hself | hother
  · obtain ⟨rfl, rfl⟩ := hself
    rw [if_pos ⟨rfl, rfl⟩]
  · rw [if_neg hother, if_neg hother]

end

theorem setsHandlers_step_of_build? {session : Session} {command : Command}
    {request : BuildRequest} (h : session.build? command = some request) :
    let next := (session.step command).1
    ∃ id, (next.registry request.registry).lookup? request.name = some id ∧
      let held := (session.registry request.registry).handlers id
      session.SetsHandlers next request.registry id
        (if request.echo.isEnabled = true ∧ held = [] then [request.handler] else held) := by
  obtain ⟨id, hlookup, hhandlers⟩ := handlers_step_of_build? h
  refine ⟨id, hlookup, ?_⟩
  intro held key place
  rw [hhandlers]
  rcases Decidable.em (key = request.registry ∧ place = id) with hself | hother
  · obtain ⟨rfl, rfl⟩ := hself
    simp only [true_and, and_self, if_true, held]
  · rw [if_neg hother, if_neg fun hbuilt => hother ⟨hbuilt.1, hbuilt.2.1⟩]

theorem ListsHandlers.orders {session : Session} (h : session.ListsHandlers) :
    session.OrdersHandlers := by
  refine ⟨?_, ?_, ?_, ?_, ?_, ?_⟩
  · intro address located id handlerKey handler hlocate hhandler
    exact h.step_attach hlocate hhandler
  · intro address located id handlerKey handler hlocate hhandler
    exact h.step_detach hlocate hhandler
  · intro address located id handlerKey handler fails hlocate hhandler
    exact step_offer hlocate hhandler fails
  · intro command request hbuild
    exact setsHandlers_step_of_build? hbuild
  · rintro command (⟨hhandler, hbuild⟩ | ⟨refusal, hrefused⟩)
    · exact keepsHandlers_step hhandler hbuild
    · exact keepsHandlers_of_refused hrefused
  · intro address located id handlerKey handler hlocate hhandler hfresh
    exact h.restore hlocate hhandler (h.step _) hfresh

def handlersAfter (session : Session) (commands : List Command) (key : String) (id : LoggerId)
    (count : Nat) : List Handler :=
  ((session.run (commands.take count)).1.registry key).handlers id

/-- A handler was attached to a logger by the command at a position, and stayed there. -/
structure AttachedLast (session : Session) (commands : List Command) (key : String)
    (id : LoggerId) (handler : Handler) (position : Nat) : Prop where
  lt_length : position < commands.length
  absent : handler ∉ session.handlersAfter commands key id position
  present : ∀ count, position < count → count ≤ commands.length →
    handler ∈ session.handlersAfter commands key id count

theorem AttachedLast.unique {session : Session} {commands : List Command} {key : String}
    {id : LoggerId} {handler : Handler} {first second : Nat}
    (hfirst : session.AttachedLast commands key id handler first)
    (hsecond : session.AttachedLast commands key id handler second) : first = second := by
  rcases Nat.lt_trichotomy first second with hlt | heq | hgt
  · exact absurd (hfirst.present second hlt (Nat.le_of_lt hsecond.lt_length)) hsecond.absent
  · exact heq
  · exact absurd (hsecond.present first hgt (Nat.le_of_lt hfirst.lt_length)) hfirst.absent

theorem handlers_step_cases (session : Session) (command : Command) (key : String)
    (id : LoggerId) :
    (((session.step command).1.registry key).handlers id).Sublist
        ((session.registry key).handlers id) ∨
      ∃ handler, handler ∉ (session.registry key).handlers id ∧
        ((session.step command).1.registry key).handlers id =
          (session.registry key).handlers id ++ [handler] := by
  have hkeeps : session.KeepsHandlers (session.step command).1 →
      (((session.step command).1.registry key).handlers id).Sublist
        ((session.registry key).handlers id) := by
    intro hkept
    rw [hkept]
  rcases hrequest : session.build? command with _ | request
  · cases command with
    | logger address inner =>
        rcases hlocate : session.locate address with ⟨located, _ | place⟩
        · have hrefused : (session.step (.logger address inner)).2 = .error .noParent := by
            simp only [step, hlocate, refuse]
          exact .inl (hkeeps (keepsHandlers_of_refused hrefused))
        · rw [setsHandlers_step_logger hlocate inner key id]
          split
          · next hself =>
              obtain ⟨rfl, rfl⟩ := hself
              exact Adjustment.handlers_apply_cases _ _
          · exact .inl (List.Sublist.refl _)
    | _ => exact .inl (hkeeps (keepsHandlers_step_of_adjustment hrequest fun _ _ h => by cases h))
  · obtain ⟨place, -, hsets⟩ := setsHandlers_step_of_build? hrequest
    rw [hsets key id]
    split
    · next hself =>
        obtain ⟨rfl, rfl⟩ := hself
        split
        · next hbuilt => exact .inr ⟨request.handler, by simp [hbuilt.2], by simp [hbuilt.2]⟩
        · exact .inl (List.Sublist.refl _)
    · exact .inl (List.Sublist.refl _)

section

variable {session : Session} {commands : List Command} {key : String} {id : LoggerId}

theorem handlersAfter_append {count : Nat} (h : count ≤ commands.length) (rest : List Command) :
    session.handlersAfter (commands ++ rest) key id count =
      session.handlersAfter commands key id count := by
  rw [handlersAfter, List.take_append_of_le_length h, handlersAfter]

theorem handlersAfter_length : session.handlersAfter commands key id commands.length =
    ((session.run commands).1.registry key).handlers id := by
  rw [handlersAfter, List.take_length]

theorem AttachedLast.append {handler : Handler} {position : Nat}
    (h : session.AttachedLast commands key id handler position) {command : Command}
    (hstays : handler ∈ ((session.run (commands ++ [command])).1.registry key).handlers id) :
    session.AttachedLast (commands ++ [command]) key id handler position := by
  have hlength : (commands ++ [command]).length = commands.length + 1 := List.length_append
  have hlt := h.lt_length
  refine ⟨by omega, ?_, ?_⟩
  · rw [handlersAfter_append (by omega)]
    exact h.absent
  · intro count hafter hcount
    rcases Decidable.em (count ≤ commands.length) with hle | hlast
    · rw [handlersAfter_append hle]
      exact h.present count hafter hle
    · obtain rfl : count = (commands ++ [command]).length := by omega
      rw [handlersAfter_length]
      exact hstays

theorem attachedLast_append {handler : Handler} {command : Command}
    (hfresh : handler ∉ ((session.run commands).1.registry key).handlers id)
    (hattached : handler ∈ ((session.run (commands ++ [command])).1.registry key).handlers id) :
    session.AttachedLast (commands ++ [command]) key id handler commands.length := by
  have hlength : (commands ++ [command]).length = commands.length + 1 := List.length_append
  refine ⟨by omega, ?_, ?_⟩
  · rw [handlersAfter_append (Nat.le_refl _), handlersAfter_length]
    exact hfresh
  · intro count hafter hcount
    obtain rfl : count = (commands ++ [command]).length := by omega
    rw [handlersAfter_length]
    exact hattached

end

/-- The handlers of a logger stand in the order in which they were attached last. -/
structure AttachedInOrder (session : Session) (commands : List Command) (key : String)
    (id : LoggerId) (handlers : List Handler) : Prop where
  attached : ∀ handler ∈ handlers,
    ∃ position, session.AttachedLast commands key id handler position
  ordered : handlers.Pairwise fun handler later => ∀ first second,
    session.AttachedLast commands key id handler first →
    session.AttachedLast commands key id later second → first < second

theorem attachedInOrder_run (moment : Moment) (commands : List Command) (key : String)
    (id : LoggerId) : AttachedInOrder { moment } commands key id
      (((run { moment } commands).1.registry key).handlers id) := by
  induction commands using List.reverseRecOn with
  | nil =>
      have hnil : ((run { moment } []).1.registry key).handlers id = [] := by
        rw [run_nil, registry_fresh]
        cases id <;> rfl
      rw [hnil]
      exact ⟨fun _ hmem => (List.not_mem_nil hmem).elim, List.Pairwise.nil⟩
  | append_singleton commands command ih =>
      -- Where a handler was attached last does not change as long as it stays.
      have hback : ∀ handler position,
          handler ∈ ((run { moment } commands).1.registry key).handlers id →
          handler ∈ ((run { moment } (commands ++ [command])).1.registry key).handlers id →
          AttachedLast { moment } (commands ++ [command]) key id handler position →
          AttachedLast { moment } commands key id handler position := by
        intro handler position hheld hstays hlast
        obtain ⟨before, hbefore⟩ := ih.attached handler hheld
        rwa [hlast.unique (hbefore.append hstays)]
      have hstep := handlers_step_cases (run { moment } commands).1 command key id
      rw [← run_append_singleton_fst] at hstep
      rcases hstep with hsublist | ⟨handler, hfresh, heq⟩
      · refine ⟨?_, ?_⟩
        · intro handler hmem
          obtain ⟨position, hposition⟩ := ih.attached handler (hsublist.subset hmem)
          exact ⟨position, hposition.append hmem⟩
        · refine (ih.ordered.sublist hsublist).imp_of_mem ?_
          intro earlier later hearlier hlater horder first second hfirst hsecond
          exact horder first second
            (hback earlier first (hsublist.subset hearlier) hearlier hfirst)
            (hback later second (hsublist.subset hlater) hlater hsecond)
      · have hstays : ∀ held ∈ ((run { moment } commands).1.registry key).handlers id,
            held ∈ ((run { moment } (commands ++ [command])).1.registry key).handlers id := by
          intro held hheld
          rw [heq]
          exact List.mem_append_left _ hheld
        have hnew : AttachedLast { moment } (commands ++ [command]) key id handler
            commands.length := by
          refine attachedLast_append hfresh ?_
          rw [heq]
          exact List.mem_append_right _ (List.mem_singleton_self _)
        rw [heq]
        refine ⟨?_, List.pairwise_append.mpr ⟨?_, List.pairwise_singleton _ _, ?_⟩⟩
        · intro held hmem
          rcases List.mem_append.mp hmem with hheld | hadded
          · obtain ⟨position, hposition⟩ := ih.attached held hheld
            exact ⟨position, hposition.append (hstays held hheld)⟩
          · rw [List.mem_singleton.mp hadded]
            exact ⟨commands.length, hnew⟩
        · refine ih.ordered.imp_of_mem ?_
          intro earlier later hearlier hlater horder first second hfirst hsecond
          exact horder first second (hback earlier first hearlier (hstays _ hearlier) hfirst)
            (hback later second hlater (hstays _ hlater) hsecond)
        · intro held hheld later hlater first second hfirst hsecond
          rw [List.mem_singleton.mp hlater] at hsecond
          rw [hsecond.unique hnew]
          exact (hback held first hheld (hstays held hheld) hfirst).lt_length

/-- However handlers are attached, offered and detached and outlets are built, the handlers of a
logger are all different and stand in the order in which they were attached last, each where one
command put it. What commands say about them is so, and no command changes the handlers of two
loggers. -/
theorem handlers_are_ordered_sets (moment : Moment) (commands : List Command) :
    let session := (run { moment } commands).1
    (∀ key id, (((session.registry key).handlers id).map Handler.id).Nodup ∧
      AttachedInOrder { moment } commands key id ((session.registry key).handlers id)) ∧
      session.OrdersHandlers := by
  intro session
  have hlists := listsHandlers_run moment commands
  refine ⟨?_, hlists.orders⟩
  intro key id
  exact ⟨hlists.once key id, attachedInOrder_run moment commands key id⟩

end Session

end LogTree

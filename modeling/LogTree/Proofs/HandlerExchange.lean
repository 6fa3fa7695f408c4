import LogTree.Proofs.RecordDispatch
import LogTree.Proofs.Suppression
import LogTree.Registry.Report

/-!
Handlers that put their records elsewhere. Registries look at who a handler is and at what it
accepts, never at where its records go: with other destinations behind the same handlers a registry
answers alike, and the same operations come to the same.
-/

namespace LogTree

/-- Other destinations for handlers. The standard handler keeps its own. -/
structure HandlerChange where
  destination : Handler → Destination
  standard_eq : destination .standard = Handler.standard.destination

namespace HandlerChange

def apply (change : HandlerChange) (handler : Handler) : Handler :=
  { handler with destination := change.destination handler }

def none : HandlerChange :=
  { destination := Handler.destination, standard_eq := rfl }

variable (change : HandlerChange)

@[simp] theorem apply_standard : change.apply .standard = .standard := by
  rw [apply, change.standard_eq]

theorem map_handlerId (handlers : List Handler) :
    (handlers.map change.apply).map Handler.id = handlers.map Handler.id :=
  List.map_map

end HandlerChange

def Settings.exchange (settings : Settings) (change : HandlerChange) : Settings :=
  { settings with handlers := settings.handlers.map change.apply }

def Adjustment.exchange (change : HandlerChange) : Adjustment → Adjustment
  | attach handler => attach (change.apply handler)
  | offer handler => offer (handler.map change.apply)
  | adjustment => adjustment

theorem Settings.hasHandler_exchange (settings : Settings) (change : HandlerChange)
    (id : HandlerId) : (settings.exchange change).hasHandler id = settings.hasHandler id :=
  List.any_map

theorem Adjustment.apply_exchange (adjustment : Adjustment) (change : HandlerChange)
    (settings : Settings) :
    (adjustment.exchange change).apply (settings.exchange change) =
      (adjustment.apply settings).exchange change := by
  cases adjustment with
  | keep => rfl
  | setLevel level => rfl
  | setDefaultLevel =>
      simp only [exchange, apply, Settings.exchange]
      split <;> rfl
  | setPropagate propagate => rfl
  | attach handler =>
      have hheld := settings.hasHandler_exchange change handler.id
      simp only [exchange, apply, Settings.attach]
      rw [show (change.apply handler).id = handler.id from rfl, hheld]
      split
      · rfl
      · simp only [Settings.exchange, List.map_append, List.map_cons, List.map_nil]
  | detach handler =>
      simp only [exchange, apply, Settings.detach, Settings.exchange, List.filter_map]
      rfl
  | offer handler =>
      cases handler with
      | none => rfl
      | some handler =>
          simp only [exchange, apply, Option.map_some, Settings.exchange, List.map_eq_nil_iff]
          split <;> rfl

namespace Registry

/-- The registry with other destinations behind its handlers. -/
def exchange (registry : Registry) (change : HandlerChange) : Registry :=
  { registry with
    root := registry.root.exchange change
    loggers := registry.loggers.map fun logger =>
      { logger with settings := logger.settings.exchange change }
    parent_le := by
      intro k logger h
      rw [List.getElem?_map] at h
      obtain ⟨held, hheld, rfl⟩ := Option.map_eq_some_iff.mp h
      exact registry.parent_le k held hheld }

section

variable (registry : Registry) (change : HandlerChange)

theorem settings_exchange (id : LoggerId) :
    (registry.exchange change).settings id = (registry.settings id).exchange change := by
  cases id with
  | zero => rfl
  | succ k =>
      simp only [settings, exchange, List.getElem?_map]
      cases registry.loggers[k]? <;> rfl

theorem sameLoggers_exchange : registry.SameLoggers (registry.exchange change) := by
  rw [SameLoggers, identities, identities, exchange, List.map_map]
  rfl

@[simp] theorem disabledAt_exchange :
    (registry.exchange change).disabledAt = registry.disabledAt :=
  rfl

@[simp] theorem level_exchange (id : LoggerId) :
    (registry.exchange change).level id = registry.level id := by
  rw [level, settings_exchange]
  rfl

@[simp] theorem propagate_exchange (id : LoggerId) :
    (registry.exchange change).propagate id = registry.propagate id := by
  rw [propagate, settings_exchange]
  rfl

theorem handlers_exchange (id : LoggerId) :
    (registry.exchange change).handlers id = (registry.handlers id).map change.apply :=
  congrArg Settings.handlers (registry.settings_exchange change id)

end

theorem SameLoggers.eq_exchange {registry other : Registry} {change : HandlerChange}
    (h : registry.SameLoggers other)
    (hsettings : ∀ id, other.settings id = (registry.settings id).exchange change)
    (hdisabled : other.disabledAt = registry.disabledAt) : other = registry.exchange change := by
  have hsame : (registry.exchange change).SameLoggers other :=
    Eq.trans h (registry.sameLoggers_exchange change).symm
  have heq := hsame.eq_disable fun id => by
    rw [hsettings, settings_exchange]
  rw [hdisabled] at heq
  exact heq

theorem exchange_none (registry : Registry) : registry.exchange .none = registry := by
  have hsettings : ∀ id, registry.settings id = (registry.settings id).exchange .none := by
    intro id
    have hhandlers : (registry.settings id).handlers.map HandlerChange.none.apply =
        (registry.settings id).handlers :=
      List.map_id' _
    rw [Settings.exchange, hhandlers]
  have hsame : registry.SameLoggers registry := rfl
  exact (hsame.eq_exchange hsettings rfl).symm

section

variable (registry : Registry) (change : HandlerChange)

@[simp] theorem name_exchange (id : LoggerId) :
    (registry.exchange change).name id = registry.name id :=
  (registry.sameLoggers_exchange change).name_eq id

@[simp] theorem parent?_exchange (id : LoggerId) :
    (registry.exchange change).parent? id = registry.parent? id :=
  (registry.sameLoggers_exchange change).parent?_eq id

@[simp] theorem names_exchange : (registry.exchange change).names = registry.names :=
  (registry.sameLoggers_exchange change).names_eq

@[simp] theorem lookup?_exchange (name : String) :
    (registry.exchange change).lookup? name = registry.lookup? name :=
  (registry.sameLoggers_exchange change).lookup?_eq name

@[simp] theorem contains_exchange (name : String) :
    (registry.exchange change).contains name = registry.contains name := by
  rw [contains, contains, (registry.sameLoggers_exchange change).find?_eq]

@[simp] theorem climb?_exchange (id : LoggerId) (generations : Nat) :
    (registry.exchange change).climb? id generations = registry.climb? id generations :=
  (registry.sameLoggers_exchange change).climb?_eq id generations

@[simp] theorem effectiveLevel_exchange (id : LoggerId) :
    (registry.exchange change).effectiveLevel id = registry.effectiveLevel id :=
  (registry.sameLoggers_exchange change).effectiveLevel_eq (registry.level_exchange change) id

@[simp] theorem isDisabled_exchange (level : Level) :
    (registry.exchange change).isDisabled level = registry.isDisabled level :=
  rfl

@[simp] theorem isShared_exchange (id : LoggerId) :
    (registry.exchange change).isShared id = registry.isShared id := by
  rw [isShared, isShared, lookup?_exchange, name_exchange]

@[simp] theorem handlerIds_exchange (id : LoggerId) :
    (registry.exchange change).handlerIds id = registry.handlerIds id := by
  rw [handlerIds, handlerIds, handlers_exchange, change.map_handlerId]

@[simp] theorem hasOwnHandlers_exchange (id : LoggerId) :
    (registry.exchange change).hasOwnHandlers id = registry.hasOwnHandlers id := by
  rw [hasOwnHandlers, hasOwnHandlers, handlers_exchange, List.isEmpty_map]

@[simp] theorem hasHandlers_exchange (id : LoggerId) :
    (registry.exchange change).hasHandlers id = registry.hasHandlers id := by
  induction id using Nat.strongRecOn with
  | ind id ih =>
      rw [hasHandlers, hasHandlers, hasOwnHandlers_exchange, propagate_exchange,
        parent?_exchange]
      congr 2
      split
      · rfl
      · next outer houter => exact ih outer (parent?_lt houter)

@[simp] theorem ancestry_exchange (id : LoggerId) :
    (registry.exchange change).ancestry id = registry.ancestry id := by
  induction id using Nat.strongRecOn with
  | ind id ih =>
      have hsame := registry.parent?_exchange change id
      cases hparent : registry.parent? id with
      | none =>
          rw [ancestry_of_parent?_eq_none hparent,
            ancestry_of_parent?_eq_none (hsame.trans hparent)]
      | some outer =>
          rw [ancestry_of_parent? hparent, ancestry_of_parent? (hsame.trans hparent),
            ih outer (parent?_lt hparent)]

@[simp] theorem report_exchange (id : LoggerId) :
    (registry.exchange change).report id = registry.report id := by
  simp only [report, name_exchange, level_exchange, effectiveLevel_exchange, propagate_exchange,
    parent?_exchange, hasOwnHandlers_exchange, hasHandlers_exchange, handlerIds_exchange,
    funext (registry.name_exchange change)]

@[simp] theorem describe_exchange (id : LoggerId) :
    (registry.exchange change).describe id = registry.describe id := by
  unfold describe
  simp only [name_exchange, level_exchange, propagate_exchange, parent?_exchange,
    handlers_exchange, List.length_map]

theorem passed_exchange (id : LoggerId) :
    (registry.exchange change).passed id = (registry.passed id).map change.apply := by
  have hvisited : (registry.exchange change).visited id = registry.visited id := by
    simp only [visited, ancestry_exchange, propagate_exchange]
  rw [passed, passed, hvisited, List.map_flatMap, funext (registry.handlers_exchange change)]

@[simp] theorem id_obtain_exchange (name : String) :
    ((registry.exchange change).obtain name).id = (registry.obtain name).id :=
  ((registry.sameLoggers_exchange change).obtain name).2

@[simp] theorem registry_obtain_exchange (name : String) :
    ((registry.exchange change).obtain name).registry =
      (registry.obtain name).registry.exchange change :=
  ((registry.sameLoggers_exchange change).obtain name).1.eq_exchange
    (fun id => by rw [settings_obtain, settings_obtain, settings_exchange])
    (by rw [disabledAt_obtain, disabledAt_obtain, disabledAt_exchange])

theorem update_exchange (id : LoggerId) (adjustment : Adjustment) :
    (registry.exchange change).update id (adjustment.exchange change).apply =
      (registry.update id adjustment.apply).exchange change := by
  have hsame : (registry.update id adjustment.apply).SameLoggers
      ((registry.exchange change).update id (adjustment.exchange change).apply) := by
    rw [SameLoggers, identities_update, identities_update]
    exact registry.sameLoggers_exchange change
  refine hsame.eq_exchange (fun other => ?_) ?_
  · have hholds := (registry.sameLoggers_exchange change).holds_iff id
    rw [settings_update, settings_update, settings_exchange, adjustment.apply_exchange]
    simp only [hholds]
    split <;> rfl
  · rw [disabledAt_update, disabledAt_update, disabledAt_exchange]

end

def Operation.exchange (change : HandlerChange) : Operation → Operation
  | adjust name generations adjustment =>
      adjust name generations (adjustment.exchange change)
  | disable level => disable level

theorem perform_exchange (registry : Registry) (change : HandlerChange) (operation : Operation) :
    (registry.exchange change).perform (operation.exchange change) =
      (registry.perform operation).exchange change := by
  cases operation with
  | adjust name generations adjustment =>
      simp only [Operation.exchange, perform, registry_obtain_exchange, id_obtain_exchange,
        climb?_exchange]
      split
      · rfl
      · exact update_exchange _ change _ adjustment
  | disable level => rfl

theorem map_exchange_configuring (config : Config) (change : HandlerChange) :
    (configuring config).map (Operation.exchange change) = configuring config := by
  rw [configuring, List.map_append, List.map_append, List.map_map]
  cases config.root <;> cases config.disable <;> rfl

theorem performAll_exchange (registry : Registry) (change : HandlerChange)
    (operations : List Operation) :
    (registry.exchange change).performAll (operations.map (Operation.exchange change)) =
      (registry.performAll operations).exchange change := by
  induction operations generalizing registry with
  | nil => rfl
  | cons operation rest ih =>
      rw [List.map_cons, performAll_cons, performAll_cons, perform_exchange, ih]

section

variable (registry : Registry) (change : HandlerChange)

theorem configure_exchange (config : Config) :
    (registry.exchange change).configure config = (registry.configure config).exchange change := by
  rw [← performAll_configuring, ← performAll_configuring, ← performAll_exchange,
    map_exchange_configuring]

theorem setLevel_exchange (id : LoggerId) (level : Level) :
    (registry.exchange change).setLevel id level = (registry.setLevel id level).exchange change :=
  registry.update_exchange change id (.setLevel level)

theorem setPropagate_exchange (id : LoggerId) (propagate : Bool) :
    (registry.exchange change).setPropagate id propagate =
      (registry.setPropagate id propagate).exchange change :=
  registry.update_exchange change id (.setPropagate propagate)

theorem installDefaultLevel_exchange (name : String) :
    (registry.exchange change).installDefaultLevel name =
      ((registry.installDefaultLevel name).1.exchange change,
        (registry.installDefaultLevel name).2) := by
  simp only [installDefaultLevel, registry_obtain_exchange, id_obtain_exchange, level_exchange,
    setLevel_exchange]
  split <;> rfl

theorem sameLogger_exchange (name other : String) :
    (registry.exchange change).sameLogger name other =
      ((registry.sameLogger name other).1.exchange change, (registry.sameLogger name other).2) := by
  simp only [sameLogger, registry_obtain_exchange, id_obtain_exchange]

theorem attach_exchange (id : LoggerId) (handler : Handler) :
    (registry.exchange change).attach id (change.apply handler) =
      ((registry.attach id handler).1.exchange change, (registry.attach id handler).2) := by
  refine Prod.ext (registry.update_exchange change id (.attach handler)) ?_
  rw [attach, attach, settings_exchange, Settings.hasHandler_exchange]
  rfl

theorem detach_exchange (id : LoggerId) (handler : HandlerId) :
    (registry.exchange change).detach id handler =
      ((registry.detach id handler).1.exchange change, (registry.detach id handler).2) := by
  refine Prod.ext (registry.update_exchange change id (.detach handler)) ?_
  rw [detach, detach, settings_exchange, Settings.hasHandler_exchange]

theorem attachIfEmpty_exchange (id : LoggerId) (handler : Option Handler) :
    (registry.exchange change).attachIfEmpty id (fun _ => handler.map change.apply) =
      ((registry.attachIfEmpty id fun _ => handler).1.exchange change,
        (registry.attachIfEmpty id fun _ => handler).2) := by
  refine Prod.ext ?_ ?_
  · rw [attachIfEmpty_fst, attachIfEmpty_fst]
    exact registry.update_exchange change id (.offer handler)
  · rw [attachIfEmpty, attachIfEmpty, handlers_exchange]
    cases registry.handlers id with
    | cons first rest => rfl
    | nil => cases handler <;> rfl

theorem buildWith_exchange (name : String) (echo : Echo) (handler : Handler) :
    (registry.exchange change).buildWith name echo (fun _ => some (change.apply handler)) =
      { registry.buildWith name echo fun _ => some handler with
        registry := (registry.buildWith name echo fun _ => some handler).registry.exchange
          change } := by
  have hattach := ((registry.obtain name).registry).attachIfEmpty_exchange change
    (registry.obtain name).id (some handler)
  rw [Option.map_some] at hattach
  simp only [buildWith, registry_obtain_exchange, id_obtain_exchange, hattach]
  cases echo.level? <;> rfl

theorem build_exchange (name : String) (echo : Echo) :
    (registry.exchange change).build name echo =
      { registry.build name echo with
        registry := (registry.build name echo).registry.exchange change } := by
  have hstandard := registry.buildWith_exchange change name echo .standard
  rw [change.apply_standard] at hstandard
  exact hstandard

theorem makeState_exchange (cls : LoggedClass) (label : Option String) (echo : Echo) :
    (registry.exchange change).makeState cls label echo =
      ((registry.makeState cls label echo).1.exchange change,
        (registry.makeState cls label echo).2) := by
  simp only [makeState, classLogger, registry_obtain_exchange, build_exchange]

theorem writeEcho_exchange (object : Instance) (echo : Echo) :
    (registry.exchange change).writeEcho object echo =
      ((registry.writeEcho object echo).1.exchange change,
        (registry.writeEcho object echo).2) := by
  simp only [writeEcho, build_exchange]

end

end Registry

section

variable (registry : Registry) (change : HandlerChange)

@[simp] theorem Adapter.effectiveLevel_exchange (adapter : Adapter) :
    adapter.effectiveLevel (registry.exchange change) = adapter.effectiveLevel registry := by
  rw [Adapter.effectiveLevel, Adapter.effectiveLevel, Registry.effectiveLevel_exchange]

@[simp] theorem Adapter.describe_exchange (adapter : Adapter) :
    adapter.describe (registry.exchange change) = adapter.describe registry := by
  unfold Adapter.describe
  rw [Registry.describe_exchange]

@[simp] theorem Outlet.effectiveLevel_exchange (outlet : Outlet) :
    outlet.effectiveLevel (registry.exchange change) = outlet.effectiveLevel registry := by
  cases outlet with
  | direct logger => exact registry.effectiveLevel_exchange change logger
  | adapted adapter => exact adapter.effectiveLevel_exchange registry change

@[simp] theorem Outlet.isEnabledFor_exchange (outlet : Outlet) (level : Level) :
    outlet.isEnabledFor (registry.exchange change) level = outlet.isEnabledFor registry level := by
  cases outlet with
  | direct logger =>
      simp only [Outlet.isEnabledFor, Registry.isEnabledFor, Registry.isDisabled_exchange,
        Registry.effectiveLevel_exchange]
  | adapted adapter =>
      simp only [Outlet.isEnabledFor, Adapter.isEnabledFor, Registry.isDisabled_exchange,
        Adapter.effectiveLevel_exchange]

@[simp] theorem Outlet.describe_exchange (outlet : Outlet) :
    outlet.describe (registry.exchange change) = outlet.describe registry := by
  unfold Outlet.describe
  simp only [Registry.describe_exchange, Adapter.describe_exchange]

end

end LogTree

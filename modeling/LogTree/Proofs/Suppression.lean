import LogTree.Proofs.RegistryLikeness

namespace LogTree

namespace Registry

theorem settings_disable (registry : Registry) (level : Level) (id : LoggerId) :
    (registry.disable level).settings id = registry.settings id := by
  cases id <;> rfl

/-- Registries with the same loggers on which the same is set have their thresholds to differ in and
nothing else. -/
theorem SameLoggers.eq_disable {registry other : Registry} (h : registry.SameLoggers other)
    (hsettings : ∀ id, other.settings id = registry.settings id) :
    other = registry.disable other.disabledAt := by
  have hroot : other.root = registry.root := hsettings rootId
  have hloggers : other.loggers = registry.loggers := by
    apply List.ext_getElem?
    intro k
    -- The settings of the logger at index `k` are those of the identity `k + 1`.
    have hidentity := congrArg (·[k]?) h
    have hset := hsettings (k + 1)
    simp only [identities, List.getElem?_map] at hidentity
    simp only [settings] at hset
    rcases hheld : registry.loggers[k]? with _ | logger
    · rw [hheld] at hidentity
      simpa using hidentity
    · rcases hother : other.loggers[k]? with _ | twin
      · rw [hheld, hother] at hidentity
        cases hidentity
      · rw [hheld, hother] at hidentity hset
        obtain ⟨name, parent, set⟩ := logger
        obtain ⟨twinName, twinParent, twinSet⟩ := twin
        simp_all
  obtain ⟨root, loggers, disabledAt⟩ := registry
  obtain ⟨otherRoot, otherLoggers, otherDisabledAt⟩ := other
  obtain rfl := hroot
  obtain rfl := hloggers
  rfl

section

variable (registry : Registry) (level : Level)

theorem sameLoggers_disable : registry.SameLoggers (registry.disable level) :=
  rfl

theorem id_obtain_disable (name : String) :
    ((registry.disable level).obtain name).id = (registry.obtain name).id :=
  ((registry.sameLoggers_disable level).obtain name).2

theorem registry_obtain_disable (name : String) :
    ((registry.disable level).obtain name).registry =
      (registry.obtain name).registry.disable level := by
  have heq := ((registry.sameLoggers_disable level).obtain name).1.eq_disable (by
    intro id
    rw [settings_obtain, settings_obtain, settings_disable])
  rw [disabledAt_obtain] at heq
  exact heq

theorem climb?_disable (id : LoggerId) (generations : Nat) :
    (registry.disable level).climb? id generations = registry.climb? id generations :=
  (registry.sameLoggers_disable level).climb?_eq id generations

theorem outlet_buildWith_disable (name : String) (echo : Echo) (make : Unit → Option Handler) :
    ((registry.disable level).buildWith name echo make).outlet =
      (registry.buildWith name echo make).outlet := by
  rw [outlet_buildWith, outlet_buildWith, id_obtain_disable]

theorem makeState_disable (cls : LoggedClass) (label : Option String) (echo : Echo) :
    ((registry.disable level).makeState cls label echo).2 =
      (registry.makeState cls label echo).2 := by
  simp only [makeState, classLogger, registry_obtain_disable, build, outlet_buildWith_disable]

theorem update_disable (id : LoggerId) (change : Settings → Settings) :
    (registry.disable level).update id change = (registry.update id change).disable level := by
  cases id <;> rfl

theorem threshold_disable (outlet : Outlet) :
    outlet.threshold (registry.disable level) = outlet.threshold registry := by
  have heffective : ∀ id, (registry.disable level).effectiveLevel id = registry.effectiveLevel id :=
    (registry.sameLoggers_disable level).effectiveLevel_eq fun id =>
      congrArg Settings.level (registry.settings_disable level id)
  rcases outlet with logger | ⟨echo, logger⟩
  · exact heffective logger
  · cases echo with
    | on => rfl
    | debug => rfl
    | unset => exact heffective logger
    | off => exact heffective logger

end

def Operation.threshold? : Operation → Option Level
  | .adjust _ _ _ => none
  | .disable level => some level

theorem perform_disable {operation : Operation} (h : operation.threshold? = none)
    (registry : Registry) (level : Level) :
    (registry.disable level).perform operation = (registry.perform operation).disable level := by
  cases operation with
  | adjust name generations adjustment =>
      simp only [perform, registry_obtain_disable, id_obtain_disable, climb?_disable]
      split
      · rfl
      · exact update_disable _ level _ _
  | disable level => cases h

theorem disabledAt_perform {operation : Operation} (h : operation.threshold? = none)
    (registry : Registry) : (registry.perform operation).disabledAt = registry.disabledAt := by
  cases operation with
  | adjust name generations adjustment =>
      rw [perform]
      split
      · exact disabledAt_obtain registry name
      · rw [disabledAt_update, disabledAt_obtain]
  | disable level => cases h

section

variable {operations : List Operation}
  (h : ∀ operation ∈ operations, operation.threshold? = none)

include h

theorem performAll_disable (registry : Registry) (level : Level) :
    (registry.disable level).performAll operations =
      (registry.performAll operations).disable level := by
  induction operations generalizing registry with
  | nil => rfl
  | cons operation rest ih =>
      obtain ⟨hfirst, hrest⟩ := List.forall_mem_cons.mp h
      rw [performAll_cons, performAll_cons, perform_disable hfirst]
      exact ih hrest _

theorem disabledAt_performAll (registry : Registry) :
    (registry.performAll operations).disabledAt = registry.disabledAt := by
  induction operations generalizing registry with
  | nil => rfl
  | cons operation rest ih =>
      obtain ⟨hfirst, hrest⟩ := List.forall_mem_cons.mp h
      rw [performAll_cons, ih hrest, disabledAt_perform hfirst]

end

end Registry

/-- A command does not set the suppression threshold of a registry and does not log past all
levels. -/
def Command.KeepsThreshold (key : String) : Command → Prop
  | .registry place (.disable _) => place ≠ key
  | .registry place (.apply config) => place = key → config.disable = none
  | .registry place (.configure directives) =>
      place = key → ∀ config, Config.parse directives = .ok config → config.disable = none
  | .target _ (.log (.raw _ _) _ _) => False
  | _ => True

theorem RegistryCommand.disable_of_config? {key : String} {command : RegistryCommand}
    (hkeeps : (Command.registry key command).KeepsThreshold key) {config : Config}
    (hconfig : command.config? = some config) : config.disable = none := by
  cases command with
  | apply applied =>
      obtain rfl := Option.some.inj hconfig
      exact hkeeps rfl
  | configure directives =>
      rw [config?] at hconfig
      cases hparse : Config.parse directives with
      | error e =>
          rw [hparse] at hconfig
          cases hconfig
      | ok parsed =>
          rw [hparse] at hconfig
          obtain rfl := Option.some.inj hconfig
          exact hkeeps rfl parsed hparse
  | configureVerbosity name verbosity =>
      obtain rfl := Option.some.inj hconfig
      rfl
  | _ => cases hconfig

theorem RegistryCommand.threshold?_eq_none {key : String} {command : RegistryCommand}
    (hkeeps : (Command.registry key command).KeepsThreshold key) {operation : Registry.Operation}
    (h : operation ∈ command.operations) : operation.threshold? = none := by
  rcases RegistryCommand.of_mem_operations h with
    ⟨config, hconfig, hmem⟩ | ⟨name, -, rfl⟩ | ⟨level, rfl, -⟩ | ⟨name, rfl⟩
  · rcases Registry.mem_configuring_iff.mp hmem with
      ⟨level, -, rfl⟩ | ⟨name, level, -, rfl⟩ | ⟨level, hdisable, -⟩
    · rfl
    · rfl
    · rw [RegistryCommand.disable_of_config? hkeeps hconfig] at hdisable
      cases hdisable
  · rfl
  · exact absurd rfl hkeeps
  · rfl

namespace Session

theorem threshold?_eq_none_of_mem_operations {session : Session} {command : Command}
    {key : String} (hkeeps : command.KeepsThreshold key) {operation : Registry.Operation}
    (h : operation ∈ session.operations key command) : operation.threshold? = none := by
  rcases of_mem_operations h with
    ⟨inner, rfl, hinner⟩ | ⟨address, inner, -, -, rfl⟩ | ⟨name, generations, rfl⟩ | ⟨build, -, rfl⟩
  · exact RegistryCommand.threshold?_eq_none hkeeps hinner
  · rfl
  · rfl
  · rfl

end Session

end LogTree

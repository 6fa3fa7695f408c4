import LogTree.Proofs.CheckedLogging
import LogTree.Proofs.ConfiguredRegistries
import LogTree.Proofs.LevelResolution

namespace LogTree

open Registry (Operation building configuring)

/-- An operation sets a logger in a namespace to a level that it is given. -/
def Registry.Operation.SetsLevelIn (outer : String) : Operation → Prop
  | .adjust asked generations (.setLevel _) =>
      ∃ name, Namespace.Within outer name ∧
        (asked :: Namespace.outers asked)[generations]? = some name
  | .adjust _ _ _ | .disable _ => False

namespace Registry

/-- The logger of a namespace is there with the default level, and the loggers in the namespace have
no other level. -/
structure HasDefaultLevel (registry : Registry) (outer : String) : Prop where
  wellFormed : registry.WellFormed
  own : ∃ id, registry.find? outer = some id ∧ registry.level id = .warning
  inside : ∀ id, registry.Holds id → Namespace.Within outer (registry.name id) →
    registry.level id = .notset ∨ registry.level id = .warning

theorem holds_of_within {registry : Registry} {outer : String} (hroot : ¬Namespace.IsRoot outer)
    {id : LoggerId} (hid : Namespace.Within outer (registry.name id)) :
    registry.Holds id ∧ id ≠ rootId := by
  have hname := hid.not_isRoot hroot
  constructor
  · by_contra hnot
    cases id with
    | zero => exact hnot registry.holds_root
    | succ k =>
        rw [name, List.getElem?_eq_none (Nat.le_of_not_lt hnot)] at hname
        exact hname (.inl rfl)
  · rintro rfl
    exact hname (.inr rfl)

section

variable {registry : Registry} {outer : String} (hroot : ¬Namespace.IsRoot outer)

include hroot

/-- The walk to the parents from a logger in the namespace comes to a level at the logger of the
namespace at the latest. -/
theorem HasDefaultLevel.effectiveLevel_eq (h : registry.HasDefaultLevel outer) {id : LoggerId}
    (hid : Namespace.Within outer (registry.name id)) :
    registry.effectiveLevel id = .warning := by
  have hempty : outer ≠ "" := fun hempty => hroot (.inl hempty)
  induction id using Nat.strongRecOn with
  | ind id ih =>
      obtain ⟨hholds, hne⟩ := holds_of_within hroot hid
      obtain ⟨parent, hparent, -⟩ := exists_parent?_of_holds hholds hne
      rw [effectiveLevel_of_parent? hparent]
      rcases h.inside id hholds hid with hnotset | hwarning
      · have hfind := h.wellFormed.find?_name hholds hne
        have hname : registry.name id ≠ outer := by
          intro heq
          obtain ⟨place, hplace, hwarning⟩ := h.own
          rw [heq, hplace, Option.some.injEq] at hfind
          rw [hfind, hnotset] at hwarning
          cases hwarning
        obtain ⟨inner, henclosing, hinner⟩ := hid.enclosing? hempty hname
        have houter := (h.wellFormed.parent?_of_find? hfind).symm.trans hparent
        rw [enclosingId?, henclosing] at houter
        rw [if_pos hnotset]
        apply ih parent (parent?_lt hparent)
        rwa [name_of_find? houter]
      · rw [if_neg (by rw [hwarning]; decide), hwarning]

theorem WellFormed.level_perform_within (h : registry.WellFormed) {operation : Operation}
    (hsets : ¬operation.SetsLevelIn outer) {id : LoggerId}
    (hid : Namespace.Within outer ((registry.perform operation).name id)) :
    (registry.perform operation).level id = registry.level id ∨
      registry.level id = .notset ∧ (registry.perform operation).level id = .warning := by
  rcases registry.level_perform operation id with
    heq | ⟨asked, generations, adjustment, rfl, hwrites, hplace, heq⟩
  · exact .inl heq
  · cases adjustment with
    | setLevel level =>
        have hname : (registry.perform (.adjust asked generations (.setLevel level))).name id =
            (registry.obtain asked).registry.name id := by
          simp only [perform, hplace, name_update]
        obtain ⟨-, hasked⟩ := (wellFormed_obtain h asked).name_of_climb?
          (registry.lookup?_obtain_self asked) hplace (holds_of_within hroot hid).2
        rw [hname] at hid
        exact absurd ⟨_, hid, hasked⟩ hsets
    | setDefaultLevel =>
        rw [heq, Adjustment.apply]
        split
        · next hnotset => exact .inr ⟨Level.isNotset_iff.mp hnotset, rfl⟩
        · exact .inl rfl
    | keep => exact hwrites.elim
    | setPropagate propagate => exact hwrites.elim
    | attach handler => exact hwrites.elim
    | detach handler => exact hwrites.elim
    | offer handler => exact hwrites.elim

theorem HasDefaultLevel.perform (h : registry.HasDefaultLevel outer) {operation : Operation}
    (hsets : ¬operation.SetsLevelIn outer) :
    (registry.perform operation).HasDefaultLevel outer := by
  have hgrows := registry.grows_perform operation
  refine ⟨wellFormed_perform h.wellFormed operation, ?_, ?_⟩
  · obtain ⟨id, hid, hwarning⟩ := h.own
    have hlater := hgrows.find?_eq hid
    refine ⟨id, hlater, ?_⟩
    rcases h.wellFormed.level_perform_within hroot hsets (.inl (name_of_find? hlater)) with
      heq | ⟨-, hinstalled⟩
    · exact heq.trans hwarning
    · exact hinstalled
  · intro id hid hwithin
    rcases h.wellFormed.level_perform_within hroot hsets hwithin with heq | ⟨-, hinstalled⟩
    · rw [heq]
      by_cases hholds : registry.Holds id
      · rw [hgrows.name_eq hholds] at hwithin
        exact h.inside id hholds hwithin
      · exact .inl (congrArg Settings.level (settings_of_not_holds hholds))
    · exact .inr hinstalled

theorem HasDefaultLevel.performAll (h : registry.HasDefaultLevel outer)
    {operations : List Operation}
    (hsets : ∀ operation ∈ operations, ¬operation.SetsLevelIn outer) :
    (registry.performAll operations).HasDefaultLevel outer :=
  performAll_induction (motive := fun other => other.HasDefaultLevel outer)
    (fun _ operation hoperation hother => hother.perform hroot (hsets operation hoperation)) h

theorem HasDefaultLevel.installDefaultLevel_eq (h : registry.HasDefaultLevel outer) :
    registry.installDefaultLevel outer = (registry, false) := by
  obtain ⟨id, hid, hwarning⟩ := h.own
  rw [installDefaultLevel, obtain_eq_of_lookup? (lookup?_of_find? hid hroot), hwarning]
  rfl

theorem WellFormed.installDefaultLevel_of_notset (h : registry.WellFormed)
    (hnotset : ∀ id, registry.Holds id → Namespace.Within outer (registry.name id) →
      registry.level id = .notset) :
    (registry.installDefaultLevel outer).2 = true ∧
      (registry.installDefaultLevel outer).1.HasDefaultLevel outer := by
  have hfind := find?_of_lookup? (registry.lookup?_obtain_self outer) hroot
  have hlevel : ∀ id, Namespace.Within outer ((registry.obtain outer).registry.name id) →
      (registry.obtain outer).registry.level id = .notset := by
    intro id hid
    rw [level, settings_obtain]
    by_cases hholds : registry.Holds id
    · rw [(registry.grows_obtain outer).name_eq hholds] at hid
      exact hnotset id hholds hid
    · exact congrArg Settings.level (settings_of_not_holds hholds)
  have hself := hlevel _ (.inl (name_of_find? hfind))
  have hinstall : registry.installDefaultLevel outer =
      ((registry.obtain outer).registry.setLevel (registry.obtain outer).id .warning, true) := by
    rw [installDefaultLevel]
    exact if_pos (Level.isNotset_iff.mpr hself)
  rw [hinstall]
  refine ⟨rfl, ?_, ⟨(registry.obtain outer).id, ?_, ?_⟩, ?_⟩
  · exact wellFormed_of_identities_eq (identities_update _ _ _) (wellFormed_obtain h outer)
  · rw [setLevel, find?_update]
    exact hfind
  · rw [setLevel, level, settings_update_self (registry.obtain outer).holds]
  · intro id _ hid
    rw [setLevel, name_update] at hid
    rcases Decidable.em (id = (registry.obtain outer).id) with rfl | hne
    · right
      rw [setLevel, level, settings_update_self (registry.obtain outer).holds]
    · left
      rw [setLevel, level_update_of_ne hne]
      exact hlevel id hid

end

end Registry

/-- A command sets a logger in a namespace of a registry to a level that it is given: it configures
a name there, or it comes to one from the name that it addresses. To install a default level is not
to set one. -/
def Command.SetsLevelIn (key outer : String) : Command → Prop
  | .registry addressed command =>
      addressed = key ∧ ∃ config, command.config? = some config ∧
        ∃ name ∈ config.levels.names, Namespace.Within outer name
  | .logger address (.setLevel _) =>
      address.registry = key ∧ ∃ name, Namespace.Within outer name ∧
        (address.name :: Namespace.outers address.name)[address.generations]? = some name
  | _ => False

namespace Session

variable {session : Session} {key outer : String} (hroot : ¬Namespace.IsRoot outer)

include hroot

theorem not_setsLevelIn_of_mem_operations {command : Command}
    (h : ¬command.SetsLevelIn key outer) :
    ∀ operation ∈ session.operations key command, ¬operation.SetsLevelIn outer := by
  intro operation hoperation hsets
  unfold Operation.SetsLevelIn at hsets
  split at hsets
  · next asked generations level =>
      obtain ⟨name, hname, hplace⟩ := hsets
      rcases of_writesLevel hoperation trivial with
        ⟨inner, rfl, hinner⟩ | ⟨address, _, rfl, haddressed, rfl, rfl, -⟩
      · rcases RegistryCommand.of_writesLevel hinner trivial with
          ⟨config, hconfig, hmem⟩ | ⟨-, -, hdefault⟩
        · obtain ⟨rfl, level, -, hasked⟩ := Registry.of_mem_configuring hmem
          obtain rfl : asked = name := Option.some.inj hplace
          rcases hasked with rfl | hlevel
          · exact hname.not_isRoot hroot (.inr rfl)
          · refine h ⟨rfl, config, hconfig, asked, NameMap.mem_names_iff.mpr ?_, hname⟩
            exact Option.isSome_iff_exists.mpr ⟨level, hlevel⟩
        · cases hdefault
      · exact h ⟨haddressed, name, hname, hplace⟩
  · exact hsets
  · exact hsets

theorem hasDefaultLevel_step (h : (session.registry key).HasDefaultLevel outer)
    {command : Command} (hsets : ¬command.SetsLevelIn key outer) :
    ((session.step command).1.registry key).HasDefaultLevel outer := by
  rw [registry_step]
  exact h.performAll hroot (not_setsLevelIn_of_mem_operations hroot hsets)

theorem hasDefaultLevel_run (h : (session.registry key).HasDefaultLevel outer)
    {commands : List Command} (hsets : ∀ command ∈ commands, ¬command.SetsLevelIn key outer) :
    ((session.run commands).1.registry key).HasDefaultLevel outer := by
  induction commands generalizing session with
  | nil => exact h
  | cons command rest ih =>
      obtain ⟨hfirst, hrest⟩ := List.forall_mem_cons.mp hsets
      exact ih (hasDefaultLevel_step hroot h hfirst) hrest

end Session

/-- What an outlet asks of its own log output. A logger asks for nothing. -/
def Outlet.echo : Outlet → Echo
  | direct _ => .unset
  | adapted adapter => adapter.echo

theorem Outlet.threshold_of_isEnabled_eq_false {outlet : Outlet}
    (h : outlet.echo.isEnabled = false) (registry : Registry) :
    outlet.threshold registry = registry.effectiveLevel outlet.logger := by
  cases outlet with
  | direct logger => rfl
  | adapted adapter =>
      obtain ⟨echo, logger⟩ := adapter
      cases echo with
      | unset => rfl
      | off => rfl
      | on => cases h
      | debug => cases h

theorem Registry.HasDefaultLevel.not_permits {registry : Registry} {outer : String}
    (h : registry.HasDefaultLevel outer) (hroot : ¬Namespace.IsRoot outer)
    {outlet : Outlet} (hecho : outlet.echo.isEnabled = false)
    (hwithin : Namespace.Within outer (registry.name outlet.logger)) {level : Level}
    (hlevel : level < .warning) : ¬outlet.Permits registry level := by
  rintro ⟨-, hthreshold⟩
  rw [Outlet.threshold_of_isEnabled_eq_false hecho, h.effectiveLevel_eq hroot hwithin]
    at hthreshold
  exact Level.not_lt_of_le hthreshold hlevel

namespace Session

/-- Checked calls for less than a warning put nothing out from a namespace, unless the outlet asks
for output of its own. -/
structure IsQuiet (session : Session) (key outer : String) : Prop where
  log_eq : ∀ (outlet : Outlet) (call : Call) (draft : Draft) (outputs : Outputs),
    outlet.echo.isEnabled = false →
    Namespace.Within outer ((session.registry key).name outlet.logger) → call.level < .warning →
    outlet.log (session.registry key) call draft outputs = { outputs }
  /-- A target may create the logger that it stands for. -/
  step_eq : ∀ (target : Target) (resolved : Session) (outlet : Owned Outlet) (call : Call)
    (message : Message) (thread : Option String),
    session.resolve target = (resolved, .ok outlet) → outlet.registry = key →
    outlet.value.echo.isEnabled = false →
    Namespace.Within outer ((resolved.registry key).name outlet.value.logger) →
    call.level < .warning →
    session.step (checkedCall target call message thread) = (resolved, .ok (.logged 0 false)) ∧
      resolved.outputs = session.outputs

theorem isQuiet_of_hasDefaultLevel {session : Session} {key outer : String}
    (hroot : ¬Namespace.IsRoot outer) (h : (session.registry key).HasDefaultLevel outer) :
    session.IsQuiet key outer where
  log_eq := by
    intro outlet call draft outputs hecho hwithin hlevel
    rw [Outlet.log_eq_ite, if_neg (h.not_permits hroot hecho hwithin hlevel)]
  step_eq := by
    rintro target resolved outlet call message thread hresolve rfl hecho hwithin hlevel
    have hresolved : (resolved.registry outlet.registry).HasDefaultLevel outer := by
      have hasked := session.registry_step_target target .effectiveLevel outlet.registry
      rw [hresolve] at hasked
      rw [← hasked]
      exact hasDefaultLevel_step hroot h id
    constructor
    · rw [step_checkedCall hresolve,
        if_neg (hresolved.not_permits hroot hecho hwithin hlevel)]
      rfl
    · rw [← outputs_resolve session target, hresolve]

/-- Where nothing is set in a namespace, a library can install its default level there. From then
on, as long as no level is set in the namespace, it keeps quiet, whatever is set elsewhere and
whatever loggers are created, and to install the default level again changes nothing. -/
theorem default_level_keeps_namespace_quiet (moment : Moment) (before after : List Command)
    (key outer : String) (hroot : ¬Namespace.IsRoot outer)
    (hnotset : ∀ id, ((run { moment } before).1.registry key).Holds id →
      Namespace.Within outer (((run { moment } before).1.registry key).name id) →
      ((run { moment } before).1.registry key).level id = .notset)
    (hafter : ∀ command ∈ after, ¬command.SetsLevelIn key outer) :
    let installed := (run { moment } before).1.step (.registry key (.installDefaultLevel outer))
    let later := (installed.1.run after).1
    installed.2 = .ok (.flag true) ∧ later.IsQuiet key outer ∧
      (later.registry key).installDefaultLevel outer = (later.registry key, false) := by
  intro installed later
  have hwf := wellFormed_registry_run moment before key
  obtain ⟨hanswer, hinstalled⟩ := hwf.installDefaultLevel_of_notset hroot hnotset
  have hregistry : installed.1.registry key =
      (((run { moment } before).1.registry key).installDefaultLevel outer).1 :=
    registry_setRegistry_self _ _ _
  rw [← hregistry] at hinstalled
  have hdefault : (later.registry key).HasDefaultLevel outer :=
    hasDefaultLevel_run hroot hinstalled hafter
  refine ⟨?_, isQuiet_of_hasDefaultLevel hroot hdefault, hdefault.installDefaultLevel_eq hroot⟩
  exact congrArg (fun flag => Except.ok (Answer.flag flag)) hanswer

/-- A level that is set by way of a name in the namespace may be that of the root, and a name that
only begins like the namespace is not in it. -/
theorem quiet_below_open_root :
    let moment : Moment := { instant := { seconds := 0 } }
    let cache : Address := { registry := "main", name := "lib..cache" }
    let config : Config := { root := some .debug, levels := NameMap.insert ∅ "lib-tools" .debug }
    let before := [Command.registry "main" (.disable .info), .registry "main" (.disable .notset)]
    let after := [Command.logger { cache with generations := 3 } (.setLevel .info),
      .registry "main" (.apply config)]
    let installed :=
      (run { moment } before).1.step (.registry "main" (.installDefaultLevel "lib"))
    let later := (installed.1.run after).1
    let logged := later.step (checkedCall (.logger cache) .info (.text "hidden") none)
    (later.registry "main").level Registry.rootId = .debug ∧
      logged.2 = .ok (.logged 0 false) ∧ logged.1.outputs = later.outputs ∧
      (later.registry "main").installDefaultLevel "lib" = (later.registry "main", false) := by
  intro moment cache config before after installed later logged
  have hnotset : ∀ id, ((run { moment } before).1.registry "main").Holds id →
      Namespace.Within "lib" (((run { moment } before).1.registry "main").name id) →
      ((run { moment } before).1.registry "main").level id = .notset := by
    intro id hid hwithin
    obtain rfl : id = Registry.rootId := Nat.le_zero.mp hid
    exact absurd (.inr rfl) (hwithin.not_isRoot (by decide))
  have hafter : ∀ command ∈ after, ¬command.SetsLevelIn "main" "lib" := by
    refine List.forall_mem_cons.mpr ⟨?_, List.forall_mem_singleton.mpr ?_⟩
    · rintro ⟨-, name, -, hplace⟩
      have hnone : ("lib..cache" :: Namespace.outers "lib..cache")[3]? = none := by decide
      exact absurd (hnone.symm.trans hplace) nofun
    · rintro ⟨-, applied, happlied, name, hname, hwithin⟩
      obtain rfl := Option.some.inj happlied
      obtain rfl : name = "lib-tools" := List.mem_singleton.mp hname
      exact absurd ((Namespace.within_iff (by decide)).mp hwithin) (by decide)
  obtain ⟨-, hquiet, hagain⟩ :=
    default_level_keeps_namespace_quiet moment before after "main" "lib" (by decide) hnotset hafter
  let located := (later.registry "main").obtain cache.name
  have hwithin : Namespace.Within "lib"
      (((later.setRegistry "main" located.registry).registry "main").name located.id) := by
    rw [registry_setRegistry_self, Registry.name_obtain, if_neg (by decide)]
    exact .inr ⟨".cache", rfl⟩
  obtain ⟨hstep, houtputs⟩ :=
    hquiet.step_eq (.logger cache) _ _ .info (.text "hidden") none rfl rfl rfl hwithin (by decide)
  have hlater : later.registry "main" =
      ((installed.1.run (after.take 1)).1.registry "main").configure config :=
    registry_setRegistry_self _ _ _
  refine ⟨?_, congrArg Prod.snd hstep, ?_, hagain⟩
  · rw [hlater, Registry.level_root_configure]
    rfl
  · exact (congrArg (fun outcome => outcome.1.outputs) hstep).trans houtputs

end Session

end LogTree

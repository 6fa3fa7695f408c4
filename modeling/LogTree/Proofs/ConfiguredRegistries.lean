import LogTree.Proofs.ConfiguredLevels
import LogTree.Proofs.RegistryLikeness
import LogTree.Proofs.RequestedNames

namespace LogTree.Registry

theorem SameLoggers.eq_of_settings_eq {registry other : Registry} (h : registry.SameLoggers other)
    (hsettings : ∀ id, other.settings id = registry.settings id)
    (hdisabled : other.disabledAt = registry.disabledAt) : other = registry := by
  have hroot : other.root = registry.root := hsettings rootId
  have hloggers : other.loggers = registry.loggers := by
    apply List.ext_getElem?
    intro k
    have hidentity := congrArg (·[k]?) h
    have hsetting := hsettings (k + 1)
    simp only [identities, List.getElem?_map, settings] at hidentity hsetting
    cases hother : other.loggers[k]? with
    | none =>
        cases hlogger : registry.loggers[k]? with
        | none => rfl
        | some logger => simp [hother, hlogger] at hidentity
    | some held =>
        cases hlogger : registry.loggers[k]? with
        | none => simp [hother, hlogger] at hidentity
        | some logger =>
            simp only [hother, hlogger, Option.map_some, Option.some.injEq,
              Prod.mk.injEq] at hidentity hsetting
            obtain ⟨name, parent, settings⟩ := held
            obtain ⟨rfl, rfl⟩ := hidentity
            obtain rfl : settings = logger.settings := hsetting
            rfl
  obtain ⟨root, loggers, disabledAt, parent_le⟩ := other
  obtain rfl : root = registry.root := hroot
  obtain rfl : loggers = registry.loggers := hloggers
  obtain rfl : disabledAt = registry.disabledAt := hdisabled
  rfl

theorem sameLoggers_perform_of_lookup? {registry : Registry} {operation : Operation}
    (h : ∀ name generations adjustment, operation = .adjust name generations adjustment →
      (registry.lookup? name).isSome) : registry.SameLoggers (registry.perform operation) := by
  cases operation with
  | disable level => rfl
  | adjust name generations adjustment =>
      obtain ⟨id, hid⟩ := Option.isSome_iff_exists.mp (h name generations adjustment rfl)
      rw [perform, obtain_eq_of_lookup? hid]
      split
      · rfl
      · exact identities_update _ _ _

theorem sameLoggers_performAll_of_lookup? {registry : Registry} {operations : List Operation}
    (h : ∀ name generations adjustment, .adjust name generations adjustment ∈ operations →
      (registry.lookup? name).isSome) : registry.SameLoggers (registry.performAll operations) := by
  induction operations generalizing registry with
  | nil => rfl
  | cons operation rest ih =>
      have hfirst : registry.SameLoggers (registry.perform operation) := by
        apply sameLoggers_perform_of_lookup?
        rintro name generations adjustment rfl
        exact h name generations adjustment List.mem_cons_self
      refine Eq.trans (ih ?_) hfirst
      intro name generations adjustment hmem
      rw [hfirst.lookup?_eq]
      exact h name generations adjustment (List.mem_cons_of_mem _ hmem)

theorem level_performAll_of_unaddressed {registry : Registry} {operations : List Operation}
    {id : LoggerId}
    (h : ∀ name generations adjustment, .adjust name generations adjustment ∈ operations →
      generations = 0 ∧ (registry.performAll operations).lookup? name ≠ some id) :
    (registry.performAll operations).level id = registry.level id := by
  induction operations generalizing registry with
  | nil => rfl
  | cons operation rest ih =>
      rw [performAll_cons, ih fun name generations adjustment hmem =>
        h name generations adjustment (List.mem_cons_of_mem _ hmem)]
      rcases registry.level_perform operation id with
        heq | ⟨name, generations, adjustment, rfl, -, hplace, -⟩
      · exact heq
      · -- The name goes on to stand for the logger that was adjusted.
        obtain ⟨rfl, hlast⟩ := h name generations adjustment List.mem_cons_self
        obtain rfl := Option.some.inj hplace
        have hlater := grows_performAll
          (registry.perform (.adjust name 0 adjustment)) rest
        refine absurd (hlater.lookup?_eq ?_) hlast
        exact (lookup?_update _ _ _ name).trans (lookup?_obtain_self registry name)

theorem of_mem_configuring {config : Config} {name : String} {generations : Nat}
    {adjustment : Adjustment} (h : .adjust name generations adjustment ∈ configuring config) :
    generations = 0 ∧ ∃ level, adjustment = .setLevel level ∧
      (name = Namespace.rootName ∨ config.levels.get? name = some level) := by
  rcases mem_configuring_iff.mp h with
    ⟨level, -, heq⟩ | ⟨key, level, hentry, heq⟩ | ⟨level, -, heq⟩
  · cases heq
    exact ⟨rfl, level, rfl, .inl rfl⟩
  · cases heq
    exact ⟨rfl, level, rfl, .inr (NameMap.get?_eq_some_iff.mpr hentry)⟩
  · cases heq

theorem requested?_mem_configuring {config : Config} {request : String} :
    request ∈ (configuring config).filterMap Operation.requested? ↔
      ¬Namespace.IsRoot request ∧ config.levels.contains request = true := by
  rw [List.mem_filterMap]
  constructor
  · rintro ⟨operation, hoperation, hrequest⟩
    cases operation with
    | disable level => cases hrequest
    | adjust name generations adjustment =>
        rw [Operation.requested?] at hrequest
        split at hrequest
        · cases hrequest
        · next hroot =>
            obtain rfl := Option.some.inj hrequest
            obtain ⟨-, level, -, hname | hlevel⟩ := of_mem_configuring hoperation
            · exact absurd (.inr hname) hroot
            · exact ⟨hroot, Option.isSome_iff_exists.mpr ⟨level, hlevel⟩⟩
  · rintro ⟨hroot, hcontains⟩
    obtain ⟨level, hlevel⟩ := Option.isSome_iff_exists.mp hcontains
    have hentry := NameMap.get?_eq_some_iff.mp hlevel
    refine ⟨.adjust request 0 (.setLevel level), ?_, if_neg hroot⟩
    exact mem_configuring_iff.mpr (.inr (.inl ⟨request, level, hentry, rfl⟩))

/-- What a configuration has made of a registry. A logger that is not there counts as one on which
nothing is set. -/
structure Configured (config : Config) (earlier later : Registry) : Prop where
  /-- Of the three ways to give the root a level, the one by its name comes first, then the one by
  the empty name. -/
  root_level : later.level rootId =
    (((config.levels.get? Namespace.rootName).or (config.levels.get? "")).or config.root).getD
      (earlier.level rootId)
  /-- A request for any other name with a level gives a logger that is there and has it. -/
  key_level : ∀ name level, ¬Namespace.IsRoot name → config.levels.get? name = some level →
    ∃ id, later.lookup? name = some id ∧ later.level id = level
  /-- Other loggers keep their levels, among them one below the root that is named like it, -/
  kept_level : ∀ id, earlier.Holds id → id ≠ rootId →
    (earlier.name id = Namespace.rootName ∨ config.levels.get? (earlier.name id) = none) →
    later.level id = earlier.level id
  /-- and those that are new have none. -/
  new_level : ∀ id, later.Holds id → ¬earlier.Holds id →
    (later.name id = Namespace.rootName ∨ config.levels.get? (later.name id) = none) →
    later.level id = .notset
  disabledAt_eq : later.disabledAt = config.disable.getD earlier.disabledAt
  propagate_eq : ∀ id, later.propagate id = earlier.propagate id
  handlers_eq : ∀ id, later.handlers id = earlier.handlers id
  /-- New loggers are those that have a level and those of the namespaces that enclose them. -/
  mem_names_iff : ∀ name, name ∈ later.names ↔ name ∈ earlier.names ∨
    name ≠ "" ∧ ∃ key ∈ config.levels.names, ¬Namespace.IsRoot key ∧
      (key = name ∨ ∃ rest, key = name ++ "." ++ rest)
  continues : earlier.Continues later

theorem grows_configure (registry : Registry) (config : Config) :
    registry.Grows (registry.configure config) := by
  rw [← performAll_configuring]
  exact grows_performAll _ _

theorem level_root_configure (registry : Registry) (config : Config) :
    (registry.configure config).level rootId =
      (((config.levels.get? Namespace.rootName).or (config.levels.get? "")).or config.root).getD
        (registry.level rootId) := by
  have hroot : Namespace.IsRoot Namespace.rootName := .inr rfl
  have hkeys : ∀ key, LevelTable.entryName Namespace.rootName = LevelTable.entryName key →
      key = "" ∨ key = Namespace.rootName := by
    intro key hkey
    rcases LevelTable.entryName_eq_iff.mp hkey with rfl | ⟨-, hkeyRoot⟩
    · exact hroot
    · exact hkeyRoot
  have hlevel : ∀ registry : Registry,
      registry.level rootId = registry.ownLevel Namespace.rootName :=
    fun _ => (ownLevel_of_lookup? (lookup?_of_isRoot hroot)).symm
  rw [hlevel, hlevel]
  cases hnamed : config.levels.get? Namespace.rootName with
  | some level =>
      exact ownLevel_configure_of_get? hnamed rfl (fun hempty => absurd hempty (by decide)) registry
  | none =>
      cases hempty : config.levels.get? "" with
      | some level =>
          exact ownLevel_configure_of_get? hempty (by decide) (fun _ => hnamed) registry
      | none =>
          have hnone : ∀ key,
              LevelTable.entryName Namespace.rootName = LevelTable.entryName key →
              config.levels.get? key = none := by
            intro key hkey
            rcases hkeys key hkey with rfl | rfl
            · exact hempty
            · exact hnamed
          cases hbare : config.root with
          | some level => exact ownLevel_configure_of_root hbare hroot hnone registry
          | none => exact ownLevel_configure_of_unassigned (fun _ => hbare) hnone registry

theorem contains_configure {registry : Registry} (h : registry.WellFormed) (config : Config)
    (name : String) :
    (registry.configure config).contains name = true ↔
      registry.contains name = true ∨
        ∃ key, (¬Namespace.IsRoot key ∧ config.levels.contains key = true) ∧
          (name = key ∨ name ∈ Namespace.outers key) := by
  rw [← performAll_configuring, h.contains_performAll]
  simp only [requested?_mem_configuring]

theorem exists_lookup?_configure {registry : Registry} (h : registry.WellFormed) {config : Config}
    {name : String} (hname : config.levels.contains name = true) :
    ∃ id, (registry.configure config).lookup? name = some id := by
  rcases Decidable.em (Namespace.IsRoot name) with hroot | hroot
  · exact ⟨rootId, lookup?_of_isRoot hroot⟩
  · have hcontains := (contains_configure h config name).mpr (.inr ⟨name, ⟨hroot, hname⟩, .inl rfl⟩)
    obtain ⟨id, hid⟩ := contains_iff_exists_find?.mp hcontains
    exact ⟨id, lookup?_of_find? hid hroot⟩

/-- A configuration writes no level of a logger below the root that is named like none of its keys,
or like the root. -/
theorem level_configure_of_not_key {registry : Registry} {config : Config} {id : LoggerId}
    (hroot : id ≠ rootId)
    (hname : (registry.configure config).name id = Namespace.rootName ∨
      config.levels.get? ((registry.configure config).name id) = none) :
    (registry.configure config).level id = registry.level id := by
  rw [← performAll_configuring] at hname ⊢
  apply level_performAll_of_unaddressed
  intro key generations adjustment hmem
  obtain ⟨rfl, level, rfl, hkey⟩ := of_mem_configuring hmem
  refine ⟨rfl, ?_⟩
  intro hlookup
  have hkeyRoot : ¬Namespace.IsRoot key := by
    intro hkeyRoot
    rw [lookup?_of_isRoot hkeyRoot, Option.some.injEq] at hlookup
    exact hroot hlookup.symm
  rw [name_of_find? (find?_of_lookup? hlookup hkeyRoot)] at hname
  rcases hname with hname | hnone
  · exact hkeyRoot (.inr hname)
  · rcases hkey with hname | hlevel
    · exact hkeyRoot (.inr hname)
    · rw [hnone] at hlevel
      cases hlevel

theorem settings_configure (registry : Registry) (config : Config) (id : LoggerId) :
    ((registry.configure config).settings id).propagate = (registry.settings id).propagate ∧
      ((registry.configure config).settings id).handlers = (registry.settings id).handlers := by
  rw [← performAll_configuring]
  refine settings_performAll_induction (motive := fun settings =>
    settings.propagate = (registry.settings id).propagate ∧
      settings.handlers = (registry.settings id).handlers) ?_ ⟨rfl, rfl⟩
  intro name generations adjustment hmem settings hsettings
  obtain ⟨-, level, rfl, -⟩ := of_mem_configuring hmem
  exact hsettings

theorem WellFormed.configured {registry : Registry} (h : registry.WellFormed) (config : Config) :
    Configured config registry (registry.configure config) where
  root_level := level_root_configure registry config
  key_level := by
    intro name level hroot hlevel
    have hcontains : config.levels.contains name = true :=
      Option.isSome_iff_exists.mpr ⟨level, hlevel⟩
    obtain ⟨id, hid⟩ := exists_lookup?_configure h hcontains
    refine ⟨id, hid, ?_⟩
    rw [← ownLevel_of_lookup? hid]
    exact ownLevel_configure_of_get? hlevel rfl (fun hempty => absurd (.inl hempty) hroot) registry
  kept_level := by
    intro id hid hroot hname
    apply level_configure_of_not_key hroot
    rwa [(grows_configure registry config).name_eq hid]
  new_level := by
    intro id hid hnew hname
    have hroot : id ≠ rootId := by
      rintro rfl
      exact hnew registry.holds_root
    rw [level_configure_of_not_key hroot hname, level, settings_of_not_holds hnew]
  disabledAt_eq := disabledAt_configure registry config
  propagate_eq := fun id => (settings_configure registry config id).1
  handlers_eq := fun id => (settings_configure registry config id).2
  mem_names_iff := by
    intro name
    rw [mem_names_iff, mem_names_iff, contains_configure h]
    simp only [NameMap.mem_names_iff, Namespace.mem_outers_iff]
    constructor
    · rintro (hname | ⟨key, ⟨hroot, hkey⟩, rfl | ⟨hne, hrest⟩⟩)
      · exact .inl hname
      · exact .inr ⟨fun hempty => hroot (.inl hempty), name, hkey, hroot, .inl rfl⟩
      · exact .inr ⟨hne, key, hkey, hroot, .inr hrest⟩
    · rintro (hname | ⟨hne, key, hkey, hroot, rfl | hrest⟩)
      · exact .inl hname
      · exact .inr ⟨key, ⟨hroot, hkey⟩, .inl rfl⟩
      · exact .inr ⟨key, ⟨hroot, hkey⟩, .inr ⟨hne, hrest⟩⟩
  continues := (grows_configure registry config).continues

theorem sameLoggers_configure_again {registry : Registry} (h : registry.WellFormed)
    (config : Config) :
    (registry.configure config).SameLoggers ((registry.configure config).configure config) := by
  rw [← performAll_configuring (registry.configure config)]
  apply sameLoggers_performAll_of_lookup?
  intro name generations adjustment hmem
  obtain ⟨-, level, -, rfl | hlevel⟩ := of_mem_configuring hmem
  · exact Option.isSome_iff_exists.mpr ⟨rootId, lookup?_of_isRoot (.inr rfl)⟩
  · exact Option.isSome_iff_exists.mpr
      (exists_lookup?_configure h (Option.isSome_iff_exists.mpr ⟨level, hlevel⟩))

/-- What a configuration makes of a registry decides all levels that it sets, so setting them again
changes none. -/
theorem Configured.level_again {config : Config} {earlier later again : Registry}
    (h : Configured config earlier later) (h' : Configured config later again)
    (hsame : later.SameLoggers again) (hwf : later.WellFormed) (id : LoggerId) :
    again.level id = later.level id := by
  rcases Decidable.em (later.Holds id) with hid | hnot
  · rcases Decidable.em (id = rootId) with rfl | hroot
    · rw [h'.root_level, h.root_level]
      cases ((config.levels.get? Namespace.rootName).or (config.levels.get? "")).or config.root <;>
        rfl
    · cases hlevel : config.levels.get? (later.name id) with
      | none => exact h'.kept_level id hid hroot (.inr hlevel)
      | some level =>
          rcases Decidable.em (later.name id = Namespace.rootName) with hshadow | hne
          · exact h'.kept_level id hid hroot (.inl hshadow)
          · have hfind := hwf.find?_name hid hroot
            have hname : ¬Namespace.IsRoot (later.name id) :=
              not_or.mpr ⟨hwf.ne_empty_of_find? hfind, hne⟩
            have hlookup := lookup?_of_find? hfind hname
            obtain ⟨place, hplace, hfirst⟩ := h.key_level _ level hname hlevel
            obtain ⟨held, hheld, hsecond⟩ := h'.key_level _ level hname hlevel
            rw [hsame.lookup?_eq] at hheld
            obtain rfl := Option.some.inj (hlookup.symm.trans hplace)
            obtain rfl := Option.some.inj (hlookup.symm.trans hheld)
            rw [hfirst, hsecond]
  · rw [level, level, settings_of_not_holds hnot, settings_of_not_holds]
    rwa [hsame.holds_iff]

theorem WellFormed.configure_configure {registry : Registry} (h : registry.WellFormed)
    (config : Config) :
    (registry.configure config).configure config = registry.configure config := by
  have hwf : (registry.configure config).WellFormed := by
    rw [← performAll_configuring]
    exact wellFormed_performAll h _
  have hfirst := h.configured config
  have hsecond := hwf.configured config
  have hsame := sameLoggers_configure_again h config
  refine hsame.eq_of_settings_eq ?_ ?_
  · intro id
    have hlevel := hfirst.level_again hsecond hsame hwf id
    obtain ⟨hpropagate, hhandlers⟩ := settings_configure (registry.configure config) config id
    cases hsettings : (registry.configure config).settings id
    cases hagain : ((registry.configure config).configure config).settings id
    simp only [level, hsettings, hagain] at hlevel hpropagate hhandlers
    rw [hlevel, hpropagate, hhandlers]
  · rw [hsecond.disabledAt_eq, hfirst.disabledAt_eq]
    cases config.disable <;> rfl

end LogTree.Registry

namespace LogTree.Session

theorem step_apply_fst (session : Session) (key : String) (config : Config) :
    (session.step (.registry key (.apply config))).1 =
      session.setRegistry key ((session.registry key).configure config) :=
  rfl

/-- In every state of a run, applying a configuration sets the levels and the threshold that it has,
creates the loggers that it names, and changes nothing else of the registry. Applied once more, it
changes nothing at all. -/
theorem applying_has_configured_effect (moment : Moment) (commands : List Command) (key : String)
    (config : Config) :
    let session := (run { moment } commands).1
    let applied := (session.step (.registry key (.apply config))).1
    let again := (applied.step (.registry key (.apply config))).1
    Registry.Configured config (session.registry key) (applied.registry key) ∧
      again = applied := by
  intro session applied again
  have hwf : (session.registry key).WellFormed := wellFormed_registry_run moment commands key
  have happlied : applied.registry key = (session.registry key).configure config :=
    session.registry_setRegistry_self key _
  constructor
  · rw [happlied]
    exact hwf.configured config
  · unfold again
    rw [step_apply_fst, happlied, hwf.configure_configure]
    exact session.setRegistry_setRegistry key _ _

/-- The name of the root comes before the empty name, and a level without a name comes last. -/
example :
    let config : Config :=
      { root := some .error, levels := (NameMap.insert ∅ "root" .debug).insert "" .info }
    (Registry.configure {} config).level Registry.rootId = .debug := by
  decide

end LogTree.Session

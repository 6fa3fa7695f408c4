import Mathlib
import LogTree.Proofs.DirectiveReadings
import LogTree.Proofs.LevelAgreement

namespace LogTree

theorem Namespace.eq_of_isRoot_of_lt {name other : String} (hname : IsRoot name)
    (hother : IsRoot other) (hlt : name < other) : name = "" ∧ other = rootName := by
  rcases hname with rfl | rfl
  · rcases hother with rfl | rfl
    · exact absurd hlt (by decide)
    · exact ⟨rfl, rfl⟩
  · rcases hother with rfl | rfl
    · exact absurd hlt (by decide)
    · exact absurd hlt (by decide)

namespace Registry

/-- The level that is set on the logger with a name. -/
def ownLevel (registry : Registry) (name : String) : Level :=
  (registry.obtain name).registry.level (registry.obtain name).id

theorem ownLevel_of_lookup? {registry : Registry} {name : String} {id : LoggerId}
    (h : registry.lookup? name = some id) : registry.ownLevel name = registry.level id := by
  rw [ownLevel, obtain_eq_of_lookup? h]

theorem ownLevel_of_lookup?_eq_none {registry : Registry} {name : String}
    (h : registry.lookup? name = none) : registry.ownLevel name = .notset := by
  have hfind : registry.find? name = none := by
    rwa [lookup?, if_neg (not_isRoot_of_lookup?_eq_none h)] at h
  rw [ownLevel, obtain_of_lookup?_eq_none h, obtainNamed_of_find?_eq_none hfind, level]
  split <;> rw [settings_append_id]

theorem ownLevel_append (outer : Located) (name other : String) :
    (append outer name).registry.ownLevel other = outer.registry.ownLevel other := by
  have hlookup := lookup?_append outer name other
  cases hother : outer.registry.lookup? other with
  | some id =>
      rw [hother] at hlookup
      rw [ownLevel_of_lookup? hlookup, ownLevel_of_lookup? hother, level, settings_append, level]
  | none =>
      rw [ownLevel_of_lookup?_eq_none hother]
      simp only [hother] at hlookup
      split at hlookup
      · rw [ownLevel_of_lookup? hlookup, level, settings_append_id]
      · exact ownLevel_of_lookup?_eq_none hlookup

theorem ownLevel_obtain (registry : Registry) (name other : String) :
    (registry.obtain name).registry.ownLevel other = registry.ownLevel other :=
  obtain_induction (motive := fun next => next.ownLevel other = registry.ownLevel other)
    (fun outer name _ _ _ h => (ownLevel_append outer name other).trans h) rfl name

theorem ownLevel_setLevel {registry : Registry} {name : String} {id : LoggerId}
    (hid : registry.lookup? name = some id) (level : Level) (other : String) :
    (registry.setLevel id level).ownLevel other =
      if LevelTable.entryName other = LevelTable.entryName name then level
      else registry.ownLevel other := by
  have hlookup : (registry.setLevel id level).lookup? other = registry.lookup? other :=
    lookup?_update _ _ _ _
  cases hother : registry.lookup? other with
  | some held =>
      rw [hother] at hlookup
      rw [ownLevel_of_lookup? hlookup, ownLevel_of_lookup? hother, Registry.level, setLevel,
        settings_update]
      simp only [entryName_eq_iff_of_lookup? hid hother, holds_of_lookup? hid, and_true]
      split <;> rfl
  | none =>
      rw [hother] at hlookup
      rw [ownLevel_of_lookup?_eq_none hlookup, ownLevel_of_lookup?_eq_none hother, if_neg]
      intro heq
      rcases LevelTable.entryName_eq_iff.mp heq with rfl | ⟨hroot, -⟩
      · rw [hid] at hother
        cases hother
      · exact not_isRoot_of_lookup?_eq_none hother hroot

theorem ownLevel_configureLogger (registry : Registry) (name other : String) (level : Level) :
    (registry.configureLogger name level).ownLevel other =
      if LevelTable.entryName other = LevelTable.entryName name then level
      else registry.ownLevel other := by
  rw [configureLogger, ownLevel_setLevel (registry.lookup?_obtain_self name), ownLevel_obtain]

end Registry

/-- The levels that a configuration sets, in the order in which it sets them. -/
def Config.assignments (config : Config) : List (String × Level) :=
  (config.root.map fun level => (Namespace.rootName, level)).toList ++ config.levels.entries

namespace Registry

def assign (registry : Registry) (assignments : List (String × Level)) : Registry :=
  assignments.foldl (fun registry entry => registry.configureLogger entry.1 entry.2) registry

theorem configure_eq_assign (registry : Registry) (config : Config) :
    registry.configure config = config.disable.elim (registry.assign config.assignments)
      (registry.assign config.assignments).disable := by
  rw [configure, assign, Config.assignments]
  cases config.root with
  | none => cases config.disable <;> rfl
  | some level =>
      have hroot : registry.configureLogger Namespace.rootName level =
          registry.setLevel rootId level := by
        rw [configureLogger, obtain_of_isRoot (.inr rfl)]
      rw [Option.map_some, Option.toList_some, List.singleton_append, List.foldl_cons, hroot]
      cases config.disable <;> rfl

theorem disabledAt_assign (registry : Registry) (assignments : List (String × Level)) :
    (registry.assign assignments).disabledAt = registry.disabledAt := by
  induction assignments generalizing registry with
  | nil => rfl
  | cons entry rest ih =>
      rw [assign, List.foldl_cons, ← assign, ih, configureLogger, setLevel, disabledAt_update,
        disabledAt_obtain]

theorem disabledAt_configure (registry : Registry) (config : Config) :
    (registry.configure config).disabledAt = config.disable.getD registry.disabledAt := by
  rw [configure_eq_assign]
  cases config.disable with
  | none => exact disabledAt_assign registry config.assignments
  | some level => rfl

theorem ownLevel_disable (registry : Registry) (level : Level) (name : String) :
    (registry.disable level).ownLevel name = registry.ownLevel name := by
  have hlookup : (registry.disable level).lookup? name = registry.lookup? name := rfl
  cases hname : registry.lookup? name with
  | some id =>
      rw [hname] at hlookup
      rw [ownLevel_of_lookup? hlookup, ownLevel_of_lookup? hname]
      cases id <;> rfl
  | none =>
      rw [hname] at hlookup
      rw [ownLevel_of_lookup?_eq_none hlookup, ownLevel_of_lookup?_eq_none hname]

theorem ownLevel_configure (registry : Registry) (config : Config) (name : String) :
    (registry.configure config).ownLevel name =
      (registry.assign config.assignments).ownLevel name := by
  rw [configure_eq_assign]
  cases config.disable with
  | none => rfl
  | some level => exact ownLevel_disable _ level name

def assigned? (name : String) (entry : String × Level) : Option Level :=
  if LevelTable.entryName name = LevelTable.entryName entry.1 then some entry.2 else none

theorem some_ownLevel_configureLogger (name : String) (registry : Registry)
    (entry : String × Level) :
    some ((registry.configureLogger entry.1 entry.2).ownLevel name) =
      (assigned? name entry).or (some (registry.ownLevel name)) := by
  rw [ownLevel_configureLogger, assigned?]
  split <;> rfl

theorem ownLevel_assign_of_last (before : List (String × Level)) {after : List (String × Level)}
    {name : String} {entry : String × Level} {level : Level}
    (hentry : assigned? name entry = some level)
    (hafter : ∀ later ∈ after, assigned? name later = none) (registry : Registry) :
    (registry.assign (before ++ entry :: after)).ownLevel name = level :=
  Option.some.inj (read_foldl_of_last (fun registry => some (registry.ownLevel name))
    (assigned? name) (some_ownLevel_configureLogger name) hentry hafter registry)

theorem ownLevel_assign_of_unassigned {assignments : List (String × Level)} {name : String}
    (h : ∀ entry ∈ assignments, assigned? name entry = none) (registry : Registry) :
    (registry.assign assignments).ownLevel name = registry.ownLevel name :=
  Option.some.inj (read_foldl_of_unmarked (fun registry => some (registry.ownLevel name))
    (assigned? name) (some_ownLevel_configureLogger name) h registry)

theorem ownLevel_configure_of_get? {config : Config} {key name : String} {level : Level}
    (hkey : config.levels.get? key = some level)
    (hname : LevelTable.entryName name = LevelTable.entryName key)
    (hfirst : key = "" → config.levels.get? Namespace.rootName = none) (registry : Registry) :
    (registry.configure config).ownLevel name = level := by
  obtain ⟨before, after, hsplit⟩ := List.append_of_mem (NameMap.get?_eq_some_iff.mp hkey)
  have hascending := config.levels.ascending
  rw [hsplit] at hascending
  have hafter := (List.pairwise_cons.mp (List.pairwise_append.mp hascending).2.1).1
  have hentry : assigned? name (key, level) = some level := if_pos hname
  rw [ownLevel_configure, Config.assignments, hsplit, ← List.append_assoc]
  apply ownLevel_assign_of_last _ hentry
  intro later hlater
  have hlt := hafter later hlater
  apply if_neg
  rw [hname]
  intro heq
  -- Keys ascend, so only the name of the root can follow another name of the same logger.
  rcases LevelTable.entryName_eq_iff.mp heq with hsame | ⟨hkeyRoot, hlaterRoot⟩
  · exact String.lt_irrefl _ (hsame ▸ hlt)
  · obtain ⟨hempty, hroot⟩ := Namespace.eq_of_isRoot_of_lt hkeyRoot hlaterRoot hlt
    have hmem : later ∈ config.levels.entries := by
      rw [hsplit]
      exact List.mem_append_right _ (List.mem_cons_of_mem _ hlater)
    have hget := NameMap.get?_eq_some_iff.mpr hmem
    rw [hroot, hfirst hempty] at hget
    cases hget

theorem assigned?_eq_none_of_get? {config : Config} {name : String}
    (h : ∀ key, LevelTable.entryName name = LevelTable.entryName key →
      config.levels.get? key = none) :
    ∀ entry ∈ config.levels.entries, assigned? name entry = none := by
  intro entry hentry
  apply if_neg
  intro heq
  have hget := NameMap.get?_eq_some_iff.mpr hentry
  rw [h entry.1 heq] at hget
  cases hget

theorem ownLevel_configure_of_root {config : Config} {name : String} {level : Level}
    (hlevel : config.root = some level) (hname : Namespace.IsRoot name)
    (hnone : ∀ key, LevelTable.entryName name = LevelTable.entryName key →
      config.levels.get? key = none) (registry : Registry) :
    (registry.configure config).ownLevel name = level := by
  have hroot : assigned? name (Namespace.rootName, level) = some level :=
    if_pos (LevelTable.entryName_eq_iff.mpr (.inr ⟨hname, .inr rfl⟩))
  rw [ownLevel_configure, Config.assignments, hlevel]
  exact ownLevel_assign_of_last [] hroot (assigned?_eq_none_of_get? hnone) registry

theorem ownLevel_configure_of_unassigned {config : Config} {name : String}
    (hroot : Namespace.IsRoot name → config.root = none)
    (hnone : ∀ key, LevelTable.entryName name = LevelTable.entryName key →
      config.levels.get? key = none) (registry : Registry) :
    (registry.configure config).ownLevel name = registry.ownLevel name := by
  rw [ownLevel_configure]
  apply ownLevel_assign_of_unassigned
  intro entry hentry
  rcases List.mem_append.mp hentry with hfirst | hentries
  · obtain ⟨level, hlevel, rfl⟩ := Option.map_eq_some_iff.mp (Option.mem_toList.mp hfirst)
    apply if_neg
    intro heq
    have hname : Namespace.IsRoot name := by
      rcases LevelTable.entryName_eq_iff.mp heq with rfl | ⟨hname, -⟩
      · exact .inr rfl
      · exact hname
    rw [hroot hname] at hlevel
    cases hlevel
  · exact assigned?_eq_none_of_get? hnone entry hentries

end Registry

namespace Directive

/-- The level that a directive has for the logger with a name. -/
def levelFor? (name : String) : Directive → Option Level
  | root level => if Namespace.IsRoot name then some level else none
  | logger other level =>
      if LevelTable.entryName name = LevelTable.entryName other then some level else none
  | disable _ => none

section

variable {directives : List Directive} {name : String}
  (h : ∀ directive ∈ directives, directive.levelFor? name = none)

include h

theorem logger_not_mem {key : String}
    (hkey : LevelTable.entryName name = LevelTable.entryName key) (level : Level) :
    logger key level ∉ directives := by
  intro hmem
  have hnone := h _ hmem
  rw [levelFor?, if_pos hkey] at hnone
  cases hnone

theorem root_not_mem (hname : Namespace.IsRoot name) (level : Level) :
    root level ∉ directives := by
  intro hmem
  have hnone := h _ hmem
  rw [levelFor?, if_pos hname] at hnone
  cases hnone

end

end Directive

namespace Registry

/-- The last directive for a logger decides its level, but a level without a name does not decide
against an earlier one for the name of the root. -/
theorem ownLevel_configure_of_last_directive {before after : List Directive}
    {directive : Directive} {name : String} {level : Level}
    (hempty : ∀ level, .logger "" level ∉ before ++ directive :: after)
    (hlevel : directive.levelFor? name = some level)
    (hafter : ∀ later ∈ after, later.levelFor? name = none)
    (hbare : ∀ bare, directive = .root bare → ∀ earlier,
      .logger Namespace.rootName earlier ∉ before) (registry : Registry) :
    (registry.configure ((before ++ directive :: after).foldl Config.add {})).ownLevel name =
      level := by
  cases directive with
  | disable threshold => cases hlevel
  | logger other assigned =>
      obtain ⟨hname, hassigned⟩ := Option.ite_none_right_eq_some.mp hlevel
      obtain rfl := Option.some.inj hassigned
      refine ownLevel_configure_of_get?
        (Config.get?_levels_of_last (Directive.logger_not_mem hafter hname)) hname ?_ registry
      rintro rfl
      exact absurd (List.mem_append_right _ List.mem_cons_self) (hempty assigned)
  | root assigned =>
      obtain ⟨hname, hassigned⟩ := Option.ite_none_right_eq_some.mp hlevel
      obtain rfl := Option.some.inj hassigned
      refine ownLevel_configure_of_root
        (Config.root_of_last (Directive.root_not_mem hafter hname)) hname ?_ registry
      intro key hkey
      apply Config.get?_levels_eq_none
      intro held hheld
      have hkeyRoot : Namespace.IsRoot key := by
        rcases LevelTable.entryName_eq_iff.mp hkey with rfl | ⟨-, hroot⟩
        · exact hname
        · exact hroot
      rcases hkeyRoot with rfl | rfl
      · exact hempty held hheld
      · rcases List.mem_append.mp hheld with hbefore | hrest
        · exact hbare assigned rfl held hbefore
        · rcases List.mem_cons.mp hrest with hself | hlater
          · cases hself
          · exact Directive.logger_not_mem hafter hkey held hlater

theorem ownLevel_configure_of_no_directive {directives : List Directive} {name : String}
    (h : ∀ directive ∈ directives, directive.levelFor? name = none) (registry : Registry) :
    (registry.configure (directives.foldl Config.add {})).ownLevel name =
      registry.ownLevel name :=
  ownLevel_configure_of_unassigned
    (fun hname => Config.root_eq_none (Directive.root_not_mem h hname))
    (fun _ hkey => Config.get?_levels_eq_none (Directive.logger_not_mem h hkey)) registry

end Registry

namespace Session

theorem registry_configure {text : String} {config : Config} (h : Config.parse text = .ok config)
    (moment : Moment) (commands : List Command) (key : String) :
    (run { moment } (commands ++ [.registry key (.configure text)])).1.registry key =
      ((run { moment } commands).1.registry key).configure config := by
  rw [run_append_singleton_fst]
  simp only [step, stepRegistry, h, configure, answer]
  rw [registry_setRegistry, if_pos rfl]

/-- Each logger that directives are for has the level of the last of them, and the others keep
theirs. Only the root may have the level of an earlier one: a level for its name counts, also where
one without a name follows. The last threshold counts. -/
theorem last_directives_decide (moment : Moment) (commands : List Command) (key : String)
    {text : String} {config : Config} (hparse : Config.parse text = .ok config) :
    let registry := (run { moment } commands).1.registry key
    let configured :=
      (run { moment } (commands ++ [.registry key (.configure text)])).1.registry key
    ∃ directives, Config.Spells text directives ∧
      (∀ others, Config.Spells text others → others = directives) ∧
      (∀ (name : String) (before : List Directive) (directive : Directive)
        (after : List Directive) (level : Level), directives = before ++ directive :: after →
        directive.levelFor? name = some level →
        (∀ later ∈ after, later.levelFor? name = none) →
        (∀ bare, directive = .root bare → ∀ earlier,
          .logger Namespace.rootName earlier ∉ before) →
        configured.ownLevel name = level) ∧
      (∀ (before after : List Directive) (level : Level),
        directives = before ++ .logger Namespace.rootName level :: after →
        (∀ later, .logger Namespace.rootName later ∉ after) →
        configured.ownLevel Namespace.rootName = level) ∧
      (∀ name, (∀ directive ∈ directives, directive.levelFor? name = none) →
        configured.ownLevel name = registry.ownLevel name) ∧
      (∀ (before after : List Directive) (level : Level),
        directives = before ++ .disable level :: after →
        (∀ later, .disable later ∉ after) → configured.disabledAt = level) ∧
      ((∀ level, .disable level ∉ directives) →
        configured.disabledAt = registry.disabledAt) := by
  obtain ⟨directives, hspells, rfl⟩ := Config.parse_eq_ok_iff.mp hparse
  intro registry configured
  have hconfigured : configured = registry.configure (directives.foldl Config.add {}) :=
    registry_configure hparse moment commands key
  refine ⟨directives, hspells, fun _ hothers => hspells.unique hothers, ?_, ?_, ?_, ?_, ?_⟩
  · rintro name before directive after level rfl hlevel hafter hbare
    rw [hconfigured]
    exact Registry.ownLevel_configure_of_last_directive hspells.ne_empty hlevel hafter hbare
      registry
  · rintro before after level rfl hafter
    rw [hconfigured]
    exact Registry.ownLevel_configure_of_get? (Config.get?_levels_of_last hafter) rfl
      (fun hempty => absurd hempty (by decide)) registry
  · intro name hname
    rw [hconfigured]
    exact Registry.ownLevel_configure_of_no_directive hname registry
  · rintro before after level rfl hafter
    rw [hconfigured, Registry.disabledAt_configure, Config.disable_of_last hafter]
    rfl
  · intro hnone
    rw [hconfigured, Registry.disabledAt_configure, Config.disable_eq_none hnone]
    rfl

/-- Blanks do not count, and what is set by an earlier directive is set again. -/
theorem last_directive_for_name_decides :
    let text := "app=info, error ,app = DEBUG"
    let configured := (run { moment := { instant := { seconds := 0 } } }
      ([.logger { registry := "main", name := "app.pool" } .report] ++
        [.registry "main" (.configure text)])).1.registry "main"
    Config.parse text =
        .ok { root := some .error, levels := NameMap.insert ∅ "app" .debug } ∧
      configured.ownLevel "app" = .debug ∧ configured.ownLevel "root" = .error := by
  intro text configured
  have hparse : Config.parse text =
      .ok { root := some .error, levels := NameMap.insert ∅ "app" .debug } := by
    cbv
  have hspells : Config.Spells text
      [.logger "app" .info, .root .error, .logger "app" .debug] := by
    rw [Config.spells_iff]
    cbv
  obtain ⟨directives, -, hunique, hlast, -⟩ := last_directives_decide
    { instant := { seconds := 0 } } [.logger { registry := "main", name := "app.pool" } .report]
    "main" hparse
  obtain rfl := hunique _ hspells
  refine ⟨hparse, ?_, ?_⟩
  · exact hlast "app" [.logger "app" .info, .root .error] (.logger "app" .debug) [] .debug rfl
      (by decide) (by simp) (by simp)
  · exact hlast "root" [.logger "app" .info] (.root .error) [.logger "app" .debug] .error rfl
      (by decide) (by decide) (by simp [Namespace.rootName])

/-- A level for the name of the root counts against a later level without a name. -/
theorem earlier_directive_decides_root_level :
    let text := "root=info,debug"
    let configured := (run { moment := { instant := { seconds := 0 } } }
      [.registry "main" (.configure text)]).1.registry "main"
    Config.Spells text [.logger "root" .info, .root .debug] ∧
      (Directive.root .debug).levelFor? "root" = some .debug ∧
      configured.ownLevel "root" = .info ∧ Level.info ≠ .debug := by
  intro text configured
  have hparse : Config.parse text =
      .ok { root := some .debug, levels := NameMap.insert ∅ "root" .info } := by
    cbv
  have hspells : Config.Spells text [.logger "root" .info, .root .debug] := by
    rw [Config.spells_iff]
    cbv
  refine ⟨hspells, by decide, ?_, by decide⟩
  have hconfigured := registry_configure hparse { instant := { seconds := 0 } } [] "main"
  rw [List.nil_append] at hconfigured
  unfold configured
  rw [hconfigured]
  exact Registry.ownLevel_configure_of_get? (NameMap.get?_insert ..) rfl
    (fun hempty => absurd hempty (by decide)) _

end Session

end LogTree

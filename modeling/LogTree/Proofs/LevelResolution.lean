import LogTree.Proofs.LevelAgreement

namespace LogTree

open Registry (Operation building configuring)

theorem RegistryCommand.of_writesLevel {command : RegistryCommand} {name : String}
    {generations : Nat} {adjustment : Adjustment}
    (h : .adjust name generations adjustment ∈ command.operations)
    (hwrites : adjustment.WritesLevel) :
    (∃ config, command.config? = some config ∧
        .adjust name generations adjustment ∈ configuring config) ∨
      command = .installDefaultLevel name ∧ generations = 0 ∧ adjustment = .setDefaultLevel := by
  rcases RegistryCommand.of_mem_operations h with
    hconfig | ⟨_, rfl, heq⟩ | ⟨_, -, heq⟩ | ⟨_, heq⟩
  · exact .inl hconfig
  · cases heq
    exact .inr ⟨rfl, rfl, rfl⟩
  · cases heq
  · cases heq
    exact hwrites.elim

theorem RegistryCommand.foldl_perform_operations (table : LevelTable)
    (command : RegistryCommand) :
    command.operations.foldl LevelTable.perform table = table.afterRegistryCommand command := by
  cases command with
  | apply config => exact Registry.foldl_perform_configuring table config
  | configure directives =>
      rw [operations, LevelTable.afterRegistryCommand]
      cases Config.parse directives with
      | error e => rfl
      | ok config => exact Registry.foldl_perform_configuring table config
  | configureVerbosity name verbosity => exact Registry.foldl_perform_configuring table _
  | _ => rfl

theorem LoggerCommand.not_writesLevel_adjustment (handlers : NameMap Handler)
    {command : LoggerCommand} (h : ∀ level, command ≠ .setLevel level) :
    ¬(command.adjustment handlers).WritesLevel := by
  cases command with
  | setLevel level => exact absurd rfl (h level)
  | attach key =>
      rw [adjustment]
      split <;> exact id
  | detach key =>
      rw [adjustment]
      split <;> exact id
  | offer key fails =>
      rw [adjustment]
      split <;> exact id
  | _ => exact id

theorem LevelTable.perform_of_not_writesLevel (table : LevelTable) (name : String)
    (generations : Nat) {adjustment : Adjustment} (h : ¬adjustment.WritesLevel) :
    table.perform (.adjust name generations adjustment) = table := by
  cases adjustment with
  | setLevel level => exact absurd trivial h
  | setDefaultLevel => exact absurd trivial h
  | _ => rfl

namespace Session

theorem of_writesLevel {session : Session} {command : Command} {key name : String}
    {generations : Nat} {adjustment : Adjustment}
    (h : .adjust name generations adjustment ∈ session.operations key command)
    (hwrites : adjustment.WritesLevel) :
    (∃ inner, command = .registry key inner ∧
        .adjust name generations adjustment ∈ inner.operations) ∨
      ∃ address level, command = .logger address (.setLevel level) ∧ address.registry = key ∧
        address.name = name ∧ address.generations = generations ∧
        adjustment = .setLevel level := by
  rcases of_mem_operations h with
    hregistry | ⟨address, inner, rfl, haddressed, heq⟩ | ⟨_, _, heq⟩ | ⟨build, -, heq⟩
  · exact .inl hregistry
  · obtain ⟨rfl, rfl, rfl⟩ := Operation.adjust.inj heq
    cases inner with
    | setLevel level => exact .inr ⟨address, level, rfl, haddressed, rfl, rfl, rfl⟩
    | _ =>
        refine absurd hwrites (LoggerCommand.not_writesLevel_adjustment _ ?_)
        rintro level ⟨⟩
  · cases heq
    exact hwrites.elim
  · obtain ⟨rfl, rfl, rfl⟩ := Operation.adjust.inj heq
    split at hwrites <;> exact hwrites.elim

theorem setsLevelByName_operations (session : Session) (key : String) {command : Command}
    (h : command.SetsLevelByName) :
    ∀ operation ∈ session.operations key command, operation.SetsLevelByName := by
  intro operation hoperation
  cases operation with
  | disable level => trivial
  | adjust name generations adjustment =>
      intro hwrites
      rcases of_writesLevel hoperation hwrites with
        ⟨inner, -, hinner⟩ | ⟨address, level, rfl, -, -, rfl, -⟩
      · rcases RegistryCommand.of_writesLevel hinner hwrites with ⟨config, -, hmem⟩ | ⟨-, hself, -⟩
        · exact Registry.setsLevelByName_configuring config _ hmem hwrites
        · exact hself
      · exact h

theorem foldl_perform_operations (session : Session) (key : String) (command : Command)
    (table : LevelTable) :
    (session.operations key command).foldl LevelTable.perform table = table.after key command := by
  have hnone : ∀ {command : Command}, session.effect? command = none →
      (session.operations key command).foldl LevelTable.perform table = table := by
    intro command heffect
    exact foldl_operations_of_none heffect key _ table
  have hsome : ∀ {command : Command} {addressed : String} {operations : List Operation},
      session.effect? command = some (addressed, operations) →
      (session.operations key command).foldl LevelTable.perform table =
        if addressed = key then operations.foldl LevelTable.perform table else table := by
    intro command addressed operations heffect
    exact foldl_operations_of_some heffect key _ table
  have hbuilding : ∀ {command : Command} {addressed name : String} {echo : Echo}
      {handler : Option Handler},
      session.effect? command = some (addressed, [building name echo handler]) →
      (session.operations key command).foldl LevelTable.perform table = table := by
    intro command addressed name echo handler heffect
    rw [hsome heffect, List.foldl_cons, List.foldl_nil, Registry.perform_table_building]
    exact ite_self table
  cases command with
  | registry addressed command =>
      rw [hsome rfl, RegistryCommand.foldl_perform_operations]
      rfl
  | logger address command =>
      rw [hsome rfl, List.foldl_cons, List.foldl_nil]
      cases command with
      | setLevel level => rfl
      | _ =>
          rw [LevelTable.perform_of_not_writesLevel]
          · exact ite_self table
          · apply LoggerCommand.not_writesLevel_adjustment
            rintro level ⟨⟩
  | target target command =>
      cases target with
      | logger address => exact (hsome rfl).trans (ite_self table)
      | object key => exact hnone rfl
      | holding key => exact hnone rfl
  | object objectKey command =>
      cases command with
      | make addressed cls label stateLabel echo =>
          rw [hsome rfl, List.foldl_cons, List.foldl_cons, List.foldl_nil,
            Registry.perform_table_building]
          exact ite_self table
      | writeEcho echo =>
          cases hobject : session.objects.get? objectKey with
          | none => exact hnone (by rw [effect?, hobject, Option.map_none])
          | some object => exact hbuilding (by rw [effect?, hobject, Option.map_some])
      | _ => exact hnone rfl
  | holding holdingKey command =>
      cases command with
      | build addressed name echo handlerKey =>
          cases handlerKey with
          | none => exact hbuilding rfl
          | some handlerKey =>
              cases hhandler : session.handlers.get? handlerKey with
              | none => exact hnone (by rw [effect?, hhandler, Option.map_none])
              | some handler => exact hbuilding (by rw [effect?, hhandler, Option.map_some])
      | _ => exact hnone rfl
  | _ => exact hnone rfl

theorem agreesWith_step {session : Session} {key : String} {table : LevelTable}
    (h : (session.registry key).AgreesWith table) {command : Command}
    (hname : command.SetsLevelByName) :
    ((session.step command).1.registry key).AgreesWith (table.after key command) := by
  rw [registry_step, ← session.foldl_perform_operations]
  exact h.performAll (session.setsLevelByName_operations key hname)

theorem agreesWith_run {session : Session} {key : String} {table : LevelTable}
    (h : (session.registry key).AgreesWith table) {commands : List Command}
    (hname : ∀ command ∈ commands, command.SetsLevelByName) :
    ((session.run commands).1.registry key).AgreesWith
      (commands.foldl (LevelTable.after key) table) := by
  induction commands generalizing session table with
  | nil => exact h
  | cons command rest ih =>
      obtain ⟨hfirst, hrest⟩ := List.forall_mem_cons.mp hname
      exact ih (agreesWith_step h hfirst) hrest

theorem agreesWith_run_fresh (moment : Moment) (key : String) {commands : List Command}
    (hname : ∀ command ∈ commands, command.SetsLevelByName) :
    ((run { moment } commands).1.registry key).AgreesWith
      (LevelTable.afterRun key commands) := by
  apply agreesWith_run _ hname
  rw [registry_fresh]
  exact Registry.agreesWith_fresh

end Session

namespace Registry

theorem effectiveLevel_of_parent? {registry : Registry} {id outer : LoggerId}
    (h : registry.parent? id = some outer) :
    registry.effectiveLevel id =
      if registry.level id = .notset then registry.effectiveLevel outer
      else registry.level id := by
  rw [effectiveLevel, ite_not]
  congr
  split
  · next hnone =>
      rw [h] at hnone
      cases hnone
  · next found hfound =>
      rw [h, Option.some.injEq] at hfound
      rw [hfound]

theorem effectiveLevel_root (registry : Registry) :
    registry.effectiveLevel rootId = registry.level rootId := by
  rw [effectiveLevel]
  split
  · rfl
  · next hnotset =>
      exact (Decidable.not_not.mp hnotset).symm

/-- Below the root, the levels that a walk to the parents meets are those of the texts before the
dots of the name. -/
theorem AgreesWith.effectiveLevel_of_find? {registry : Registry} {table : LevelTable}
    (h : registry.AgreesWith table) (hwf : registry.WellFormed) {name : String} {id : LoggerId}
    (hid : registry.find? name = some id) : registry.effectiveLevel id = table.resolve name := by
  induction id using Nat.strongRecOn generalizing name with
  | ind id ih =>
      have hparent := hwf.parent?_of_find? hid
      rcases Decidable.em (name = Namespace.rootName) with rfl | hne
      · -- The ordinary logger that is named like the root hangs below the root and has no level.
        rw [effectiveLevel_of_parent? hparent, if_pos (h.shadowed id hid), effectiveLevel_root,
          h.level_root, LevelTable.resolve_of_isRoot table (.inr rfl)]
      · have hlevel : registry.level id = table.read name := by
          apply h.named name id
          exact lookup?_of_find? hid (not_or.mpr ⟨hwf.ne_empty_of_find? hid, hne⟩)
        cases henclosing : Namespace.enclosing? name with
        | none =>
            rw [enclosingId?, henclosing] at hparent
            rw [effectiveLevel_of_parent? hparent, effectiveLevel_root, h.level_root, hlevel,
              LevelTable.resolve_of_enclosing?_eq_none table henclosing]
        | some outer =>
            rw [enclosingId?, henclosing] at hparent
            obtain ⟨outerId, houter⟩ := exists_parent?_of_holds (holds_of_find? hid)
              (ne_rootId_of_find? hid)
            rw [effectiveLevel_of_parent? houter.1, hlevel,
              ih outerId (parent?_lt houter.1) (hparent.symm.trans houter.1),
              LevelTable.resolve_of_enclosing? table henclosing]

theorem AgreesWith.effectiveLevel_obtain {registry : Registry} {table : LevelTable}
    (h : registry.AgreesWith table) (hwf : registry.WellFormed) (name : String) :
    (registry.obtain name).registry.effectiveLevel (registry.obtain name).id =
      table.resolve name := by
  have hlookup := registry.lookup?_obtain_self name
  have hobtain := h.obtain name
  rcases Decidable.em (Namespace.IsRoot name) with hroot | hroot
  · rw [lookup?_of_isRoot hroot, Option.some.injEq] at hlookup
    rw [← hlookup, effectiveLevel_root, hobtain.level_root,
      LevelTable.resolve_of_isRoot table hroot]
  · exact hobtain.effectiveLevel_of_find? (wellFormed_obtain hwf name)
      (find?_of_lookup? hlookup hroot)

end Registry

namespace Session

theorem step_effectiveLevel (session : Session) (key name : String) :
    (session.step (.target (.logger { registry := key, name }) .effectiveLevel)).2 =
      .ok (.level (((session.registry key).obtain name).registry.effectiveLevel
        ((session.registry key).obtain name).id)) := by
  have hlocated := registry_locate session { registry := key, name } key
  rw [if_pos rfl] at hlocated
  rw [← hlocated]
  rfl

/-- In every state of a run, the level that counts for a name is the first one that is set among
those written last for the name, for the texts before its dots and for the root. Nothing else of
the run matters: any other run that writes the same levels in the same order gives the same. -/
theorem effectiveLevel_resolves_written_levels (moment : Moment) (key name : String)
    {commands : List Command} (hname : ∀ command ∈ commands, command.SetsLevelByName) :
    let level := (LevelTable.afterRun key commands).resolve name
    let ask := Command.target (.logger { registry := key, name }) .effectiveLevel
    ((run { moment } commands).1.step ask).2 = .ok (.level level) ∧
      ∀ others : List Command, (∀ command ∈ others, command.SetsLevelByName) →
        others.filter (Command.writesLevels key) = commands.filter (Command.writesLevels key) →
        ((run { moment } others).1.step ask).2 = .ok (.level level) := by
  have hresolve : ∀ commands : List Command,
      (∀ command ∈ commands, command.SetsLevelByName) →
      ((run { moment } commands).1.step
        (.target (.logger { registry := key, name }) .effectiveLevel)).2 =
          .ok (.level ((LevelTable.afterRun key commands).resolve name)) := by
    intro commands hname
    rw [step_effectiveLevel, (agreesWith_run_fresh moment key hname).effectiveLevel_obtain
      (wellFormed_registry_run moment commands key)]
  intro level ask
  refine ⟨hresolve commands hname, ?_⟩
  intro others hothers hwrites
  rw [hresolve others hothers, ← LevelTable.afterRun_filter key others, hwrites,
    LevelTable.afterRun_filter]

/-- A level that is set on a namespace counts for a logger below it, whichever comes first. -/
theorem effectiveLevel_of_outer_namespace :
    let outer := Command.logger { registry := "main", name := "app" } (.setLevel .info)
    let ask := Command.target (.logger { registry := "main", name := "app.db.pool" })
      .effectiveLevel
    ((run { moment := { instant := { seconds := 0 } } } [outer]).1.step ask).2 =
        .ok (.level .info) ∧
      ((run { moment := { instant := { seconds := 0 } } } [ask, outer]).1.step ask).2 =
        .ok (.level .info) := by
  intro outer ask
  have hname : ∀ command ∈ [ask, outer], command.SetsLevelByName :=
    List.forall_mem_cons.mpr ⟨trivial, List.forall_mem_singleton.mpr rfl⟩
  have hresolve := effectiveLevel_resolves_written_levels { instant := { seconds := 0 } } "main"
    "app.db.pool" (List.forall_mem_cons.mp hname).2
  have hlevel : (LevelTable.afterRun "main" [outer]).resolve "app.db.pool" = .info := by
    decide
  rw [hlevel] at hresolve
  exact ⟨hresolve.1, hresolve.2 [ask, outer] hname (by decide)⟩

end Session

end LogTree

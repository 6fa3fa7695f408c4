import LogTree.Proofs.LevelTable
import LogTree.Proofs.LoggerIdentity

namespace LogTree.Registry

/-- The loggers of a registry have the levels of a table. An ordinary logger named like the root
cannot be asked for, so no level is set on it. -/
structure AgreesWith (registry : Registry) (table : LevelTable) : Prop where
  named : ∀ name id, registry.lookup? name = some id → registry.level id = table.read name
  shadowed : ∀ id, registry.find? Namespace.rootName = some id → registry.level id = .notset
  absent : ∀ name, registry.lookup? name = none → table.read name = .notset

theorem agreesWith_fresh : AgreesWith {} LevelTable.fresh where
  named := by
    intro name id hid
    rcases Decidable.em (Namespace.IsRoot name) with hroot | hroot
    · rw [lookup?_of_isRoot hroot, Option.some.injEq] at hid
      rw [← hid, LevelTable.read_of_isRoot _ hroot]
      rfl
    · cases find?_of_lookup? hid hroot
  shadowed := by
    rintro id ⟨⟩
  absent := by
    intro name hnone
    have hroot := not_isRoot_of_lookup?_eq_none hnone
    rw [LevelTable.fresh, LevelTable.read_write, if_neg]
    · rfl
    · intro heq
      rcases LevelTable.entryName_eq_iff.mp heq with rfl | ⟨hname, -⟩
      · exact hroot (.inr rfl)
      · exact hroot hname

theorem AgreesWith.level_root {registry : Registry} {table : LevelTable}
    (h : registry.AgreesWith table) : registry.level rootId = table.read Namespace.rootName :=
  h.named _ _ (lookup?_of_isRoot (.inr rfl))

theorem lookup?_append (outer : Located) (name other : String) :
    (append outer name).registry.lookup? other =
      match outer.registry.lookup? other with
      | some id => some id
      | none => if other = name then some (append outer name).id else none := by
  rw [lookup?, lookup?]
  split
  · rfl
  · exact find?_append outer name other

theorem AgreesWith.append {outer : Located} {name : String} {table : LevelTable}
    (h : outer.registry.AgreesWith table) : (append outer name).registry.AgreesWith table := by
  refine ⟨?_, ?_, ?_⟩
  · intro other id hid
    rw [lookup?_append] at hid
    split at hid
    · next held hheld =>
        obtain rfl := Option.some.inj hid
        rw [level, settings_append_of_holds outer name (holds_of_lookup? hheld)]
        exact h.named other held hheld
    · next hnone =>
        split at hid
        · obtain rfl := Option.some.inj hid
          rw [level, settings_append_id, h.absent other hnone]
        · cases hid
  · intro id hid
    rw [find?_append] at hid
    split at hid
    · next held hheld =>
        obtain rfl := Option.some.inj hid
        rw [level, settings_append_of_holds outer name (holds_of_find? hheld)]
        exact h.shadowed held hheld
    · split at hid
      · obtain rfl := Option.some.inj hid
        rw [level, settings_append_id]
      · cases hid
  · intro other hother
    rw [lookup?_append] at hother
    split at hother
    · cases hother
    · next hnone =>
        exact h.absent other hnone

theorem AgreesWith.obtain {registry : Registry} {table : LevelTable}
    (h : registry.AgreesWith table) (name : String) :
    (registry.obtain name).registry.AgreesWith table :=
  obtain_induction (motive := fun other => other.AgreesWith table)
    (fun _ _ _ _ _ hother => hother.append) h name

theorem level_update_of_ne {registry : Registry} {id other : LoggerId}
    {change : Settings → Settings} (h : other ≠ id) :
    (registry.update id change).level other = registry.level other := by
  rw [level, settings_update_of_ne h, level]

theorem level_update_of_level_eq {registry : Registry} {id : LoggerId}
    {change : Settings → Settings}
    (h : (change (registry.settings id)).level = registry.level id) (other : LoggerId) :
    (registry.update id change).level other = registry.level other := by
  rw [level, settings_update]
  split
  · next hself =>
      obtain ⟨rfl, -⟩ := hself
      exact h
  · rfl

theorem AgreesWith.update_of_level_eq {registry : Registry} {table : LevelTable}
    (h : registry.AgreesWith table) {id : LoggerId} {change : Settings → Settings}
    (hlevel : (change (registry.settings id)).level = registry.level id) :
    (registry.update id change).AgreesWith table := by
  have hlevels := level_update_of_level_eq hlevel
  refine ⟨?_, ?_, ?_⟩
  · intro name held hheld
    rw [lookup?_update] at hheld
    rw [hlevels, h.named name held hheld]
  · intro held hheld
    rw [find?_update] at hheld
    rw [hlevels, h.shadowed held hheld]
  · intro name hname
    rw [lookup?_update] at hname
    exact h.absent name hname

theorem entryName_eq_iff_of_lookup? {registry : Registry} {name other : String}
    {id held : LoggerId} (hid : registry.lookup? name = some id)
    (hheld : registry.lookup? other = some held) :
    LevelTable.entryName other = LevelTable.entryName name ↔ held = id := by
  rw [LevelTable.entryName_eq_iff]
  constructor
  · rintro (rfl | ⟨hother, hname⟩)
    · rw [hid, Option.some.injEq] at hheld
      exact hheld.symm
    · rw [lookup?_of_isRoot hother, Option.some.injEq] at hheld
      rw [lookup?_of_isRoot hname, Option.some.injEq] at hid
      exact hheld.symm.trans hid
  · rintro rfl
    exact lookup?_injective hheld hid

theorem AgreesWith.write {registry : Registry} {table : LevelTable}
    (h : registry.AgreesWith table) {name : String} {id : LoggerId}
    (hid : registry.lookup? name = some id) (level : Level) :
    (registry.setLevel id level).AgreesWith (table.write name level) := by
  rw [setLevel]
  refine ⟨?_, ?_, ?_⟩
  · intro other held hheld
    rw [lookup?_update] at hheld
    rw [LevelTable.read_write]
    split
    · next heq =>
        obtain rfl := (entryName_eq_iff_of_lookup? hid hheld).mp heq
        rw [Registry.level, settings_update_self (holds_of_lookup? hid)]
    · next hne =>
        rw [level_update_of_ne, h.named other held hheld]
        exact fun heq => hne ((entryName_eq_iff_of_lookup? hid hheld).mpr heq)
  · intro held hheld
    rw [find?_update] at hheld
    rw [level_update_of_ne, h.shadowed held hheld]
    rintro rfl
    have hroot : ¬Namespace.IsRoot name := by
      intro hroot
      rw [lookup?_of_isRoot hroot, Option.some.injEq] at hid
      exact ne_rootId_of_find? hheld hid.symm
    rw [← name_of_find? (find?_of_lookup? hid hroot), name_of_find? hheld] at hroot
    exact hroot (.inr rfl)
  · intro other hnone
    rw [lookup?_update] at hnone
    rw [LevelTable.read_write, if_neg]
    · exact h.absent other hnone
    · intro heq
      have hother := not_isRoot_of_lookup?_eq_none hnone
      rcases LevelTable.entryName_eq_iff.mp heq with rfl | ⟨hroot, -⟩
      · rw [hid] at hnone
        cases hnone
      · exact hother hroot

end LogTree.Registry

namespace LogTree

def Adjustment.WritesLevel : Adjustment → Prop
  | setLevel _ | setDefaultLevel => True
  | keep | setPropagate _ | attach _ | detach _ | offer _ => False

theorem Adjustment.level_apply {adjustment : Adjustment} (h : ¬adjustment.WritesLevel)
    (settings : Settings) : (adjustment.apply settings).level = settings.level := by
  cases adjustment with
  | keep => rfl
  | setLevel level => exact absurd trivial h
  | setDefaultLevel => exact absurd trivial h
  | setPropagate propagate => rfl
  | attach handler =>
      rw [apply, Settings.attach]
      split <;> rfl
  | detach handler => rfl
  | offer handler =>
      cases handler with
      | none => rfl
      | some handler =>
          rw [apply]
          split <;> rfl

theorem Registry.level_perform (registry : Registry) (operation : Operation) (id : LoggerId) :
    (registry.perform operation).level id = registry.level id ∨
      ∃ name generations adjustment, operation = .adjust name generations adjustment ∧
        adjustment.WritesLevel ∧
        (registry.obtain name).registry.climb? (registry.obtain name).id generations = some id ∧
        (registry.perform operation).level id =
          (adjustment.apply (registry.settings id)).level := by
  rcases registry.settings_perform operation id with
    heq | ⟨name, generations, adjustment, rfl, hplace, heq⟩
  · exact .inl (congrArg Settings.level heq)
  · rw [level, heq]
    rcases Classical.em adjustment.WritesLevel with hwrites | hwrites
    · exact .inr ⟨name, generations, adjustment, rfl, hwrites, hplace, rfl⟩
    · exact .inl (Adjustment.level_apply hwrites _)

def Registry.Operation.SetsLevelByName : Registry.Operation → Prop
  | .adjust _ generations adjustment => adjustment.WritesLevel → generations = 0
  | .disable _ => True

def LevelTable.perform (table : LevelTable) : Registry.Operation → LevelTable
  | .adjust name _ (.setLevel level) => table.write name level
  | .adjust name _ .setDefaultLevel => table.writeDefault name
  | .adjust _ _ _ | .disable _ => table

namespace Registry

theorem AgreesWith.perform {registry : Registry} {table : LevelTable}
    (h : registry.AgreesWith table) {operation : Operation} (hname : operation.SetsLevelByName) :
    (registry.perform operation).AgreesWith (table.perform operation) := by
  cases operation with
  | disable level => exact ⟨h.named, h.shadowed, h.absent⟩
  | adjust name generations adjustment =>
      have hobtain := h.obtain name
      have hlookup := lookup?_obtain_self registry name
      have hkeep : ¬adjustment.WritesLevel →
          (registry.perform (.adjust name generations adjustment)).AgreesWith table := by
        intro hnot
        rw [Registry.perform]
        split
        · exact hobtain
        · exact hobtain.update_of_level_eq (Adjustment.level_apply hnot _)
      cases adjustment with
      | setLevel level =>
          obtain rfl := hname trivial
          exact hobtain.write hlookup level
      | setDefaultLevel =>
          obtain rfl := hname trivial
          rw [perform_setDefaultLevel, installDefaultLevel, LevelTable.perform,
            LevelTable.writeDefault, ← hobtain.named name _ hlookup]
          split
          · next hnotset =>
              rw [if_pos (Level.isNotset_iff.mp hnotset)]
              exact hobtain.write hlookup .warning
          · next hset =>
              rw [if_neg (mt Level.isNotset_iff.mpr hset)]
              exact hobtain
      | keep => exact hkeep id
      | setPropagate propagate => exact hkeep id
      | attach handler => exact hkeep id
      | detach handler => exact hkeep id
      | offer handler => exact hkeep id

theorem AgreesWith.performAll {registry : Registry} {table : LevelTable}
    (h : registry.AgreesWith table) {operations : List Operation}
    (hname : ∀ operation ∈ operations, operation.SetsLevelByName) :
    (registry.performAll operations).AgreesWith (operations.foldl LevelTable.perform table) := by
  induction operations generalizing registry table with
  | nil => exact h
  | cons operation rest ih =>
      apply ih (h.perform (hname operation List.mem_cons_self))
      intro next hnext
      exact hname next (List.mem_cons_of_mem _ hnext)

theorem setsLevelByName_configuring (config : Config) :
    ∀ operation ∈ configuring config, operation.SetsLevelByName := by
  intro operation hoperation
  rcases mem_configuring_iff.mp hoperation with
    ⟨level, -, rfl⟩ | ⟨name, level, -, rfl⟩ | ⟨level, -, rfl⟩
  · exact fun _ => rfl
  · exact fun _ => rfl
  · trivial

theorem foldl_perform_configuring (table : LevelTable) (config : Config) :
    (configuring config).foldl LevelTable.perform table = table.configure config := by
  have hlevels : ∀ (entries : List (String × Level)) (table : LevelTable),
      (entries.map fun entry => Operation.adjust entry.1 0 (.setLevel entry.2)).foldl
          LevelTable.perform table =
        entries.foldl (fun table entry => table.write entry.1 entry.2) table := by
    intro entries table
    rw [List.foldl_map]
    rfl
  rw [configuring, List.foldl_append, List.foldl_append, hlevels, LevelTable.configure]
  cases config.root <;> cases config.disable <;> rfl

theorem perform_table_building (table : LevelTable) (name : String) (echo : Echo)
    (handler : Option Handler) : table.perform (building name echo handler) = table := by
  cases echo <;> rfl

end Registry

end LogTree

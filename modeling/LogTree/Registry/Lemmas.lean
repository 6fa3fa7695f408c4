import LogTree.Registry.Attach
import LogTree.Registry.Lookup
import LogTree.Registry.Walk

namespace LogTree.Registry

@[simp] theorem length_update (registry : Registry) (id : LoggerId)
    (change : Settings → Settings) :
    (registry.update id change).loggers.length = registry.loggers.length := by
  cases id <;> simp [update]

@[simp] theorem holds_update {registry : Registry} {id other : LoggerId}
    {change : Settings → Settings} :
    (registry.update id change).Holds other ↔ registry.Holds other := by
  simp [Holds]

@[simp] theorem disabledAt_update (registry : Registry) (id : LoggerId)
    (change : Settings → Settings) :
    (registry.update id change).disabledAt = registry.disabledAt := by
  cases id <;> rfl

@[simp] theorem name_update (registry : Registry) (id other : LoggerId)
    (change : Settings → Settings) :
    (registry.update id change).name other = registry.name other := by
  cases id with
  | zero => cases other <;> rfl
  | succ k =>
      cases other with
      | zero => rfl
      | succ i =>
          simp only [update, name, List.getElem?_modify]
          cases registry.loggers[i]? with
          | none => rfl
          | some logger => by_cases h : k = i <;> simp [h]

@[simp] theorem parent?_update (registry : Registry) (id other : LoggerId)
    (change : Settings → Settings) :
    (registry.update id change).parent? other = registry.parent? other := by
  cases id with
  | zero => cases other <;> rfl
  | succ k =>
      cases other with
      | zero => rfl
      | succ i =>
          simp only [update, parent?, List.getElem?_modify]
          cases registry.loggers[i]? with
          | none => rfl
          | some logger => by_cases h : k = i <;> simp [h]

theorem settings_update_self {registry : Registry} {id : LoggerId}
    {change : Settings → Settings} (h : registry.Holds id) :
    (registry.update id change).settings id = change (registry.settings id) := by
  cases id with
  | zero => rfl
  | succ k =>
      have hlogger := List.getElem?_eq_getElem (l := registry.loggers) (i := k) h
      simp [update, settings, hlogger]

theorem settings_update_of_ne {registry : Registry} {id other : LoggerId}
    {change : Settings → Settings} (h : other ≠ id) :
    (registry.update id change).settings other = registry.settings other := by
  cases id with
  | zero =>
      cases other with
      | zero => exact absurd rfl h
      | succ i => rfl
  | succ k =>
      cases other with
      | zero => rfl
      | succ i =>
          have hne : ¬k = i := fun heq => h (congrArg Nat.succ heq.symm)
          simp only [update, settings, List.getElem?_modify]
          cases registry.loggers[i]? with
          | none => rfl
          | some logger => simp [hne]

@[simp] theorem find?_update (registry : Registry) (id : LoggerId) (change : Settings → Settings)
    (name : String) : (registry.update id change).find? name = registry.find? name := by
  cases id with
  | zero => rfl
  | succ k =>
      have hnames : (registry.loggers.modify k fun logger =>
          { logger with settings := change logger.settings }).map Logger.name =
          registry.loggers.map Logger.name := by
        apply List.ext_getElem?
        intro i
        simp only [List.getElem?_map, List.getElem?_modify]
        cases registry.loggers[i]? with
        | none => rfl
        | some logger => by_cases h : k = i <;> simp [h]
      have hfind : ∀ loggers : List Logger,
          (loggers.findIdx? fun logger => logger.name = name) =
            (loggers.map Logger.name).findIdx? fun other => other = name := by
        intro loggers
        simp [List.findIdx?_map, Function.comp_def]
      simp only [find?, update, hfind, hnames]

@[simp] theorem lookup?_update (registry : Registry) (id : LoggerId)
    (change : Settings → Settings) (name : String) :
    (registry.update id change).lookup? name = registry.lookup? name := by
  simp [lookup?]

section

variable (outer : Located) (name : String)

@[simp] theorem disabledAt_append :
    (append outer name).registry.disabledAt = outer.registry.disabledAt :=
  rfl

@[simp] theorem length_append :
    (append outer name).registry.loggers.length = outer.registry.loggers.length + 1 := by
  simp [append]

@[simp] theorem id_append : (append outer name).id = outer.registry.loggers.length + 1 :=
  rfl

theorem settings_append_of_holds {id : LoggerId} (h : outer.registry.Holds id) :
    (append outer name).registry.settings id = outer.registry.settings id := by
  cases id with
  | zero => rfl
  | succ k => simp only [append, settings, List.getElem?_append_left (show k < _ from h)]

@[simp] theorem settings_append_id :
    (append outer name).registry.settings (append outer name).id = {} := by
  simp [append, settings]

end

theorem obtain_eq_of_lookup? {registry : Registry} {name : String} {id : LoggerId}
    (h : registry.lookup? name = some id) :
    registry.obtain name = ⟨registry, id, holds_of_lookup? h⟩ := by
  rw [obtain]
  split
  · next found hfound =>
      rw [h] at hfound
      cases hfound
      rfl
  · next hnone =>
      rw [h] at hnone
      cases hnone

theorem obtain_of_isRoot {registry : Registry} {name : String} (h : Namespace.IsRoot name) :
    registry.obtain name = ⟨registry, rootId, Nat.zero_le _⟩ :=
  obtain_eq_of_lookup? (by rw [lookup?, if_pos h])

theorem obtainNamed_eq_of_find? {registry : Registry} {name : String} {id : LoggerId}
    (h : registry.find? name = some id) :
    registry.obtainNamed name = ⟨registry, id, holds_of_find? h⟩ := by
  rw [obtainNamed]
  split
  · next found hfound =>
      rw [h] at hfound
      cases hfound
      rfl
  · next hnone =>
      rw [h] at hnone
      cases hnone

theorem obtainNamed_of_find?_eq_none {registry : Registry} {name : String}
    (h : registry.find? name = none) :
    registry.obtainNamed name =
      match Namespace.enclosing? name with
      | none => append ⟨registry, rootId, Nat.zero_le _⟩ name
      | some outer => append (registry.obtainNamed outer) name := by
  rw [obtainNamed]
  split
  · next found hfound =>
      rw [h] at hfound
      cases hfound
  · split <;> simp [*]

end LogTree.Registry

import LogTree.Proofs.CheckedLogging
import LogTree.Proofs.ObjectWrites

namespace LogTree

namespace Registry

/-- Two registries have the same loggers at the same places; what is set on them may differ. -/
def SameLoggers (registry other : Registry) : Prop :=
  other.identities = registry.identities

section

variable {registry other : Registry} (h : registry.SameLoggers other)

include h

theorem SameLoggers.length_eq : other.loggers.length = registry.loggers.length := by
  rw [← length_identities other, ← length_identities registry, h]

theorem SameLoggers.holds_iff (id : LoggerId) : other.Holds id ↔ registry.Holds id := by
  rw [Holds, Holds, h.length_eq]

theorem SameLoggers.name_eq (id : LoggerId) : other.name id = registry.name id := by
  cases id with
  | zero => rfl
  | succ k => rw [name_succ, name_succ, h]

theorem SameLoggers.parent?_eq (id : LoggerId) : other.parent? id = registry.parent? id := by
  cases id with
  | zero => rfl
  | succ k => rw [parent?_succ, parent?_succ, h]

theorem SameLoggers.find?_eq (name : String) : other.find? name = registry.find? name := by
  rw [find?_eq_findIdx?, find?_eq_findIdx?, h]

theorem SameLoggers.lookup?_eq (name : String) : other.lookup? name = registry.lookup? name := by
  rw [lookup?, lookup?, h.find?_eq]

theorem SameLoggers.names_eq : other.names = registry.names := by
  have hnames : other.loggers.map Logger.name = registry.loggers.map Logger.name := by
    have hfirst := congrArg (List.map Prod.fst) h
    rw [identities, identities, List.map_map, List.map_map] at hfirst
    exact hfirst
  rw [names, names, hnames]

theorem SameLoggers.climb?_eq (id : LoggerId) (generations : Nat) :
    other.climb? id generations = registry.climb? id generations := by
  induction generations generalizing id with
  | zero => rfl
  | succ generations ih =>
      rw [climb?, climb?, h.parent?_eq, funext ih]

theorem SameLoggers.obtainNamed (name : String) :
    (registry.obtainNamed name).registry.SameLoggers (other.obtainNamed name).registry ∧
      (other.obtainNamed name).id = (registry.obtainNamed name).id := by
  have happend : ∀ {outer next : Located} (name : String),
      outer.registry.SameLoggers next.registry → next.id = outer.id →
      (append outer name).registry.SameLoggers (append next name).registry ∧
        (append next name).id = (append outer name).id := by
    intro outer next name hsame hid
    refine ⟨?_, ?_⟩
    · rw [SameLoggers, identities_append, identities_append, hid, hsame]
    · rw [id_append, id_append, hsame.length_eq]
  induction name using obtainNamed.induct registry with
  | case1 name id hfind =>
      rw [obtainNamed_eq_of_find? hfind, obtainNamed_eq_of_find? ((h.find?_eq name).trans hfind)]
      exact ⟨h, rfl⟩
  | case2 name hnone hroot =>
      rw [obtainNamed_of_find?_eq_none hnone,
        obtainNamed_of_find?_eq_none ((h.find?_eq name).trans hnone), hroot]
      exact happend name h rfl
  | case3 name hnone outer houter ih =>
      rw [obtainNamed_of_find?_eq_none hnone,
        obtainNamed_of_find?_eq_none ((h.find?_eq name).trans hnone), houter]
      exact happend name ih.1 ih.2

theorem SameLoggers.obtain (name : String) :
    (registry.obtain name).registry.SameLoggers (other.obtain name).registry ∧
      (other.obtain name).id = (registry.obtain name).id := by
  cases hlookup : registry.lookup? name with
  | some id =>
      rw [obtain_eq_of_lookup? hlookup, obtain_eq_of_lookup? ((h.lookup?_eq name).trans hlookup)]
      exact ⟨h, rfl⟩
  | none =>
      rw [obtain_of_lookup?_eq_none hlookup,
        obtain_of_lookup?_eq_none ((h.lookup?_eq name).trans hlookup)]
      exact h.obtainNamed name

theorem SameLoggers.update (id : LoggerId) (change : Settings → Settings) :
    (registry.update id change).SameLoggers (other.update id change) := by
  rw [SameLoggers, identities_update, identities_update, h]

theorem SameLoggers.effectiveLevel_eq (hlevel : ∀ id, other.level id = registry.level id)
    (id : LoggerId) : other.effectiveLevel id = registry.effectiveLevel id := by
  induction id using Nat.strongRecOn with
  | ind id ih =>
      rw [effectiveLevel, effectiveLevel, hlevel, h.parent?_eq]
      congr 1
      split
      · rfl
      · next outer houter =>
          exact ih outer (parent?_lt houter)

end

end Registry

/-- Settings may differ in their handlers and in nothing else. -/
structure Settings.SameButHandlers (settings other : Settings) : Prop where
  level_eq : other.level = settings.level
  propagate_eq : other.propagate = settings.propagate

theorem Settings.SameButHandlers.apply {settings other : Settings}
    (h : settings.SameButHandlers other) (adjustment : Adjustment) :
    (adjustment.apply settings).SameButHandlers (adjustment.apply other) := by
  obtain ⟨hlevel, hpropagate⟩ := h
  cases adjustment with
  | keep => exact ⟨hlevel, hpropagate⟩
  | setLevel level => exact ⟨rfl, hpropagate⟩
  | setDefaultLevel =>
      simp only [Adjustment.apply, hlevel]
      split
      · exact ⟨rfl, hpropagate⟩
      · exact ⟨hlevel, hpropagate⟩
  | setPropagate propagate => exact ⟨hlevel, rfl⟩
  | attach handler =>
      simp only [Adjustment.apply, Settings.attach]
      refine ⟨?_, ?_⟩
      · simp [apply_ite Settings.level, hlevel]
      · simp [apply_ite Settings.propagate, hpropagate]
  | detach handler => exact ⟨hlevel, hpropagate⟩
  | offer handler =>
      cases handler with
      | none => exact ⟨hlevel, hpropagate⟩
      | some handler =>
          simp only [Adjustment.apply]
          refine ⟨?_, ?_⟩
          · simp [apply_ite Settings.level, hlevel]
          · simp [apply_ite Settings.propagate, hpropagate]

theorem Settings.sameButHandlers_building (settings : Settings) (echo : Echo)
    (handler : Option Handler) :
    ((if echo.isEnabled then Adjustment.offer handler else .keep).apply settings).SameButHandlers
      settings := by
  split
  · cases handler with
    | none => exact ⟨rfl, rfl⟩
    | some handler =>
        rw [Adjustment.apply]
        split <;> exact ⟨rfl, rfl⟩
  · exact ⟨rfl, rfl⟩

namespace Registry

/-- Two registries differ in nothing but the handlers of one logger. -/
structure AlikeBeyond (id : LoggerId) (registry other : Registry) : Prop where
  sameLoggers : registry.SameLoggers other
  disabledAt_eq : other.disabledAt = registry.disabledAt
  settings_eq : ∀ place, place ≠ id → other.settings place = registry.settings place
  sameButHandlers : (registry.settings id).SameButHandlers (other.settings id)

theorem alikeBeyond_refl (id : LoggerId) (registry : Registry) :
    AlikeBeyond id registry registry :=
  ⟨rfl, rfl, fun _ _ => rfl, ⟨rfl, rfl⟩⟩

section

variable {id : LoggerId} {registry other : Registry} (h : AlikeBeyond id registry other)

include h

theorem AlikeBeyond.symm : AlikeBeyond id other registry where
  sameLoggers := Eq.symm h.sameLoggers
  disabledAt_eq := h.disabledAt_eq.symm
  settings_eq := fun place hne => (h.settings_eq place hne).symm
  sameButHandlers := ⟨h.sameButHandlers.level_eq.symm, h.sameButHandlers.propagate_eq.symm⟩

theorem AlikeBeyond.settings (place : LoggerId) :
    (registry.settings place).SameButHandlers (other.settings place) := by
  rcases Decidable.em (place = id) with rfl | hne
  · exact h.sameButHandlers
  · rw [h.settings_eq place hne]
    exact ⟨rfl, rfl⟩

theorem AlikeBeyond.effectiveLevel_eq (place : LoggerId) :
    other.effectiveLevel place = registry.effectiveLevel place :=
  h.sameLoggers.effectiveLevel_eq (fun place => (h.settings place).level_eq) place

theorem AlikeBeyond.threshold_eq (outlet : Outlet) :
    outlet.threshold other = outlet.threshold registry := by
  rcases outlet with logger | ⟨echo, logger⟩
  · exact h.effectiveLevel_eq logger
  · cases echo with
    | unset => exact h.effectiveLevel_eq logger
    | off => exact h.effectiveLevel_eq logger
    | on => rfl
    | debug => rfl

theorem AlikeBeyond.isEnabledFor_eq (outlet : Outlet) (level : Level) :
    outlet.isEnabledFor other level = outlet.isEnabledFor registry level := by
  rw [Bool.eq_iff_iff, Outlet.isEnabledFor_iff, Outlet.isEnabledFor_iff, Outlet.Permits,
    Outlet.Permits, h.disabledAt_eq, h.threshold_eq]

theorem AlikeBeyond.obtain (name : String) :
    AlikeBeyond id (registry.obtain name).registry (other.obtain name).registry := by
  refine ⟨(h.sameLoggers.obtain name).1, ?_, ?_, ?_⟩
  · rw [disabledAt_obtain, disabledAt_obtain, h.disabledAt_eq]
  · intro place hne
    rw [settings_obtain, settings_obtain, h.settings_eq place hne]
  · rw [settings_obtain, settings_obtain]
    exact h.sameButHandlers

theorem AlikeBeyond.adjust (place : LoggerId) (adjustment : Adjustment) :
    AlikeBeyond id (registry.update place adjustment.apply)
      (other.update place adjustment.apply) := by
  refine ⟨h.sameLoggers.update place _, ?_, ?_, ?_⟩
  · rw [disabledAt_update, disabledAt_update, h.disabledAt_eq]
  · intro held hne
    rw [settings_update, settings_update, h.settings_eq held hne]
    simp only [h.sameLoggers.holds_iff]
  · rw [settings_update, settings_update]
    simp only [h.sameLoggers.holds_iff]
    split
    · exact h.sameButHandlers.apply adjustment
    · exact h.sameButHandlers

theorem AlikeBeyond.perform (operation : Operation) :
    AlikeBeyond id (registry.perform operation) (other.perform operation) := by
  cases operation with
  | adjust name generations adjustment =>
      have hobtain := h.obtain name
      have hclimb : (other.obtain name).registry.climb? (other.obtain name).id generations =
          (registry.obtain name).registry.climb? (registry.obtain name).id generations := by
        rw [(h.sameLoggers.obtain name).2, hobtain.sameLoggers.climb?_eq]
      simp only [Registry.perform, hclimb]
      split
      · exact hobtain
      · exact hobtain.adjust _ adjustment
  | disable level => exact ⟨h.sameLoggers, rfl, h.settings_eq, h.sameButHandlers⟩

theorem AlikeBeyond.performAll (operations : List Operation) :
    AlikeBeyond id (registry.performAll operations) (other.performAll operations) := by
  induction operations generalizing registry other with
  | nil => exact h
  | cons operation rest ih => exact ih (h.perform operation)

theorem AlikeBeyond.build_left {name : String} (hname : registry.lookup? name = some id)
    (echo : Echo) (handler : Option Handler) :
    AlikeBeyond id (registry.perform (building name echo handler)) other := by
  have hperform : registry.perform (building name echo handler) =
      registry.update id
        (if echo.isEnabled then Adjustment.offer handler else Adjustment.keep).apply := by
    rw [building, Registry.perform, obtain_eq_of_lookup? hname]
    rfl
  rw [hperform]
  refine ⟨?_, ?_, ?_, ?_⟩
  · rw [SameLoggers, identities_update, h.sameLoggers]
  · rw [disabledAt_update, h.disabledAt_eq]
  · intro place hne
    rw [settings_update_of_ne hne, h.settings_eq place hne]
  · rw [settings_update]
    split
    · have hchange := (registry.settings id).sameButHandlers_building echo handler
      exact ⟨h.sameButHandlers.level_eq.trans hchange.level_eq,
        h.sameButHandlers.propagate_eq.trans hchange.propagate_eq⟩
    · exact h.sameButHandlers

theorem AlikeBeyond.outlet_build_eq (name : String) (echo : Echo) :
    (other.build name echo).outlet = (registry.build name echo).outlet := by
  have hid := (h.sameLoggers.obtain name).2
  rw [build, build, outlet_buildWith, outlet_buildWith, hid]

theorem AlikeBeyond.makeState_eq (cls : LoggedClass) (label : Option String) (echo : Echo) :
    (other.makeState cls label echo).2 = (registry.makeState cls label echo).2 := by
  have hclass := h.obtain cls.namespaceName
  simp only [makeState, classLogger, hclass.outlet_build_eq]

end

/-- For one and the same name, what an outlet is built with matters to the handlers of its logger
and to nothing else. -/
theorem alikeBeyond_building (registry : Registry) (name : String) (first last : Echo)
    (handler : Option Handler) :
    AlikeBeyond (registry.obtain name).id (registry.perform (building name first handler))
      (registry.perform (building name last handler)) := by
  have hname := lookup?_obtain_self registry name
  have hperform : ∀ echo, registry.perform (building name echo handler) =
      (registry.obtain name).registry.perform (building name echo handler) := by
    intro echo
    rw [building, Registry.perform, Registry.perform, obtain_eq_of_lookup? hname]
  rw [hperform first, hperform last]
  have hfirst := (alikeBeyond_refl _ (registry.obtain name).registry).build_left hname first handler
  exact (hfirst.symm.build_left hname last handler).symm

end Registry

end LogTree

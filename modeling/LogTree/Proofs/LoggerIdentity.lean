import LogTree.Proofs.SessionOperations

namespace LogTree.Registry

/-- Names and loggers of a registry match. -/
structure NamesLoggers (registry : Registry) : Prop where
  /-- From a request on, the name stands for the logger that the request gave. -/
  requested : ∀ name,
    (registry.obtain name).registry.lookup? name = some (registry.obtain name).id
  /-- Only the two names of the root share a logger. -/
  same_iff : ∀ name other,
    (registry.sameLogger name other).2 = true ↔
      name = other ∨ Namespace.IsRoot name ∧ Namespace.IsRoot other
  /-- A logger has the name it was asked for, and the root has its own. -/
  named : ∀ name, (registry.obtain name).registry.name (registry.obtain name).id =
    if Namespace.IsRoot name then Namespace.rootName else name
  /-- Below the root, loggers are registered under their names, which are not empty. -/
  registered : ∀ name id, registry.find? name = some id →
    name ≠ "" ∧ registry.name id = name
  found : ∀ id, registry.Holds id → id ≠ rootId → registry.find? (registry.name id) = some id
  /-- The parent of a logger below the root is in the registry, and the root has none. -/
  linked : ∀ id, registry.Holds id → id ≠ rootId →
    ∃ outer, registry.parent? id = some outer ∧ registry.Holds outer
  root : registry.parent? rootId = none

/-- Nothing that loggers are known by has changed from one state of a registry to another. -/
structure Continues (earlier later : Registry) : Prop where
  /-- No logger is removed. -/
  holds : ∀ id, earlier.Holds id → later.Holds id
  /-- No logger is replaced by another one. -/
  name_eq : ∀ id, earlier.Holds id → later.name id = earlier.name id
  parent?_eq : ∀ id, earlier.Holds id → later.parent? id = earlier.parent? id
  /-- A registered name stands for the same logger, and asking for it changes nothing. -/
  obtain_eq : ∀ name id, earlier.lookup? name = some id →
    (later.obtain name).id = id ∧ (later.obtain name).registry = later

theorem lookup?_of_isRoot {registry : Registry} {name : String} (h : Namespace.IsRoot name) :
    registry.lookup? name = some rootId := by
  rw [lookup?, if_pos h]

theorem isRoot_of_lookup? {registry : Registry} {name : String}
    (h : registry.lookup? name = some rootId) : Namespace.IsRoot name := by
  rw [lookup?] at h
  split at h
  · assumption
  · exact absurd rfl (ne_rootId_of_find? h)

theorem find?_of_lookup? {registry : Registry} {name : String} {id : LoggerId}
    (h : registry.lookup? name = some id) (hroot : ¬Namespace.IsRoot name) :
    registry.find? name = some id := by
  rwa [lookup?, if_neg hroot] at h

theorem lookup?_of_find? {registry : Registry} {name : String} {id : LoggerId}
    (h : registry.find? name = some id) (hroot : ¬Namespace.IsRoot name) :
    registry.lookup? name = some id := by
  rwa [lookup?, if_neg hroot]

theorem lookup?_injective {registry : Registry} {name other : String} {id : LoggerId}
    (hname : registry.lookup? name = some id) (hother : registry.lookup? other = some id) :
    name = other ∨ Namespace.IsRoot name ∧ Namespace.IsRoot other := by
  rcases Decidable.em (Namespace.IsRoot name) with hroot | hroot
  · rw [lookup?_of_isRoot hroot, Option.some.injEq] at hname
    exact .inr ⟨hroot, isRoot_of_lookup? (hname ▸ hother)⟩
  · have hfind := find?_of_lookup? hname hroot
    have hother' : ¬Namespace.IsRoot other := by
      intro hroot'
      rw [lookup?_of_isRoot hroot', Option.some.injEq] at hother
      exact ne_rootId_of_find? hfind hother.symm
    left
    rw [← name_of_find? hfind, name_of_find? (find?_of_lookup? hother hother')]

theorem sameLogger_iff (registry : Registry) (name other : String) :
    (registry.sameLogger name other).2 = true ↔
      name = other ∨ Namespace.IsRoot name ∧ Namespace.IsRoot other := by
  have hother := lookup?_obtain_self (registry.obtain name).registry other
  have hname := (grows_obtain (registry.obtain name).registry other).lookup?_eq
    (lookup?_obtain_self registry name)
  rw [sameLogger, decide_eq_true_eq]
  constructor
  · intro heq
    exact lookup?_injective hname (heq ▸ hother)
  · rintro (rfl | ⟨hroot, hroot'⟩)
    · rw [hname, Option.some.injEq] at hother
      exact hother
    · rw [lookup?_of_isRoot hroot, Option.some.injEq] at hname
      rw [lookup?_of_isRoot hroot', Option.some.injEq] at hother
      exact hname.symm.trans hother

theorem name_obtain (registry : Registry) (name : String) :
    (registry.obtain name).registry.name (registry.obtain name).id =
      if Namespace.IsRoot name then Namespace.rootName else name := by
  have hlookup := lookup?_obtain_self registry name
  split
  · next hroot =>
      rw [lookup?_of_isRoot hroot, Option.some.injEq] at hlookup
      rw [← hlookup]
      rfl
  · next hroot =>
      exact name_of_find? (find?_of_lookup? hlookup hroot)

theorem WellFormed.ne_empty_of_find? {registry : Registry} (h : registry.WellFormed)
    {name : String} {id : LoggerId} (hid : registry.find? name = some id) : name ≠ "" := by
  have hmem : name ∈ registry.identities.map Prod.fst := by
    rcases Decidable.em (name ∈ registry.identities.map Prod.fst) with hmem | hmem
    · exact hmem
    · rw [find?_eq_none_iff.mpr hmem] at hid
      cases hid
  obtain ⟨identity, hidentity, rfl⟩ := List.mem_map.mp hmem
  exact h.named identity hidentity

theorem exists_parent?_of_holds {registry : Registry} {id : LoggerId} (h : registry.Holds id)
    (hroot : id ≠ rootId) : ∃ outer, registry.parent? id = some outer ∧ registry.Holds outer := by
  cases id with
  | zero => exact absurd rfl hroot
  | succ k =>
      have hlogger := List.getElem?_eq_getElem (l := registry.loggers) (i := k) h
      refine ⟨registry.loggers[k].parent, ?_, ?_⟩
      · rw [parent?, hlogger, Option.map_some]
      · exact Nat.le_trans (registry.parent_le k _ hlogger) (Nat.le_of_succ_le h)

theorem WellFormed.namesLoggers {registry : Registry} (h : registry.WellFormed) :
    registry.NamesLoggers where
  requested := registry.lookup?_obtain_self
  same_iff := registry.sameLogger_iff
  named := registry.name_obtain
  registered := fun _ _ hid => ⟨h.ne_empty_of_find? hid, name_of_find? hid⟩
  found := fun _ hid hroot => h.find?_name hid hroot
  linked := fun _ hid hroot => exists_parent?_of_holds hid hroot
  root := rfl

theorem Grows.continues {earlier later : Registry} (h : earlier.Grows later) :
    earlier.Continues later where
  holds := fun _ hid => h.holds hid
  name_eq := fun _ hid => h.name_eq hid
  parent?_eq := fun _ hid => h.parent?_eq hid
  obtain_eq := by
    intro name id hid
    rw [obtain_eq_of_lookup? (h.lookup?_eq hid)]
    exact ⟨rfl, rfl⟩

end LogTree.Registry

namespace LogTree.Session

/-- In every state of a run names and loggers match, and for the rest of the run they stay as they
are, whatever else is done. -/
theorem loggers_keep_names_and_places (moment : Moment) (before after : List Command)
    (key : String) :
    let session := (run { moment } before).1
    let later := (run { moment } (before ++ after)).1
    (session.registry key).NamesLoggers ∧
      (session.registry key).Continues (later.registry key) := by
  refine ⟨(wellFormed_registry_run moment before key).namesLoggers, ?_⟩
  rw [run_append_fst]
  exact (grows_registry_run _ after key).continues

end LogTree.Session

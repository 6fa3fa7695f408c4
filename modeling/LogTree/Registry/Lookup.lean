import LogTree.NameMap
import LogTree.Registry

namespace LogTree

structure Located where
  registry : Registry
  id : LoggerId
  holds : registry.Holds id

namespace Registry

/-- The place of the logger with a name, the root left aside. -/
def find? (registry : Registry) (name : String) : Option LoggerId :=
  (registry.loggers.findIdx? fun logger => logger.name = name).map (· + 1)

theorem holds_of_find? {registry : Registry} {name : String} {id : LoggerId}
    (h : registry.find? name = some id) : registry.Holds id := by
  obtain ⟨k, hk, rfl⟩ := Option.map_eq_some_iff.mp h
  exact (List.findIdx?_eq_some_iff_findIdx_eq.mp hk).1

/-- Adds a logger at the next place, on which nothing is set. -/
def append (outer : Located) (name : String) : Located where
  registry := {
    outer.registry with
    loggers := outer.registry.loggers ++ [{ name, parent := outer.id }]
    parent_le := by
      intro k logger h
      rw [List.getElem?_append] at h
      split at h
      · exact outer.registry.parent_le k logger h
      · next hk =>
          have hmem := List.mem_of_getElem? h
          rw [List.mem_singleton] at hmem
          subst hmem
          exact Nat.le_trans outer.holds (Nat.le_of_not_lt hk) }
  id := outer.registry.loggers.length + 1
  holds := by simp [Holds]

/-- The logger with a name, which is created, after the namespaces that enclose it, if it is not
there. A logger named like the root is an ordinary one here. -/
def obtainNamed (registry : Registry) (name : String) : Located :=
  match hfound : registry.find? name with
  | some id => ⟨registry, id, holds_of_find? hfound⟩
  | none =>
      match _ : Namespace.enclosing? name with
      | none => append ⟨registry, rootId, Nat.zero_le _⟩ name
      | some outer => append (registry.obtainNamed outer) name
termination_by name.length
decreasing_by exact Namespace.enclosing?_length_lt (by assumption)

def lookup? (registry : Registry) (name : String) : Option LoggerId :=
  if Namespace.IsRoot name then some rootId else registry.find? name

theorem holds_of_lookup? {registry : Registry} {name : String} {id : LoggerId}
    (h : registry.lookup? name = some id) : registry.Holds id := by
  rw [lookup?] at h
  split at h
  · cases h
    exact Nat.zero_le _
  · exact holds_of_find? h

/-- The logger for a name: the root for the two names of the root, else the logger with that name,
created at the first request. -/
def obtain (registry : Registry) (name : String) : Located :=
  match h : registry.lookup? name with
  | some id => ⟨registry, id, holds_of_lookup? h⟩
  | none => registry.obtainNamed name

/-- Whether a logger below the root has this name. -/
def contains (registry : Registry) (name : String) : Bool :=
  (registry.find? name).isSome

def names (registry : Registry) : List String :=
  (NameMap.ofNames (registry.loggers.map Logger.name)).names

end Registry

end LogTree

import LogTree.Proofs.EnclosingNamespaces
import LogTree.Registry.Lemmas

namespace LogTree.Registry

/-- What stays of the loggers for good: their names and parents, by place. -/
def identities (registry : Registry) : List (String × LoggerId) :=
  registry.loggers.map fun logger => (logger.name, logger.parent)

/-- All loggers of a registry are in another one too, at their places. -/
def Grows (earlier later : Registry) : Prop :=
  earlier.identities <+: later.identities

theorem grows_refl (registry : Registry) : registry.Grows registry :=
  List.prefix_rfl

theorem Grows.trans {first second third : Registry} (h : first.Grows second)
    (h' : second.Grows third) : first.Grows third :=
  List.IsPrefix.trans h h'

@[simp] theorem length_identities (registry : Registry) :
    registry.identities.length = registry.loggers.length :=
  List.length_map _

theorem name_succ (registry : Registry) (k : Nat) :
    registry.name (k + 1) = (registry.identities[k]?.map Prod.fst).getD "" := by
  rw [identities, List.getElem?_map, name]
  cases registry.loggers[k]? <;> rfl

theorem parent?_succ (registry : Registry) (k : Nat) :
    registry.parent? (k + 1) = registry.identities[k]?.map Prod.snd := by
  rw [identities, List.getElem?_map, parent?]
  cases registry.loggers[k]? <;> rfl

theorem find?_eq_findIdx? (registry : Registry) (name : String) :
    registry.find? name =
      (registry.identities.findIdx? fun identity => identity.1 = name).map (· + 1) := by
  rw [identities, List.findIdx?_map]
  rfl

@[simp] theorem identities_update (registry : Registry) (id : LoggerId)
    (change : Settings → Settings) :
    (registry.update id change).identities = registry.identities := by
  cases id with
  | zero => rfl
  | succ k =>
      apply List.ext_getElem?
      intro i
      simp only [identities, update, List.getElem?_map, List.getElem?_modify]
      cases registry.loggers[i]? with
      | none => rfl
      | some logger =>
          rcases Decidable.em (k = i) with rfl | hne
          · simp
          · simp [hne]

@[simp] theorem identities_append (outer : Located) (name : String) :
    (append outer name).registry.identities = outer.registry.identities ++ [(name, outer.id)] := by
  simp [identities, append]

theorem grows_update (registry : Registry) (id : LoggerId) (change : Settings → Settings) :
    registry.Grows (registry.update id change) := by
  rw [Grows]
  exact ⟨[], by rw [identities_update, List.append_nil]⟩

theorem grows_append (outer : Located) (name : String) :
    outer.registry.Grows (append outer name).registry := by
  rw [Grows, identities_append]
  exact List.prefix_append _ _

section

variable {earlier later : Registry} (h : earlier.Grows later)

include h

theorem Grows.holds {id : LoggerId} (hid : earlier.Holds id) : later.Holds id := by
  have hle := List.IsPrefix.length_le h
  rw [length_identities, length_identities] at hle
  exact Nat.le_trans hid hle

theorem Grows.getElem?_eq {k : Nat} (hk : k < earlier.loggers.length) :
    later.identities[k]? = earlier.identities[k]? := by
  obtain ⟨added, hadded⟩ := h
  rw [← hadded]
  exact List.getElem?_append_left (by rwa [length_identities])

theorem Grows.name_eq {id : LoggerId} (hid : earlier.Holds id) :
    later.name id = earlier.name id := by
  cases id with
  | zero => rfl
  | succ k => rw [name_succ, name_succ, h.getElem?_eq hid]

theorem Grows.parent?_eq {id : LoggerId} (hid : earlier.Holds id) :
    later.parent? id = earlier.parent? id := by
  cases id with
  | zero => rfl
  | succ k => rw [parent?_succ, parent?_succ, h.getElem?_eq hid]

theorem Grows.find?_eq {name : String} {id : LoggerId} (hid : earlier.find? name = some id) :
    later.find? name = some id := by
  obtain ⟨added, hadded⟩ := h
  rw [find?_eq_findIdx?] at hid ⊢
  obtain ⟨k, hk, hkid⟩ := Option.map_eq_some_iff.mp hid
  rw [← hadded, List.findIdx?_append, hk]
  simp [hkid]

theorem Grows.lookup?_eq {name : String} {id : LoggerId} (hid : earlier.lookup? name = some id) :
    later.lookup? name = some id := by
  rw [lookup?] at hid ⊢
  split at hid
  · next hroot =>
      rwa [if_pos hroot]
  · next hroot =>
      rw [if_neg hroot]
      exact h.find?_eq hid

end

theorem name_of_find? {registry : Registry} {name : String} {id : LoggerId}
    (h : registry.find? name = some id) : registry.name id = name := by
  rw [find?_eq_findIdx?] at h
  obtain ⟨k, hk, rfl⟩ := Option.map_eq_some_iff.mp h
  obtain ⟨hlt, hname, -⟩ := List.findIdx?_eq_some_iff_getElem.mp hk
  rw [name_succ, List.getElem?_eq_getElem hlt]
  exact of_decide_eq_true hname

theorem ne_rootId_of_find? {registry : Registry} {name : String} {id : LoggerId}
    (h : registry.find? name = some id) : id ≠ rootId := by
  obtain ⟨k, -, rfl⟩ := Option.map_eq_some_iff.mp h
  exact Nat.succ_ne_zero k

theorem find?_eq_none_iff {registry : Registry} {name : String} :
    registry.find? name = none ↔ name ∉ registry.identities.map Prod.fst := by
  rw [find?_eq_findIdx?, Option.map_eq_none_iff, List.findIdx?_eq_none_iff]
  constructor
  · intro h hmem
    obtain ⟨identity, hidentity, rfl⟩ := List.mem_map.mp hmem
    exact absurd (h identity hidentity) (by simp)
  · intro h identity hidentity
    apply decide_eq_false
    rintro rfl
    exact h (List.mem_map_of_mem hidentity)

theorem find?_append (outer : Located) (name other : String) :
    (append outer name).registry.find? other =
      match outer.registry.find? other with
      | some id => some id
      | none => if other = name then some (append outer name).id else none := by
  simp only [find?_eq_findIdx?, identities_append, List.findIdx?_append]
  cases outer.registry.identities.findIdx? fun identity => identity.1 = other with
  | some k => rfl
  | none =>
      rcases Decidable.em (name = other) with rfl | hne
      · simp [List.findIdx?_cons]
      · simp [List.findIdx?_cons, hne, Ne.symm hne]

end LogTree.Registry

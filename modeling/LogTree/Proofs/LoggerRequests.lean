import LogTree.Proofs.RegistryGrowth

namespace LogTree.Registry

/-- The logger below which a logger of this name belongs: that of the enclosing namespace, or the
root where no namespace encloses the name. -/
def enclosingId? (registry : Registry) (name : String) : Option LoggerId :=
  match Namespace.enclosing? name with
  | none => some rootId
  | some outer => registry.find? outer

structure WellFormed (registry : Registry) : Prop where
  distinct : (registry.identities.map Prod.fst).Nodup
  named : ∀ identity ∈ registry.identities, identity.1 ≠ ""
  linked : ∀ identity ∈ registry.identities, registry.enclosingId? identity.1 = some identity.2

theorem Grows.enclosingId?_eq {earlier later : Registry} (h : earlier.Grows later)
    {name : String} {id : LoggerId} (hid : earlier.enclosingId? name = some id) :
    later.enclosingId? name = some id := by
  rw [enclosingId?] at hid ⊢
  split at hid
  · exact hid
  · exact h.find?_eq hid

theorem wellFormed_fresh : WellFormed {} where
  distinct := List.nodup_nil
  named := by simp [identities]
  linked := by simp [identities]

theorem wellFormed_of_identities_eq {registry other : Registry}
    (heq : other.identities = registry.identities) (h : registry.WellFormed) :
    other.WellFormed := by
  refine ⟨heq ▸ h.distinct, heq ▸ h.named, ?_⟩
  intro identity hidentity
  have hgrows : registry.Grows other := by
    rw [Grows]
    exact ⟨[], by rw [heq, List.append_nil]⟩
  exact hgrows.enclosingId?_eq (h.linked identity (heq ▸ hidentity))

theorem wellFormed_append {outer : Located} {name : String} (h : outer.registry.WellFormed)
    (hname : name ≠ "") (hfresh : outer.registry.find? name = none)
    (houter : outer.registry.enclosingId? name = some outer.id) :
    (append outer name).registry.WellFormed := by
  have hgrows := grows_append outer name
  refine ⟨?_, ?_, ?_⟩
  · rw [identities_append, List.map_append, List.nodup_append]
    refine ⟨h.distinct, by simp, ?_⟩
    intro held hheld other hother
    rw [List.map_singleton, List.mem_singleton] at hother
    rintro rfl
    subst hother
    exact find?_eq_none_iff.mp hfresh hheld
  · intro identity hidentity
    rw [identities_append, List.mem_append, List.mem_singleton] at hidentity
    rcases hidentity with hheld | rfl
    · exact h.named identity hheld
    · exact hname
  · intro identity hidentity
    rw [identities_append, List.mem_append, List.mem_singleton] at hidentity
    rcases hidentity with hheld | rfl
    · exact hgrows.enclosingId?_eq (h.linked identity hheld)
    · exact hgrows.enclosingId?_eq houter

theorem WellFormed.find?_name {registry : Registry} (h : registry.WellFormed) {id : LoggerId}
    (hid : registry.Holds id) (hroot : id ≠ rootId) :
    registry.find? (registry.name id) = some id := by
  cases id with
  | zero => exact absurd rfl hroot
  | succ k =>
      have hk : k < registry.identities.length := by rwa [length_identities]
      rw [find?_eq_findIdx?, name_succ, List.getElem?_eq_getElem hk]
      have hindex : registry.identities.findIdx? (fun identity =>
          identity.1 = registry.identities[k].1) = some k := by
        apply List.findIdx?_eq_some_iff_getElem.mpr
        refine ⟨hk, decide_eq_true rfl, ?_⟩
        intro j hj hname
        have hlength : (registry.identities.map Prod.fst).length = registry.identities.length :=
          List.length_map Prod.fst
        have hjlt : j < (registry.identities.map Prod.fst).length := by omega
        have hklt : k < (registry.identities.map Prod.fst).length := by omega
        have hnames : (registry.identities.map Prod.fst)[j] =
            (registry.identities.map Prod.fst)[k] := by
          simpa using hname
        exact Nat.ne_of_lt hj ((List.getElem_inj h.distinct).mp hnames)
      simp [hindex]

theorem WellFormed.parent?_of_find? {registry : Registry} (h : registry.WellFormed)
    {name : String} {id : LoggerId} (hid : registry.find? name = some id) :
    registry.parent? id = registry.enclosingId? name := by
  have hname := name_of_find? hid
  cases id with
  | zero => exact absurd rfl (ne_rootId_of_find? hid)
  | succ k =>
      have hk : k < registry.identities.length := by
        rw [length_identities]
        exact holds_of_find? hid
      rw [name_succ, List.getElem?_eq_getElem hk] at hname
      rw [parent?_succ, List.getElem?_eq_getElem hk, ← hname]
      exact (h.linked _ (List.getElem_mem hk)).symm

theorem find?_obtainNamed_of_length_lt (registry : Registry) {name other : String}
    (h : name.length < other.length) :
    (registry.obtainNamed name).registry.find? other = registry.find? other := by
  induction name using obtainNamed.induct registry with
  | case1 name id hfind =>
      rw [obtainNamed_eq_of_find? hfind]
  | case2 name hnone hroot =>
      rw [obtainNamed_of_find?_eq_none hnone, hroot]
      simp only [find?_append]
      cases registry.find? other with
      | some id => rfl
      | none =>
          apply if_neg
          rintro rfl
          omega
  | case3 name hnone outer houter ih =>
      have hlt := Namespace.enclosing?_length_lt houter
      rw [obtainNamed_of_find?_eq_none hnone, houter]
      simp only [find?_append]
      rw [ih (by omega)]
      cases registry.find? other with
      | some id => rfl
      | none =>
          apply if_neg
          rintro rfl
          omega

theorem find?_obtainNamed_self (registry : Registry) (name : String) :
    (registry.obtainNamed name).registry.find? name =
      some (registry.obtainNamed name).id := by
  induction name using obtainNamed.induct registry with
  | case1 name id hfind =>
      rw [obtainNamed_eq_of_find? hfind]
      exact hfind
  | case2 name hnone hroot =>
      rw [obtainNamed_of_find?_eq_none hnone, hroot]
      simp [find?_append, hnone]
  | case3 name hnone outer houter ih =>
      have hlt := Namespace.enclosing?_length_lt houter
      rw [obtainNamed_of_find?_eq_none hnone, houter]
      simp [find?_append, find?_obtainNamed_of_length_lt registry hlt, hnone]

theorem obtainNamed_induction {motive : Registry → Prop} {registry : Registry}
    (happend : ∀ (outer : Located) (name : String), name ≠ "" →
      outer.registry.find? name = none → outer.registry.enclosingId? name = some outer.id →
      motive outer.registry → motive (append outer name).registry)
    (hstart : motive registry) {name : String} (hname : name ≠ "") :
    motive (registry.obtainNamed name).registry := by
  induction name using obtainNamed.induct registry with
  | case1 name id hfind =>
      rw [obtainNamed_eq_of_find? hfind]
      exact hstart
  | case2 name hnone hroot =>
      rw [obtainNamed_of_find?_eq_none hnone, hroot]
      exact happend _ name hname hnone (by rw [enclosingId?, hroot]) hstart
  | case3 name hnone outer houter ih =>
      have hlt := Namespace.enclosing?_length_lt houter
      rw [obtainNamed_of_find?_eq_none hnone, houter]
      refine happend _ name hname ?_ ?_ (ih (Namespace.ne_empty_of_enclosing? houter))
      · rw [find?_obtainNamed_of_length_lt registry hlt, hnone]
      · rw [enclosingId?, houter]
        exact find?_obtainNamed_self registry outer

theorem obtain_of_lookup?_eq_none {registry : Registry} {name : String}
    (h : registry.lookup? name = none) : registry.obtain name = registry.obtainNamed name := by
  rw [obtain]
  split
  · next id hid =>
      rw [h] at hid
      cases hid
  · rfl

theorem not_isRoot_of_lookup?_eq_none {registry : Registry} {name : String}
    (h : registry.lookup? name = none) : ¬Namespace.IsRoot name := by
  intro hroot
  rw [lookup?, if_pos hroot] at h
  cases h

theorem obtain_induction {motive : Registry → Prop} {registry : Registry}
    (happend : ∀ (outer : Located) (name : String), name ≠ "" →
      outer.registry.find? name = none → outer.registry.enclosingId? name = some outer.id →
      motive outer.registry → motive (append outer name).registry)
    (hstart : motive registry) (name : String) :
    motive (registry.obtain name).registry := by
  cases hlookup : registry.lookup? name with
  | some id =>
      rw [obtain_eq_of_lookup? hlookup]
      exact hstart
  | none =>
      rw [obtain_of_lookup?_eq_none hlookup]
      apply obtainNamed_induction happend hstart
      rintro rfl
      exact not_isRoot_of_lookup?_eq_none hlookup (.inl rfl)

theorem grows_obtain (registry : Registry) (name : String) :
    registry.Grows (registry.obtain name).registry :=
  obtain_induction (motive := registry.Grows)
    (fun outer name _ _ _ h => h.trans (grows_append outer name)) registry.grows_refl name

theorem wellFormed_obtain {registry : Registry} (h : registry.WellFormed) (name : String) :
    (registry.obtain name).registry.WellFormed :=
  obtain_induction (motive := WellFormed)
    (fun _ _ hname hfresh houter h => wellFormed_append h hname hfresh houter) h name

theorem lookup?_obtain_self (registry : Registry) (name : String) :
    (registry.obtain name).registry.lookup? name = some (registry.obtain name).id := by
  cases hlookup : registry.lookup? name with
  | some id =>
      rw [obtain_eq_of_lookup? hlookup]
      exact hlookup
  | none =>
      rw [obtain_of_lookup?_eq_none hlookup, lookup?,
        if_neg (not_isRoot_of_lookup?_eq_none hlookup)]
      exact find?_obtainNamed_self registry name

theorem disabledAt_obtain (registry : Registry) (name : String) :
    (registry.obtain name).registry.disabledAt = registry.disabledAt :=
  obtain_induction (motive := fun other => other.disabledAt = registry.disabledAt)
    (fun outer name _ _ _ h => (disabledAt_append outer name).trans h) rfl name

theorem holds_append_iff {outer : Located} {name : String} {id : LoggerId} :
    (append outer name).registry.Holds id ↔
      outer.registry.Holds id ∨ id = (append outer name).id := by
  rw [Holds, Holds, length_append, id_append]
  exact Nat.le_add_one_iff

theorem settings_of_not_holds {registry : Registry} {id : LoggerId} (h : ¬registry.Holds id) :
    registry.settings id = {} := by
  cases id with
  | zero => exact absurd (Nat.zero_le _) h
  | succ k => rw [settings, List.getElem?_eq_none (Nat.le_of_not_lt h)]

theorem settings_append (outer : Located) (name : String) (id : LoggerId) :
    (append outer name).registry.settings id = outer.registry.settings id := by
  rcases Decidable.em (outer.registry.Holds id) with hholds | hnot
  · exact settings_append_of_holds outer name hholds
  · rw [settings_of_not_holds hnot]
    rcases Decidable.em (id = (append outer name).id) with rfl | hne
    · exact settings_append_id outer name
    · exact settings_of_not_holds fun hid => (holds_append_iff.mp hid).elim hnot hne

theorem settings_obtain (registry : Registry) (name : String) (id : LoggerId) :
    (registry.obtain name).registry.settings id = registry.settings id :=
  obtain_induction (motive := fun other => other.settings id = registry.settings id)
    (fun outer name _ _ _ hother => (settings_append outer name id).trans hother) rfl name

theorem settings_update (registry : Registry) (id other : LoggerId)
    (change : Settings → Settings) :
    (registry.update id change).settings other =
      if other = id ∧ registry.Holds id then change (registry.settings other)
      else registry.settings other := by
  rcases Decidable.em (other = id) with rfl | hne
  · rcases Decidable.em (registry.Holds other) with hholds | hnot
    · rw [settings_update_self hholds, if_pos ⟨rfl, hholds⟩]
    · rw [if_neg fun h => hnot h.2, settings_of_not_holds hnot,
        settings_of_not_holds fun hholds => hnot (holds_update.mp hholds)]
  · rw [settings_update_of_ne hne, if_neg fun h => hne h.1]

end LogTree.Registry

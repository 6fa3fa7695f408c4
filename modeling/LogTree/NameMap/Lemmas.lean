import LogTree.NameMap

namespace LogTree.NameMap

universe u

variable {α : Type u}

theorem lookup_entry (name other : String) (value : α) (entries : List (String × α)) :
    ((other, value) :: entries).lookup name =
      if name = other then some value else entries.lookup name := by
  rw [List.lookup_cons]
  by_cases h : name = other
  · simp [h]
  · simp [beq_false_of_ne h, h]

theorem lookup_place (name other : String) (value : α) (entries : List (String × α)) :
    (place name value entries).lookup other =
      if other = name then some value else entries.lookup other := by
  induction entries with
  | nil => simp [place, lookup_entry]
  | cons first rest ih =>
      obtain ⟨held, content⟩ := first
      rw [place]
      split
      · exact lookup_entry ..
      · split
        · next heq =>
            subst heq
            by_cases h : other = name <;> simp [lookup_entry, h]
        · next hne =>
            rw [lookup_entry, lookup_entry, ih]
            by_cases h : other = name
            · subst h
              simp [hne]
            · simp [h]

@[simp] theorem get?_empty (name : String) : (∅ : NameMap α).get? name = none :=
  rfl

@[simp] theorem get?_insert (map : NameMap α) (name other : String) (value : α) :
    (map.insert name value).get? other = if other = name then some value else map.get? other :=
  lookup_place name other value map.entries

theorem lookup_eq_none_of_lt {name : String} {entries : List (String × α)}
    (h : ∀ entry ∈ entries, name < entry.1) : entries.lookup name = none := by
  induction entries with
  | nil => rfl
  | cons first rest ih =>
      have hne : name ≠ first.1 := by
        intro heq
        have hlt := h first List.mem_cons_self
        rw [← heq] at hlt
        exact String.lt_irrefl name hlt
      rw [lookup_entry, ih fun entry hentry => h entry (List.mem_cons_of_mem _ hentry)]
      simp [hne]

theorem lookup_eq_some_iff_mem {entries : List (String × α)}
    (h : entries.Pairwise fun a b => a.1 < b.1) {name : String} {value : α} :
    entries.lookup name = some value ↔ (name, value) ∈ entries := by
  induction entries with
  | nil => simp
  | cons first rest ih =>
      obtain ⟨held, content⟩ := first
      have hfirst := (List.pairwise_cons.mp h).1
      rw [lookup_entry, List.mem_cons]
      by_cases heq : name = held
      · subst heq
        have habsent : (name, value) ∉ rest := fun hmem =>
          String.lt_irrefl name (hfirst (name, value) hmem)
        simp [habsent, eq_comm]
      · simp [heq, ih (List.pairwise_cons.mp h).2]

theorem get?_eq_some_iff {map : NameMap α} {name : String} {value : α} :
    map.get? name = some value ↔ (name, value) ∈ map.entries :=
  lookup_eq_some_iff_mem map.ascending

theorem mem_names_iff {map : NameMap α} {name : String} :
    name ∈ map.names ↔ map.contains name = true := by
  rw [contains, Option.isSome_iff_exists, names, List.mem_map]
  constructor
  · rintro ⟨⟨held, value⟩, hmem, rfl⟩
    exact ⟨value, get?_eq_some_iff.mpr hmem⟩
  · rintro ⟨value, hvalue⟩
    exact ⟨(name, value), get?_eq_some_iff.mp hvalue, rfl⟩

theorem names_ascending (map : NameMap α) : map.names.Pairwise (· < ·) :=
  List.pairwise_map.mpr map.ascending

/-- Lists in ascending order are equal if the same can be looked up in them. -/
theorem eq_of_lookup_eq {first second : List (String × α)}
    (hfirst : first.Pairwise fun a b => a.1 < b.1)
    (hsecond : second.Pairwise fun a b => a.1 < b.1)
    (h : ∀ name, first.lookup name = second.lookup name) : first = second := by
  induction first generalizing second with
  | nil =>
      cases second with
      | nil => rfl
      | cons entry rest =>
          obtain ⟨name, value⟩ := entry
          simpa [lookup_entry] using h name
  | cons entry rest ih =>
      obtain ⟨name, value⟩ := entry
      cases second with
      | nil => simpa [lookup_entry] using h name
      | cons other others =>
          obtain ⟨held, content⟩ := other
          have hentry := List.pairwise_cons.mp hfirst
          have hother := List.pairwise_cons.mp hsecond
          have hname : name = held := by
            have hhere : (name, value) ∈ (held, content) :: others := by
              apply (lookup_eq_some_iff_mem hsecond).mp
              rw [← h name]
              simp
            have hthere : (held, content) ∈ (name, value) :: rest := by
              apply (lookup_eq_some_iff_mem hfirst).mp
              rw [h held]
              simp
            rcases List.mem_cons.mp hhere with heq | hmem
            · exact congrArg Prod.fst heq
            · rcases List.mem_cons.mp hthere with heq | hmem'
              · exact (congrArg Prod.fst heq).symm
              · exact absurd (hother.1 _ hmem) (String.lt_asymm (hentry.1 _ hmem'))
          subst hname
          have hvalue : value = content := by
            simpa [lookup_entry] using h name
          subst hvalue
          congr 1
          apply ih hentry.2 hother.2
          intro wanted
          have hwanted := h wanted
          rw [lookup_entry, lookup_entry] at hwanted
          by_cases heq : wanted = name
          · subst heq
            rw [lookup_eq_none_of_lt hentry.1, lookup_eq_none_of_lt hother.1]
          · simpa [heq] using hwanted

theorem ext_get? {first second : NameMap α} (h : ∀ name, first.get? name = second.get? name) :
    first = second := by
  obtain ⟨entries, ascending⟩ := first
  obtain ⟨others, ascending'⟩ := second
  congr
  exact eq_of_lookup_eq ascending ascending' h

theorem insert_insert (map : NameMap α) (name : String) (value other : α) :
    (map.insert name value).insert name other = map.insert name other := by
  apply ext_get?
  intro wanted
  simp only [get?_insert]
  split <;> rfl

theorem place_of_greater {name : String} {entries : List (String × α)}
    (h : ∀ entry ∈ entries, entry.1 < name) (value : α) :
    place name value entries = entries ++ [(name, value)] := by
  induction entries with
  | nil => rfl
  | cons first rest ih =>
      obtain ⟨hfirst, hrest⟩ := List.forall_mem_cons.mp h
      have hne : name ≠ first.1 := by
        intro heq
        rw [heq] at hfirst
        exact String.lt_irrefl _ hfirst
      rw [place, if_neg (String.lt_asymm hfirst), if_neg hne, ih hrest, List.cons_append]

/-- Entries that are inserted in ascending order stay in that order. -/
theorem entries_foldl_insert (map : NameMap α) {entries : List (String × α)}
    (h : (map.entries ++ entries).Pairwise fun a b => a.1 < b.1) :
    (entries.foldl (fun map entry => map.insert entry.1 entry.2) map).entries =
      map.entries ++ entries := by
  induction entries generalizing map with
  | nil => simp
  | cons entry rest ih =>
      have hgreater : ∀ held ∈ map.entries, held.1 < entry.1 := fun held hheld =>
        (List.pairwise_append.mp h).2.2 held hheld entry List.mem_cons_self
      have hentries : (map.insert entry.1 entry.2).entries = map.entries ++ [entry] :=
        place_of_greater hgreater entry.2
      have hsplit : map.entries ++ entry :: rest =
          (map.insert entry.1 entry.2).entries ++ rest := by
        rw [hentries, List.append_assoc, List.singleton_append]
      rw [hsplit] at h ⊢
      exact ih _ h

theorem eq_of_entries_eq {first second : NameMap α} (h : first.entries = second.entries) :
    first = second := by
  obtain ⟨entries, ascending⟩ := first
  obtain rfl : entries = second.entries := h
  rfl

theorem foldl_insert_entries (map : NameMap α) :
    map.entries.foldl (fun map entry => map.insert entry.1 entry.2) ∅ = map :=
  eq_of_entries_eq (entries_foldl_insert ∅ map.ascending)

theorem get?_ofNames (names : List String) (name : String) :
    (ofNames names).get? name = if name ∈ names then some () else none := by
  suffices h : ∀ map : NameMap Unit,
      (names.foldl (fun map name => map.insert name ()) map).get? name =
        if name ∈ names then some () else map.get? name from h ∅
  induction names with
  | nil => simp
  | cons first rest ih =>
      intro map
      rw [List.foldl_cons, ih, get?_insert]
      by_cases hrest : name ∈ rest <;> by_cases hfirst : name = first <;> simp [hrest, hfirst]

theorem mem_names_ofNames {names : List String} {name : String} :
    name ∈ (ofNames names).names ↔ name ∈ names := by
  rw [mem_names_iff, contains, get?_ofNames]
  split <;> simp [*]

end LogTree.NameMap

namespace LogTree

universe u

/-- A finite map from names, kept in the ascending order of the names. Names are compared character
by character, which is also the order of their UTF-8 octets. -/
structure NameMap (α : Type u) where
  entries : List (String × α)
  ascending : entries.Pairwise fun a b => a.1 < b.1
deriving DecidableEq

namespace NameMap

variable {α : Type u}

/-- Puts an entry in its place, over an entry of the same name. -/
def place (name : String) (value : α) : List (String × α) → List (String × α)
  | [] => [(name, value)]
  | (other, held) :: rest =>
      if name < other then (name, value) :: (other, held) :: rest
      else if name = other then (name, value) :: rest
      else (other, held) :: place name value rest

theorem mem_place {name : String} {value : α} {entries : List (String × α)} {entry : String × α}
    (h : entry ∈ place name value entries) : entry = (name, value) ∨ entry ∈ entries := by
  induction entries with
  | nil => simpa [place] using h
  | cons first rest ih =>
      rw [place] at h
      split at h
      · simpa using h
      · split at h
        · rcases List.mem_cons.mp h with h | h
          · exact .inl h
          · exact .inr (List.mem_cons_of_mem _ h)
        · rcases List.mem_cons.mp h with h | h
          · exact .inr (h ▸ List.mem_cons_self)
          · exact (ih h).imp_right (List.mem_cons_of_mem _)

theorem place_ascending (name : String) (value : α) {entries : List (String × α)}
    (h : entries.Pairwise fun a b => a.1 < b.1) :
    (place name value entries).Pairwise fun a b => a.1 < b.1 := by
  induction entries with
  | nil => simp [place]
  | cons first rest ih =>
      obtain ⟨other, held⟩ := first
      have hrest := (List.pairwise_cons.mp h)
      rw [place]
      split
      · next hlt =>
          refine List.pairwise_cons.mpr ⟨?_, h⟩
          intro entry hentry
          rcases List.mem_cons.mp hentry with rfl | hentry
          · exact hlt
          · exact String.lt_trans hlt (hrest.1 entry hentry)
      · next hnot =>
          split
          · next heq =>
              subst heq
              exact List.pairwise_cons.mpr hrest
          · next hne =>
              refine List.pairwise_cons.mpr ⟨?_, ih hrest.2⟩
              intro entry hentry
              rcases mem_place hentry with rfl | hentry
              · exact Std.lt_of_le_of_ne (String.not_lt.mp hnot) (Ne.symm hne)
              · exact hrest.1 entry hentry

def empty : NameMap α :=
  ⟨[], .nil⟩

instance : EmptyCollection (NameMap α) :=
  ⟨empty⟩

instance : Inhabited (NameMap α) :=
  ⟨empty⟩

def get? (map : NameMap α) (name : String) : Option α :=
  map.entries.lookup name

def insert (map : NameMap α) (name : String) (value : α) : NameMap α :=
  ⟨place name value map.entries, place_ascending name value map.ascending⟩

def contains (map : NameMap α) (name : String) : Bool :=
  (map.get? name).isSome

def names (map : NameMap α) : List String :=
  map.entries.map Prod.fst

def ofNames (names : List String) : NameMap Unit :=
  names.foldl (fun map name => map.insert name ()) ∅

def getD (map : NameMap α) (name : String) (absent : α) : α :=
  (map.get? name).getD absent

end NameMap

end LogTree

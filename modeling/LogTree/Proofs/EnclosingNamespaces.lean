import LogTree.Namespace

namespace LogTree.Namespace

/-- The positions of the dots of a text, but for a dot at its beginning. -/
def dots (text : List Char) : List Nat :=
  (List.range text.length).filter fun i => 0 < i ∧ text[i]? = some '.'

/-- The texts before the dots of a name, the longest first and without the empty one. -/
def outers (name : String) : List String :=
  (dots name.toList).reverse.map fun i => String.ofList (name.toList.take i)

theorem mem_dots {text : List Char} {i : Nat} :
    i ∈ dots text ↔ 0 < i ∧ text[i]? = some '.' := by
  rw [dots, List.mem_filter, List.mem_range, decide_eq_true_eq]
  constructor
  · rintro ⟨-, hdot⟩
    exact hdot
  · intro hdot
    refine ⟨?_, hdot⟩
    obtain ⟨hlt, -⟩ := List.getElem?_eq_some_iff.mp hdot.2
    exact hlt

theorem dots_eq_nil_of_not_mem {text : List Char} (h : '.' ∉ text) : dots text = [] := by
  apply List.eq_nil_iff_forall_not_mem.mpr
  intro i hi
  exact h (List.mem_of_getElem? (mem_dots.mp hi).2)

theorem dots_append_cons {before after : List Char} (h : '.' ∉ after) :
    dots (before ++ '.' :: after) =
      dots before ++ if before = [] then [] else [before.length] := by
  have hbehind : ((List.range after.length).map (before.length + 1 + ·)).filter (fun i =>
      0 < i ∧ (before ++ '.' :: after)[i]? = some '.') = [] := by
    apply List.filter_eq_nil_iff.mpr
    intro i hi
    obtain ⟨k, -, rfl⟩ := List.mem_map.mp hi
    rw [decide_eq_true_eq, List.getElem?_append_right (by omega)]
    rintro ⟨-, hdot⟩
    rw [show before.length + 1 + k - before.length = k + 1 by omega,
      List.getElem?_cons_succ] at hdot
    exact h (List.mem_of_getElem? hdot)
  have hbefore : (List.range before.length).filter (fun i =>
      0 < i ∧ (before ++ '.' :: after)[i]? = some '.') = dots before := by
    apply List.filter_congr
    intro i hi
    rw [List.getElem?_append_left (List.mem_range.mp hi)]
  have hlength : (before ++ '.' :: after).length = before.length + 1 + after.length := by
    simp only [List.length_append, List.length_cons]
    omega
  rw [dots, hlength, List.range_add, List.range_succ, List.filter_append, List.filter_append,
    hbehind, hbefore, List.append_nil]
  congr 1
  cases before <;> simp

theorem dots_of_enclosing?_eq_none {name : String} (h : enclosing? name = none) :
    dots name.toList = [] := by
  rw [enclosing?] at h
  split at h
  · next hnone =>
      exact dots_eq_nil_of_not_mem (Text.beforeLast?_eq_none_iff.mp hnone)
  · next hempty =>
      obtain ⟨after, htext, hafter⟩ := Text.beforeLast?_eq_some_iff.mp hempty
      rw [htext, dots_append_cons hafter]
      rfl
  · cases h

theorem enclosing?_eq_some_iff {name outer : String} :
    enclosing? name = some outer ↔
      outer ≠ "" ∧ ∃ after, name.toList = outer.toList ++ '.' :: after ∧ '.' ∉ after := by
  rw [enclosing?]
  split
  · next hnone =>
      have hdot := Text.beforeLast?_eq_none_iff.mp hnone
      constructor
      · rintro ⟨⟩
      · rintro ⟨-, after, htext, -⟩
        simp [htext] at hdot
  · next hempty =>
      constructor
      · rintro ⟨⟩
      · rintro ⟨hne, hafter⟩
        have houter := Text.beforeLast?_eq_some_iff.mpr hafter
        rw [hempty, Option.some.injEq] at houter
        exact absurd (String.toList_inj.mp houter.symm) hne
  · next c before hsome =>
      constructor
      · intro heq
        obtain rfl := Option.some.inj heq
        refine ⟨?_, ?_⟩
        · intro hempty
          simpa using congrArg String.toList hempty
        · simpa using Text.beforeLast?_eq_some_iff.mp hsome
      · rintro ⟨-, hafter⟩
        have houter := Text.beforeLast?_eq_some_iff.mpr hafter
        rw [hsome, Option.some.injEq] at houter
        simp [houter]

theorem ne_empty_of_enclosing? {name outer : String} (h : enclosing? name = some outer) :
    outer ≠ "" :=
  (enclosing?_eq_some_iff.mp h).1

theorem outers_of_enclosing?_eq_none {name : String} (h : enclosing? name = none) :
    outers name = [] := by
  rw [outers, dots_of_enclosing?_eq_none h]
  rfl

theorem outers_of_enclosing? {name outer : String} (h : enclosing? name = some outer) :
    outers name = outer :: outers outer := by
  obtain ⟨hne, after, htext, hafter⟩ := enclosing?_eq_some_iff.mp h
  have hnil : outer.toList ≠ [] := by
    intro heq
    exact hne (String.toList_inj.mp heq)
  rw [outers, htext, dots_append_cons hafter, if_neg hnil, List.reverse_append,
    List.reverse_singleton, List.singleton_append, List.map_cons, List.take_left,
    String.ofList_toList, outers]
  congr 1
  apply List.map_congr_left
  intro i hi
  obtain ⟨hlt, -⟩ := List.getElem?_eq_some_iff.mp (mem_dots.mp (List.mem_reverse.mp hi)).2
  rw [List.take_append_of_le_length (Nat.le_of_lt hlt)]

theorem mem_outers_iff {name outer : String} :
    outer ∈ outers name ↔ outer ≠ "" ∧ ∃ rest, name = outer ++ "." ++ rest := by
  rw [outers, List.mem_map]
  constructor
  · rintro ⟨i, hi, rfl⟩
    obtain ⟨hpos, hdot⟩ := mem_dots.mp (List.mem_reverse.mp hi)
    obtain ⟨hlt, hget⟩ := List.getElem?_eq_some_iff.mp hdot
    refine ⟨?_, String.ofList (name.toList.drop (i + 1)), ?_⟩
    · intro hempty
      have htake : name.toList.take i = [] := by simpa using congrArg String.toList hempty
      rcases List.take_eq_nil_iff.mp htake with rfl | hnil
      · exact Nat.lt_irrefl 0 hpos
      · simp [hnil] at hlt
    · apply String.toList_inj.mp
      have hsplit : name.toList.take i ++ '.' :: name.toList.drop (i + 1) = name.toList := by
        rw [← hget, List.getElem_cons_drop, List.take_append_drop]
      simpa using hsplit.symm
  · rintro ⟨hne, rest, rfl⟩
    have htext : (outer ++ "." ++ rest).toList = outer.toList ++ '.' :: rest.toList := by simp
    have hpos : 0 < outer.toList.length := by
      apply List.length_pos_iff.mpr
      exact fun hnil => hne (String.toList_inj.mp hnil)
    refine ⟨outer.toList.length, ?_, ?_⟩
    · rw [List.mem_reverse, mem_dots, htext, List.getElem?_append_right (Nat.le_refl _)]
      exact ⟨hpos, by simp⟩
    · rw [htext, List.take_left, String.ofList_toList]

/-- A name stands for a namespace or for something in it. -/
def Within (outer name : String) : Prop :=
  name = outer ∨ ∃ rest, name = outer ++ "." ++ rest

theorem within_iff {outer name : String} (h : outer ≠ "") :
    Within outer name ↔ name = outer ∨ outer ∈ outers name := by
  rw [Within, mem_outers_iff, and_iff_right h]

theorem not_isRoot_append (outer rest : String) : ¬IsRoot (outer ++ "." ++ rest) := by
  intro hroot
  have hdot : '.' ∈ (outer ++ "." ++ rest).toList := by simp
  rcases hroot with hempty | hname
  · rw [hempty] at hdot
    exact absurd hdot (by decide)
  · rw [hname] at hdot
    exact absurd hdot (by decide)

theorem Within.not_isRoot {outer name : String} (h : Within outer name) (houter : ¬IsRoot outer) :
    ¬IsRoot name := by
  rcases h with rfl | ⟨rest, rfl⟩
  · exact houter
  · exact not_isRoot_append outer rest

theorem Within.enclosing? {outer name : String} (h : Within outer name) (houter : outer ≠ "")
    (hne : name ≠ outer) : ∃ inner, enclosing? name = some inner ∧ Within outer inner := by
  have hmem := ((within_iff houter).mp h).resolve_left hne
  cases henclosing : Namespace.enclosing? name with
  | none =>
      rw [outers_of_enclosing?_eq_none henclosing] at hmem
      cases hmem
  | some inner =>
      rw [outers_of_enclosing? henclosing, List.mem_cons] at hmem
      exact ⟨inner, rfl, (within_iff houter).mpr (hmem.imp_left Eq.symm)⟩

/-- A name whose dots are doubled, at the front or at the back has odd enclosing namespaces. -/
example : outers ".a..b." = [".a..b", ".a.", ".a"] := by decide

end LogTree.Namespace

namespace LogTree.Text

/-- The pieces between the occurrences of a separator. There is one piece more than there are
separators, so a text without one is its own only piece. -/
def pieces (separator : Char) : List Char → List (List Char)
  | [] => [[]]
  | c :: cs =>
      if c = separator then
        [] :: pieces separator cs
      else
        match pieces separator cs with
        | [] => [[c]]
        | first :: rest => (c :: first) :: rest

theorem pieces_ne_nil (separator : Char) (cs : List Char) : pieces separator cs ≠ [] := by
  cases cs with
  | nil => simp [pieces]
  | cons c cs =>
      rw [pieces]
      split
      · simp
      · split <;> simp

theorem pieces_of_not_mem {separator : Char} {cs : List Char} (h : separator ∉ cs) :
    pieces separator cs = [cs] := by
  induction cs with
  | nil => rfl
  | cons c cs ih =>
      rw [List.mem_cons, not_or] at h
      simp [pieces, Ne.symm h.1, ih h.2]

theorem pieces_append (separator : Char) (before after : List Char) :
    pieces separator (before ++ separator :: after) =
      pieces separator before ++ pieces separator after := by
  induction before with
  | nil => simp [pieces]
  | cons c before ih =>
      by_cases h : c = separator
      · simp [pieces, h, ih]
      · obtain ⟨first, rest, hpieces⟩ := List.exists_cons_of_ne_nil (pieces_ne_nil separator before)
        simp [pieces, h, ih, hpieces]

def cutFirst? (separator : Char) : List Char → Option (List Char × List Char)
  | [] => none
  | c :: cs =>
      if c = separator then
        some ([], cs)
      else
        (cutFirst? separator cs).map fun (before, after) => (c :: before, after)

theorem cutFirst?_eq_some_iff {separator : Char} {cs before after : List Char} :
    cutFirst? separator cs = some (before, after) ↔
      cs = before ++ separator :: after ∧ separator ∉ before := by
  induction cs generalizing before with
  | nil => simp [cutFirst?]
  | cons c cs ih =>
      rw [cutFirst?]
      split
      · next h =>
          subst h
          cases before <;> simp +contextual [eq_comm]
      · next h =>
          constructor
          · intro hcut
            obtain ⟨⟨inner, outer⟩, hinner, heq⟩ := Option.map_eq_some_iff.mp hcut
            cases heq
            obtain ⟨hcs, hnot⟩ := ih.mp hinner
            simp [hcs, hnot, Ne.symm h]
          · rintro ⟨hcs, hnot⟩
            cases before with
            | nil => exact absurd (List.cons.inj hcs).1 h
            | cons first before =>
                obtain ⟨rfl, htail⟩ := List.cons.inj hcs
                rw [ih.mpr ⟨htail, fun hmem => hnot (List.mem_cons_of_mem _ hmem)⟩]
                rfl

theorem cutFirst?_eq_none_iff {separator : Char} {cs : List Char} :
    cutFirst? separator cs = none ↔ separator ∉ cs := by
  induction cs with
  | nil => simp [cutFirst?]
  | cons c cs ih =>
      rw [cutFirst?]
      split
      · next h => simp [h]
      · next h => simp [ih, Ne.symm h]

def beforeLast? (separator : Char) : List Char → Option (List Char)
  | [] => none
  | c :: cs =>
      match beforeLast? separator cs with
      | some before => some (c :: before)
      | none => if c = separator then some [] else none

theorem beforeLast?_length_lt {separator : Char} {cs before : List Char}
    (h : beforeLast? separator cs = some before) : before.length < cs.length := by
  induction cs generalizing before with
  | nil => simp [beforeLast?] at h
  | cons c cs ih =>
      rw [beforeLast?] at h
      split at h
      · next inner hinner =>
          cases h
          simpa using ih hinner
      · split at h
        · cases h
          simp
        · cases h

theorem beforeLast?_eq_none_iff {separator : Char} {cs : List Char} :
    beforeLast? separator cs = none ↔ separator ∉ cs := by
  induction cs with
  | nil => simp [beforeLast?]
  | cons c cs ih =>
      rw [beforeLast?]
      split
      · next inner hinner =>
          have hmem : separator ∈ cs := by
            refine Classical.byContradiction fun hnot => ?_
            rw [ih.mpr hnot] at hinner
            cases hinner
          simp [hmem]
      · next hnone =>
          by_cases h : c = separator
          · simp [h]
          · simp [h, Ne.symm h, ih.mp hnone]

theorem beforeLast?_eq_some_iff {separator : Char} {cs before : List Char} :
    beforeLast? separator cs = some before ↔
      ∃ after, cs = before ++ separator :: after ∧ separator ∉ after := by
  induction cs generalizing before with
  | nil => simp [beforeLast?]
  | cons c cs ih =>
      rw [beforeLast?]
      split
      · next inner hinner =>
          obtain ⟨after, hcs, hnot⟩ := ih.mp hinner
          constructor
          · intro heq
            cases heq
            exact ⟨after, by simp [hcs], hnot⟩
          · rintro ⟨other, heq, hother⟩
            cases before with
            | nil =>
                obtain ⟨_, rfl⟩ := List.cons.inj heq
                simp [hcs] at hother
            | cons first before =>
                obtain ⟨rfl, htail⟩ := List.cons.inj heq
                have hbefore := ih.mpr ⟨other, htail, hother⟩
                rw [hinner] at hbefore
                rw [Option.some.inj hbefore]
      · next hnone =>
          have hnot := beforeLast?_eq_none_iff.mp hnone
          constructor
          · intro heq
            split at heq
            · next h =>
                cases heq
                exact ⟨cs, by simp [h], hnot⟩
            · cases heq
          · rintro ⟨after, heq, _⟩
            cases before with
            | nil => simp [(List.cons.inj heq).1]
            | cons first before =>
                obtain ⟨_, rfl⟩ := List.cons.inj heq
                simp at hnot

end LogTree.Text

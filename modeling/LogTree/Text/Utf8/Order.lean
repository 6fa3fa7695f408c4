import LogTree.Text.Utf8.Decode

namespace LogTree.Text.Utf8

section

variable {m n : Nat} (hm : m < 256) (hn : n < 256)

include hm hn

theorem octet_lt_iff : m.toUInt8 < n.toUInt8 ↔ m < n := by
  rw [UInt8.lt_iff_toNat_lt, toNat_octet hm, toNat_octet hn]

theorem octet_inj : m.toUInt8 = n.toUInt8 ↔ m = n := by
  rw [← UInt8.toNat_inj, toNat_octet hm, toNat_octet hn]

end

/-- The octets of a character decide, whatever comes after them. -/
theorem encodeChar_append_lt {c d : Char} (h : c < d) (rest other : List UInt8) :
    encodeChar c ++ rest < encodeChar d ++ other := by
  have hc := code_valid c
  have hd := code_valid d
  have hlt : c.toNat < d.toNat := h
  rw [encodeChar, encodeChar]
  generalize c.toNat = m at hc hlt
  generalize d.toNat = n at hd hlt
  -- A longer form has a greater lead, and within a form the octets compare as the codes do.
  repeat' split
  all_goals
    simp (disch := omega) only [List.cons_append, List.nil_append, List.cons_lt_cons_iff,
      octet_lt_iff, octet_inj]
    omega

theorem encodeChar_ne_nil (c : Char) : encodeChar c ≠ [] := by
  rw [encodeChar]
  repeat' split
  all_goals exact List.cons_ne_nil _ _

theorem encode_lt_encode {text other : String} (h : text < other) : encode text < encode other := by
  rw [String.lt_iff] at h
  rw [encode, encode]
  generalize text.toList = cs at h
  generalize other.toList = ds at h
  induction cs generalizing ds with
  | nil =>
      cases ds with
      | nil => cases h
      | cons d ds =>
          obtain ⟨octet, rest, hd⟩ := List.exists_cons_of_ne_nil (encodeChar_ne_nil d)
          rw [List.flatMap_cons, hd]
          exact List.nil_lt_cons _ _
  | cons c cs ih =>
      cases ds with
      | nil => cases h
      | cons d ds =>
          rw [List.flatMap_cons, List.flatMap_cons]
          rcases List.cons_lt_cons_iff.mp h with hlt | ⟨rfl, hrest⟩
          · exact encodeChar_append_lt hlt _ _
          · exact List.append_left_lt (ih ds hrest)

end LogTree.Text.Utf8

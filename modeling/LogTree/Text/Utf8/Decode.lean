import LogTree.Text.Utf8

namespace LogTree.Text.Utf8

theorem toNat_octet {n : Nat} (h : n < 256) : n.toUInt8.toNat = n := by
  simp [Nat.mod_eq_of_lt h]

theorem code_valid (c : Char) :
    c.toNat < 0xd800 ∨ 0xdfff < c.toNat ∧ c.toNat < 0x110000 :=
  c.valid

theorem begin_two {octet : UInt8} {code : Nat} (hoctet : octet.toNat = 0xc0 + code)
    (hleast : 2 ≤ code) (hgreatest : code < 32) :
    begin octet = .unfinished { code, missing := 1 } := by
  simp [begin, hoctet, show ¬0xc0 + code < 0x80 by omega, show ¬0xc0 + code < 0xc2 by omega,
    show 0xc0 + code < 0xe0 by omega]

/-- Some leads of three octets exclude the octets that would make the form overlong or a
surrogate. -/
theorem begin_three {octet : UInt8} {code : Nat} (hoctet : octet.toNat = 0xe0 + code)
    (hgreatest : code < 16) :
    begin octet = .unfinished {
      code, missing := 2, least := if code = 0 then 0xa0 else 0x80,
      greatest := if code = 0xd then 0x9f else 0xbf } := by
  by_cases hzero : code = 0
  · subst hzero
    simp [begin, hoctet]
  · by_cases hsurrogate : code = 0xd
    · subst hsurrogate
      simp [begin, hoctet]
    · simp [begin, hoctet, hzero, hsurrogate, show ¬0xe0 + code < 0x80 by omega,
        show ¬0xe0 + code < 0xc2 by omega, show ¬0xe0 + code < 0xe0 by omega,
        show ¬0xe0 + code = 0xed by omega, show 0xe0 + code < 0xf0 by omega]

/-- Some leads of four octets exclude the octets that would make the form overlong or too great. -/
theorem begin_four {octet : UInt8} {code : Nat} (hoctet : octet.toNat = 0xf0 + code)
    (hgreatest : code < 5) :
    begin octet = .unfinished {
      code, missing := 3, least := if code = 0 then 0x90 else 0x80,
      greatest := if code = 4 then 0x8f else 0xbf } := by
  by_cases hzero : code = 0
  · subst hzero
    simp [begin, hoctet]
  · by_cases hlast : code = 4
    · subst hlast
      simp [begin, hoctet]
    · simp [begin, hoctet, hzero, hlast, show ¬0xf0 + code < 0x80 by omega,
        show ¬0xf0 + code < 0xc2 by omega, show ¬0xf0 + code < 0xe0 by omega,
        show ¬0xf0 + code = 0xe0 by omega, show ¬0xf0 + code = 0xed by omega,
        show ¬0xf0 + code < 0xf0 by omega, show 0xf0 + code < 0xf4 by omega]

theorem continue_last (sequence : Partial) {octet : UInt8} {low : Nat}
    (hoctet : octet.toNat = 0x80 + low) (hleast : sequence.least ≤ 0x80 + low)
    (hgreatest : 0x80 + low ≤ sequence.greatest) (hmissing : sequence.missing = 1) :
    sequence.continue octet = .character (Char.ofNat (64 * sequence.code + low)) := by
  simp [Partial.continue, hoctet, hleast, hgreatest, hmissing]

theorem continue_more (sequence : Partial) {octet : UInt8} {low : Nat}
    (hoctet : octet.toNat = 0x80 + low) (hleast : sequence.least ≤ 0x80 + low)
    (hgreatest : 0x80 + low ≤ sequence.greatest) (hmissing : 1 < sequence.missing) :
    sequence.continue octet =
      .unfinished { code := 64 * sequence.code + low, missing := sequence.missing - 1 } := by
  simp [Partial.continue, hoctet, hleast, hgreatest, Nat.not_le.mpr hmissing]

theorem pieces_encodeChar_append (c : Char) (rest : List UInt8) :
    pieces (encodeChar c ++ rest) = some c :: pieces rest := by
  have hvalid := code_valid c
  have hchar : ∀ n, n = c.toNat → Char.ofNat n = c := fun n h => by rw [h, Char.ofNat_toNat]
  rw [encodeChar]
  generalize c.toNat = code at hvalid hchar
  split
  · next h =>
      have hbegin : begin code.toUInt8 = .character c := by
        rw [begin, toNat_octet (by omega), if_pos h, hchar code rfl]
      simp only [List.cons_append, List.nil_append, pieces, hbegin]
  · split
    · next h =>
        have hbegin := begin_two (toNat_octet (n := 0xc0 + code / 64) (by omega)) (by omega)
          (by omega)
        have hlast := continue_last { code := code / 64, missing := 1 }
          (toNat_octet (n := 0x80 + code % 64) (by omega)) (by simp) (by simp; omega) rfl
        rw [hchar _ (by simp; omega)] at hlast
        simp only [List.cons_append, List.nil_append, pieces, hbegin, piecesAfter, hlast]
    · split
      · next h =>
          have hbegin := begin_three (toNat_octet (n := 0xe0 + code / 4096) (by omega)) (by omega)
          have hmore := continue_more {
              code := code / 4096, missing := 2,
              least := if code / 4096 = 0 then 0xa0 else 0x80,
              greatest := if code / 4096 = 0xd then 0x9f else 0xbf }
            (toNat_octet (n := 0x80 + code / 64 % 64) (by omega)) (by simp; split <;> omega)
            (by simp; split <;> omega) (by simp)
          have hlast := continue_last
            { code := 64 * (code / 4096) + code / 64 % 64, missing := 1 }
            (toNat_octet (n := 0x80 + code % 64) (by omega)) (by simp) (by simp; omega) rfl
          rw [hchar _ (by simp; omega)] at hlast
          simp only [List.cons_append, List.nil_append, pieces, hbegin, piecesAfter, hmore,
            hlast, Nat.add_one_sub_one]
      · next h =>
          have hbegin := begin_four (toNat_octet (n := 0xf0 + code / 262144) (by omega)) (by omega)
          have hfirst := continue_more {
              code := code / 262144, missing := 3,
              least := if code / 262144 = 0 then 0x90 else 0x80,
              greatest := if code / 262144 = 4 then 0x8f else 0xbf }
            (toNat_octet (n := 0x80 + code / 4096 % 64) (by omega)) (by simp; split <;> omega)
            (by simp; split <;> omega) (by simp)
          have hsecond := continue_more
            { code := 64 * (code / 262144) + code / 4096 % 64, missing := 2 }
            (toNat_octet (n := 0x80 + code / 64 % 64) (by omega)) (by simp) (by simp; omega)
            (by simp)
          have hlast := continue_last
            { code := 64 * (64 * (code / 262144) + code / 4096 % 64) + code / 64 % 64,
              missing := 1 }
            (toNat_octet (n := 0x80 + code % 64) (by omega)) (by simp) (by simp; omega) rfl
          rw [hchar _ (by simp; omega)] at hlast
          simp only [List.cons_append, List.nil_append, pieces, hbegin, piecesAfter, hfirst,
            hsecond, hlast, Nat.add_one_sub_one]

theorem pieces_encode (text : String) : pieces (encode text) = text.toList.map some := by
  rw [encode]
  induction text.toList with
  | nil => rfl
  | cons c cs ih => rw [List.flatMap_cons, pieces_encodeChar_append, ih, List.map_cons]

theorem decodeLossy_encode (text : String) : decodeLossy (encode text) = text := by
  simp [decodeLossy, pieces_encode, Function.comp_def]

theorem decode?_encode (text : String) : decode? (encode text) = some text := by
  have hmap : ∀ cs : List Char, (cs.map some).mapM id = some cs := by
    intro cs
    induction cs with
    | nil => rfl
    | cons c cs ih => simp [ih]
  simp [decode?, pieces_encode, hmap]

end LogTree.Text.Utf8

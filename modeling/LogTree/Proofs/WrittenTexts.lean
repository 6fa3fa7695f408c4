import Mathlib.Data.List.Forall2
import Mathlib.Data.List.Induction
import Mathlib.Data.List.TakeWhile
import Mathlib.Data.Nat.Digits.Defs
import LogTree.Text.Blank
import LogTree.Text.Digits

/-!
What readers of texts leave open to those who write them: blanks around a text, the case of its
letters, and zeros or a plus sign before a number. Each of them is said here by itself, and what the
functions that read texts do is proved to be that.
-/

namespace LogTree.Text

/-- Nothing but blanks stands here, or nothing at all. -/
def Blank (cs : List Char) : Prop :=
  ∀ c ∈ cs, isBlank c = true

instance : DecidablePred Blank :=
  fun cs => List.decidableBAll _ cs

/-- A text that neither begins nor ends with a blank. -/
structure Tight (cs : List Char) : Prop where
  first : ∀ c, cs.head? = some c → isBlank c = false
  last : ∀ c, cs.getLast? = some c → isBlank c = false

/-- A text with blanks around it. -/
def Padded (text cs : List Char) : Prop :=
  ∃ before after, Blank before ∧ Blank after ∧ cs = before ++ text ++ after

theorem blank_append_iff {first second : List Char} :
    Blank (first ++ second) ↔ Blank first ∧ Blank second :=
  List.forall_mem_append

theorem tight_nil : Tight [] where
  first := nofun
  last := nofun

theorem Tight.trim_eq {cs : List Char} (h : Tight cs) : trim cs = cs :=
  trim_eq_self h.first h.last

theorem trimStart_append {before : List Char} (h : Blank before) (cs : List Char) :
    trimStart (before ++ cs) = trimStart cs :=
  List.dropWhile_append_of_pos h

theorem trimEnd_append {after : List Char} (h : Blank after) (cs : List Char) :
    trimEnd (cs ++ after) = trimEnd cs := by
  have hreverse : ∀ c ∈ after.reverse, isBlank c = true :=
    fun c hc => h c (List.mem_reverse.mp hc)
  rw [trimEnd, List.reverse_append, List.dropWhile_append_of_pos hreverse, trimEnd]

theorem Tight.trim_of_padded {text cs : List Char} (htight : Tight text) (h : Padded text cs) :
    trim cs = text := by
  obtain ⟨before, after, hbefore, hafter, rfl⟩ := h
  rw [trim, List.append_assoc, trimStart_append hbefore]
  cases text with
  | nil =>
      rw [List.nil_append, trimStart, List.dropWhile_eq_nil_iff.mpr hafter]
      rfl
  | cons c rest =>
      have hstart : trimStart (c :: rest ++ after) = c :: rest ++ after :=
        List.dropWhile_cons_of_neg (by simp [htight.first c rfl])
      rw [hstart, trimEnd_append hafter, trimEnd,
        dropWhile_isBlank_eq_self (by rw [List.head?_reverse]; exact htight.last),
        List.reverse_reverse]

theorem exists_trimStart_eq (cs : List Char) :
    ∃ after, Blank after ∧ trimStart cs = trim cs ++ after := by
  refine ⟨((trimStart cs).reverse.takeWhile isBlank).reverse, ?_, ?_⟩
  · intro c hc
    exact List.mem_takeWhile_imp (List.mem_reverse.mp hc)
  · rw [trim, trimEnd, ← List.reverse_append, List.takeWhile_append_dropWhile,
      List.reverse_reverse]

theorem padded_trim (cs : List Char) : Padded (trim cs) cs := by
  obtain ⟨after, hafter, hstart⟩ := exists_trimStart_eq cs
  refine ⟨cs.takeWhile isBlank, after, fun c hc => List.mem_takeWhile_imp hc, hafter, ?_⟩
  rw [List.append_assoc, ← hstart, trimStart, List.takeWhile_append_dropWhile]

theorem isBlank_of_head?_dropWhile {cs : List Char} {c : Char}
    (h : (cs.dropWhile isBlank).head? = some c) : isBlank c = false := by
  have hhead := List.head?_dropWhile_not isBlank cs
  rwa [h] at hhead

theorem tight_trim (cs : List Char) : Tight (trim cs) where
  first := by
    intro c hc
    obtain ⟨after, -, hstart⟩ := exists_trimStart_eq cs
    have hhead : (trimStart cs).head? = some c := by
      rw [hstart, List.head?_append, hc, Option.some_or]
    exact isBlank_of_head?_dropWhile hhead
  last := by
    intro c hc
    rw [trim, trimEnd, List.getLast?_reverse] at hc
    exact isBlank_of_head?_dropWhile hc

/-- What trimming leaves is the tight part of the text with blanks around it, and there is only
one. -/
theorem trim_eq_iff {cs text : List Char} : trim cs = text ↔ Tight text ∧ Padded text cs := by
  constructor
  · rintro rfl
    exact ⟨tight_trim cs, padded_trim cs⟩
  · rintro ⟨htight, hpadded⟩
    exact htight.trim_of_padded hpadded

theorem trim_eq_nil_iff {cs : List Char} : trim cs = [] ↔ Blank cs := by
  rw [trim_eq_iff]
  constructor
  · rintro ⟨-, before, after, hbefore, hafter, rfl⟩
    rw [List.append_nil]
    exact blank_append_iff.mpr ⟨hbefore, hafter⟩
  · intro h
    exact ⟨tight_nil, cs, [], h, List.forall_mem_nil _, by simp⟩

theorem not_mem_of_blank {cs : List Char} {c : Char} (h : Blank cs) (hc : isBlank c = false) :
    c ∉ cs := by
  intro hmem
  rw [h c hmem] at hc
  cases hc

theorem mem_of_mem_trim {cs : List Char} {c : Char} (h : c ∈ trim cs) : c ∈ cs := by
  obtain ⟨before, after, -, -, hcs⟩ := padded_trim cs
  rw [hcs]
  exact List.mem_append_left _ (List.mem_append_right _ h)

theorem mem_trim_iff {cs : List Char} {c : Char} (hc : isBlank c = false) :
    c ∈ trim cs ↔ c ∈ cs := by
  constructor
  · exact mem_of_mem_trim
  · intro hmem
    obtain ⟨before, after, hbefore, hafter, hcs⟩ := padded_trim cs
    rw [hcs, List.mem_append, List.mem_append] at hmem
    rcases hmem with (hmem | hmem) | hmem
    · exact absurd hmem (not_mem_of_blank hbefore hc)
    · exact hmem
    · exact absurd hmem (not_mem_of_blank hafter hc)

/-- Two characters are the same, or they are one ASCII letter in its two cases. -/
def SameButCase (c d : Char) : Prop :=
  c = d ∨ c.isUpper = true ∧ d.toNat = c.toNat + 32 ∨ d.isUpper = true ∧ c.toNat = d.toNat + 32

theorem isUpper_iff {c : Char} : c.isUpper = true ↔ 65 ≤ c.toNat ∧ c.toNat ≤ 90 :=
  decide_eq_true_iff

theorem toNat_toUpper (c : Char) :
    c.toUpper.toNat = if 97 ≤ c.toNat ∧ c.toNat ≤ 122 then c.toNat - 32 else c.toNat := by
  unfold Char.toUpper
  split
  · next h =>
      have hcode : 97 ≤ c.toNat ∧ c.toNat ≤ 122 := h
      have hshift : ('A'.val - 'a'.val).toNat = 4294967264 := rfl
      -- The difference of the two cases is negative and wraps around.
      have hsum : (c.val + ('A'.val - 'a'.val)).toNat = (c.toNat + 4294967264) % 4294967296 := by
        rw [UInt32.toNat_add, hshift]
        rfl
      rw [if_pos hcode]
      change (c.val + ('A'.val - 'a'.val)).toNat = _
      omega
  · next h =>
      exact (if_neg h).symm

theorem toUpper_eq_toUpper_iff {c d : Char} : c.toUpper = d.toUpper ↔ SameButCase c d := by
  rw [SameButCase, isUpper_iff, isUpper_iff, ← Char.toNat_inj, ← Char.toNat_inj, toNat_toUpper,
    toNat_toUpper]
  split <;> split <;> omega

/-- To compare texts in upper case is to compare them without regard to the case of ASCII letters,
and of those only. -/
theorem upperAscii_eq_iff {cs ds : List Char} :
    upperAscii cs = upperAscii ds ↔ List.Forall₂ SameButCase cs ds := by
  rw [upperAscii, upperAscii, ← List.forall₂_eq_eq_eq, List.forall₂_map_left_iff,
    List.forall₂_map_right_iff]
  simp only [toUpper_eq_toUpper_iff]

theorem toUpper_eq_self {c : Char} (h : c.toUpper.isUpper = false) : c.toUpper = c := by
  have hcode := toNat_toUpper c
  have hletter : ¬(65 ≤ c.toUpper.toNat ∧ c.toUpper.toNat ≤ 90) := by
    rw [← isUpper_iff, h]
    exact Bool.false_ne_true
  apply Char.toNat_inj.mp
  split at hcode <;> omega

theorem upperAscii_eq_self {cs : List Char} (h : ∀ c ∈ upperAscii cs, c.isUpper = false) :
    upperAscii cs = cs := by
  have hsame := List.map_congr_left fun c (hc : c ∈ cs) =>
    toUpper_eq_self (h c.toUpper (List.mem_map_of_mem hc))
  exact hsame.trans (List.map_id' cs)

theorem toNat_toLower (c : Char) :
    c.toLower.toNat = if 65 ≤ c.toNat ∧ c.toNat ≤ 90 then c.toNat + 32 else c.toNat := by
  unfold Char.toLower
  split
  · next h =>
      have hcode : 65 ≤ c.toNat ∧ c.toNat ≤ 90 := h
      have hshift : ('a'.val - 'A'.val).toNat = 32 := rfl
      have hsum : (c.val + ('a'.val - 'A'.val)).toNat = (c.toNat + 32) % 4294967296 := by
        rw [UInt32.toNat_add, hshift]
        rfl
      rw [if_pos hcode]
      change (c.val + ('a'.val - 'A'.val)).toNat = _
      omega
  · next h =>
      exact (if_neg h).symm

theorem toLower_eq_toLower_iff {c d : Char} : c.toLower = d.toLower ↔ SameButCase c d := by
  rw [SameButCase, isUpper_iff, isUpper_iff, ← Char.toNat_inj, ← Char.toNat_inj, toNat_toLower,
    toNat_toLower]
  split <;> split <;> omega

theorem lowerAscii_eq_iff {cs ds : List Char} :
    lowerAscii cs = lowerAscii ds ↔ List.Forall₂ SameButCase cs ds := by
  rw [lowerAscii, lowerAscii, ← List.forall₂_eq_eq_eq, List.forall₂_map_left_iff,
    List.forall₂_map_right_iff]
  simp only [toLower_eq_toLower_iff]

/-- The number for which digits stand in the decimal system, the last one being that of the ones. -/
def decimalValue (digits : List Char) : Nat :=
  Nat.ofDigits 10 (digits.reverse.map digitValue)

/-- How a number may be written: as decimal digits, with at most one plus sign before them and any
zeros in front. -/
inductive Numeral : List Char → Nat → Prop where
  | digits {digits : List Char} (hne : digits ≠ []) (hdigits : ∀ c ∈ digits, c.isDigit = true) :
      Numeral digits (decimalValue digits)
  | signed {digits : List Char} (hne : digits ≠ []) (hdigits : ∀ c ∈ digits, c.isDigit = true) :
      Numeral ('+' :: digits) (decimalValue digits)

theorem foldl_digits_eq_decimalValue (digits : List Char) :
    digits.foldl (fun value c => 10 * value + digitValue c) 0 = decimalValue digits := by
  induction digits using List.reverseRecOn with
  | nil => rfl
  | append_singleton before c ih =>
      rw [List.foldl_append, ih, decimalValue, decimalValue, List.reverse_append,
        List.reverse_singleton, List.singleton_append, List.map_cons, Nat.ofDigits_cons]
      exact Nat.add_comm _ _

theorem readDigits?_eq_some_iff {cs : List Char} {n : Nat} :
    readDigits? cs = some n ↔
      (cs ≠ [] ∧ ∀ c ∈ cs, c.isDigit = true) ∧ decimalValue cs = n := by
  rw [readDigits?, foldl_digits_eq_decimalValue, ← List.all_eq_true]
  split
  · next h =>
      rw [Option.some.injEq]
      exact (and_iff_right h).symm
  · next h =>
      simp only [reduceCtorEq, false_iff]
      exact fun hread => h hread.1

theorem readNumber?_eq_some_iff {cs : List Char} {n : Nat} :
    readNumber? cs = some n ↔ Numeral cs n := by
  constructor
  · intro h
    unfold readNumber? at h
    split at h
    · obtain ⟨⟨hne, hdigits⟩, rfl⟩ := readDigits?_eq_some_iff.mp h
      exact .signed hne hdigits
    · obtain ⟨⟨hne, hdigits⟩, rfl⟩ := readDigits?_eq_some_iff.mp h
      exact .digits hne hdigits
  · intro h
    cases h with
    | signed hne hdigits => exact readDigits?_eq_some_iff.mpr ⟨⟨hne, hdigits⟩, rfl⟩
    | digits hne hdigits =>
        have hread := readDigits?_eq_some_iff.mpr ⟨⟨hne, hdigits⟩, rfl⟩
        unfold readNumber?
        split
        · -- A plus sign is no digit.
          exact absurd (hdigits '+' List.mem_cons_self) (by decide)
        · exact hread

theorem numeral_toDigits (n : Nat) : Numeral (Nat.toDigits 10 n) n :=
  readNumber?_eq_some_iff.mp (readNumber?_toDigits n)

theorem Numeral.unique {cs : List Char} {n other : Nat} (h : Numeral cs n)
    (hother : Numeral cs other) : n = other := by
  have hread := readNumber?_eq_some_iff.mpr h
  rw [readNumber?_eq_some_iff.mpr hother] at hread
  exact (Option.some.inj hread).symm

section

variable {cs : List Char} {n : Nat} (h : Numeral cs n)

include h

theorem Numeral.exists_digit : ∃ c ∈ cs, c.isDigit = true := by
  cases h with
  | digits hne hdigits =>
      obtain ⟨c, hc⟩ := List.exists_mem_of_ne_nil _ hne
      exact ⟨c, hc, hdigits c hc⟩
  | signed hne hdigits =>
      obtain ⟨c, hc⟩ := List.exists_mem_of_ne_nil _ hne
      exact ⟨c, List.mem_cons_of_mem _ hc, hdigits c hc⟩

theorem Numeral.digit_or_plus {c : Char} (hc : c ∈ cs) : c.isDigit = true ∨ c = '+' := by
  cases h with
  | digits hne hdigits => exact .inl (hdigits c hc)
  | signed hne hdigits =>
      rcases List.mem_cons.mp hc with rfl | hc
      · exact .inr rfl
      · exact .inl (hdigits c hc)

end

end LogTree.Text

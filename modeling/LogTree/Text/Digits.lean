namespace LogTree.Text

def digitValue (c : Char) : Nat :=
  c.toNat - 48

def readDigits? (cs : List Char) : Option Nat :=
  if cs ≠ [] ∧ cs.all Char.isDigit then
    some (cs.foldl (fun value c => 10 * value + digitValue c) 0)
  else
    none

theorem readDigits?_toDigits (n : Nat) : readDigits? (Nat.toDigits 10 n) = some n := by
  have hdigits : (Nat.toDigits 10 n).all Char.isDigit = true :=
    List.all_eq_true.mpr fun _ => Nat.isDigit_of_mem_toDigits (by decide) (by decide)
  rw [readDigits?, if_pos ⟨Nat.toDigits_ne_nil, hdigits⟩]
  exact congrArg some (Nat.ofDigitChars_toDigits (by decide) (by decide))

theorem readDigits?_eq_none {c : Char} {cs : List Char} (hmem : c ∈ cs) (h : c.isDigit = false) :
    readDigits? cs = none := by
  refine if_neg fun hcs => ?_
  have hc := List.all_eq_true.mp hcs.2 c hmem
  rw [h] at hc
  cases hc

/-- Reads decimal digits behind at most one plus sign. -/
def readNumber? : List Char → Option Nat
  | '+' :: digits => readDigits? digits
  | digits => readDigits? digits

theorem readNumber?_toDigits (n : Nat) : readNumber? (Nat.toDigits 10 n) = some n := by
  unfold readNumber?
  split
  · next digits hdigits =>
      have hplus : '+' ∈ Nat.toDigits 10 n := by
        rw [hdigits]
        exact List.mem_cons_self
      exact absurd (Nat.isDigit_of_mem_toDigits (by decide) (by decide) hplus) (by decide)
  · exact readDigits?_toDigits n

theorem readNumber?_eq_none {c : Char} {cs : List Char} (hmem : c ∈ cs) (h : c.isDigit = false)
    (hne : c ≠ '+') : readNumber? cs = none := by
  unfold readNumber?
  split
  · exact readDigits?_eq_none (List.mem_of_ne_of_mem hne hmem) h
  · exact readDigits?_eq_none hmem h

/-- Reads an exponent of ten with or without a sign. Nothing at all stands for zero. -/
def readExponent? : List Char → Option Int
  | [] => some 0
  | mark :: rest =>
      if mark = 'e' ∨ mark = 'E' then
        match rest with
        | '+' :: digits => (readDigits? digits).map Int.ofNat
        | '-' :: digits => (readDigits? digits).map fun n => -(n : Int)
        | digits => (readDigits? digits).map Int.ofNat
      else
        none

def isExponent (cs : List Char) : Bool :=
  (readExponent? cs).isSome

/-- Whether a text is a number without a sign: digits before or behind a point, or on both sides of
it, with an exponent of ten or without one. -/
def isUnsignedNumber (cs : List Char) : Bool :=
  let whole := cs.takeWhile Char.isDigit
  match cs.dropWhile Char.isDigit with
  | '.' :: rest =>
      (whole ≠ [] || rest.takeWhile Char.isDigit ≠ []) && isExponent (rest.dropWhile Char.isDigit)
  | rest => whole ≠ [] && isExponent rest

/-- Whether a text is a number, an infinity or not a number at all but the name for that. -/
def isNumber (cs : List Char) : Bool :=
  let unsigned := match cs with
    | '+' :: unsigned => unsigned
    | '-' :: unsigned => unsigned
    | unsigned => unsigned
  isUnsignedNumber unsigned ||
    String.ofList (unsigned.map Char.toLower) ∈ ["inf", "infinity", "nan"]

def zeroPadded (width n : Nat) : List Char :=
  let digits := Nat.toDigits 10 n
  List.replicate (width - digits.length) '0' ++ digits

end LogTree.Text

import LogTree.Json
import LogTree.Text.Digits

namespace LogTree.Json

/-- The figures of a number, as far as they fit 64 bits, and the power of ten that the last of them
counts. -/
structure Figures where
  significand : Nat := 0
  power : Int := 0
deriving DecidableEq

namespace Figures

def Fits (figures : Figures) : Prop :=
  figures.significand < UInt64.size

instance : DecidablePred Fits :=
  fun figures => inferInstanceAs (Decidable (figures.significand < UInt64.size))

def push (figures : Figures) (c : Char) : Figures :=
  { figures with significand := 10 * figures.significand + Text.digitValue c }

/-- Adds the figures before the point. From the first one that does not fit they count as zeros. -/
def addWhole (figures : Figures) : List Char → Figures
  | [] => figures
  | c :: rest =>
      if (figures.push c).Fits then (figures.push c).addWhole rest
      else { figures with power := figures.power + (rest.length + 1) }

def addFraction (figures : Figures) : List Char → Figures
  | [] => figures
  | c :: rest =>
      if (figures.push c).Fits then
        { figures.push c with power := figures.power - 1 }.addFraction rest
      else
        figures

end Figures

def greatestPower : Nat :=
  308

def powerOfTen (power : Nat) : Float :=
  Float.ofScientific 1 false power

def scaleDown (x : Float) (power : Nat) : Float :=
  if power ≤ greatestPower then
    x / powerOfTen power
  else if x == 0 then
    x
  else
    scaleDown (x / powerOfTen greatestPower) (power - greatestPower)
termination_by power
decreasing_by
  unfold greatestPower at *
  omega

/-- The figures as a floating-point number: they are rounded first, and once more at each step by
which they are scaled, so the result need not be the nearest one. There is none past the greatest
floating-point number. -/
def Figures.toFloat? (figures : Figures) : Option Float :=
  let x := Float.ofNat figures.significand
  if figures.power < 0 then
    some (scaleDown x figures.power.natAbs)
  else if figures.power ≤ greatestPower then
    let scaled := x * powerOfTen figures.power.toNat
    if scaled.isInf then none else some scaled
  else if figures.significand = 0 then
    some x
  else
    none

def signed (negative : Bool) (x : Float) : Json :=
  .float (if negative then -x else x)

/-- A number without a point and an exponent. It stays whole if it fits 64 bits, as a negative one
together with its sign; zero with a sign does not. -/
def wholeNumber? (negative : Bool) (figures : Figures) : Option Json :=
  if figures.power = 0 ∧ !negative then
    some (.integer figures.significand)
  else if figures.power = 0 ∧ figures.significand ≠ 0 ∧ 2 * figures.significand ≤ UInt64.size then
    some (.integer (-figures.significand))
  else
    figures.toFloat?.map (signed negative)

/-- Reads a number: digits that start with a zero only when it is the one digit, a point with digits
behind it or none, an exponent or none. -/
def number? (cs : List Char) : Option Json := do
  let negative := cs.head? = some '-'
  let unsigned := if negative then cs.drop 1 else cs
  let whole := unsigned.takeWhile Char.isDigit
  guard (whole = ['0'] ∨ whole ≠ [] ∧ whole.head? ≠ some '0')
  let figures := ({} : Figures).addWhole whole
  match unsigned.dropWhile Char.isDigit with
  | [] => wholeNumber? negative figures
  | '.' :: rest =>
      let fraction := rest.takeWhile Char.isDigit
      guard (fraction ≠ [])
      let exponent ← Text.readExponent? (rest.dropWhile Char.isDigit)
      let figures := figures.addFraction fraction
      let x ← { figures with power := figures.power + exponent }.toFloat?
      return signed negative x
  | rest =>
      let exponent ← Text.readExponent? rest
      let x ← { figures with power := figures.power + exponent }.toFloat?
      return signed negative x

end LogTree.Json

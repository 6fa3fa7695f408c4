namespace LogTree.Text

def digitCount (n : Nat) : Nat :=
  (Nat.toDigits 10 n).length

/-- A positive binary number, `significand` halved or doubled `exponent` times, as a fraction. -/
def binaryFraction (significand : Nat) (exponent : Int) : Nat × Nat :=
  (significand * Nat.pow 2 exponent.toNat, Nat.pow 2 (-exponent).toNat)

def decimalFraction (digits : Nat) (exponent : Int) : Nat × Nat :=
  (digits * Nat.pow 10 exponent.toNat, Nat.pow 10 (-exponent).toNat)

def fractionLe (a b : Nat × Nat) : Bool :=
  a.1 * b.2 ≤ b.1 * a.2

def fractionLt (a b : Nat × Nat) : Bool :=
  a.1 * b.2 < b.1 * a.2

/-- The distance of two fractions over the product of their denominators. -/
def fractionGap (a b : Nat × Nat) : Nat × Nat :=
  ((a.1 * b.2 - b.1 * a.2) + (b.1 * a.2 - a.1 * b.2), a.2 * b.2)

/-- The fewest decimal digits, with an exponent of ten, that lie closer to a positive floating-point
number than to any other one; of several such the nearest, and of two equally near the even one. The
number is `significand * 2 ^ exponent`; `atPowerOfTwo` says that its lower neighbour is half as far
away as its upper one. -/
def shortestDecimal (significand : Nat) (exponent : Int) (atPowerOfTwo : Bool) : Nat × Int :=
  let value := binaryFraction (4 * significand) (exponent - 2)
  let low := binaryFraction (4 * significand - (if atPowerOfTwo then 1 else 2)) (exponent - 2)
  let high := binaryFraction (4 * significand + 2) (exponent - 2)
  let inside (x : Nat × Nat) : Bool :=
    if significand % 2 = 0 then fractionLe low x && fractionLe x high
    else fractionLt low x && fractionLt x high
  let magnitude : Int := (digitCount (value.1 * Nat.pow 10 400 / value.2) : Int) - 400
  let hit (count : Nat) : Option (Nat × Int) :=
    let scale : Int := magnitude - count
    let below :=
      value.1 * Nat.pow 10 (-scale).toNat / (value.2 * Nat.pow 10 scale.toNat)
    let gap (digits : Nat) : Nat × Nat := fractionGap (decimalFraction digits scale) value
    let candidates := [below, below + 1].filter fun digits => inside (decimalFraction digits scale)
    match candidates with
    | [] => none
    | [digits] => some (digits, scale)
    | first :: second :: _ =>
        let nearer := fractionLt (gap first) (gap second) ||
          (fractionLe (gap first) (gap second) && first % 2 == 0)
        some (if nearer then first else second, scale)
  ((List.range' 1 17).findSome? hit).getD (value.1 / value.2, 0)

/-- The powers of ten at which a number is written without an exponent: from `least` to `greatest`
for its leading digit. -/
structure PlainPowers where
  least : Int
  greatest : Int
deriving DecidableEq

/-- Figures whose leading one counts `10 ^ power`, written without an exponent and with at least one
figure on each side of the point. -/
def plain (figures : List Char) (power : Int) : List Char :=
  if power < 0 then
    '0' :: '.' :: List.replicate (-power - 1).toNat '0' ++ figures
  else
    let whole := power.toNat + 1
    let rest := figures.drop whole
    figures.take whole ++ List.replicate (whole - figures.length) '0' ++ '.' ::
      (if rest.isEmpty then ['0'] else rest)

/-- Figures whose leading one counts `10 ^ power`, written with that power and its sign; the point
is left out when one figure is all there is. -/
def scientific (figures : List Char) (power : Int) : List Char :=
  let rest := figures.drop 1
  figures.take 1 ++ (if rest.isEmpty then [] else '.' :: rest) ++
    'e' :: (if power < 0 then '-' else '+') :: Nat.toDigits 10 power.natAbs

/-- A positive decimal number, written plainly where its leading power of ten allows it. Zeros at
the end of the digits only move the exponent, so they are not among the figures. -/
def ofDecimal (powers : PlainPowers) (digits : Nat) (exponent : Int) : List Char :=
  let written := Nat.toDigits 10 digits
  let power : Int := written.length + exponent - 1
  let figures := (written.reverse.dropWhile (· = '0')).reverse
  if powers.least ≤ power ∧ power ≤ powers.greatest then plain figures power
  else scientific figures power

def ofFloat (powers : PlainPowers) (x : Float) : String :=
  let bits := x.toBits.toNat
  let sign := if UInt64.size ≤ 2 * bits then ['-'] else []
  -- The leading bit of a number that is large enough to have one is not stored.
  let leading := Nat.pow 2 52
  let field := bits / leading % Nat.pow 2 11
  let fraction := bits % leading
  if field = 0 ∧ fraction = 0 then
    String.ofList (sign ++ ['0', '.', '0'])
  else
    let decimal :=
      if field = 0 then shortestDecimal fraction (-1074) false
      else shortestDecimal (leading + fraction) ((field : Int) - 1075) (fraction == 0 && 1 < field)
    String.ofList (sign ++ ofDecimal powers decimal.1 decimal.2)

end LogTree.Text

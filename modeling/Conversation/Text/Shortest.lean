import Conversation.Text.Decimal

namespace Conversation.Text

/-- A positive decimal: the digits of `significand`, read as `d.ddd`, times ten to the power
`exponent`. -/
structure Decimal where
  significand : Nat
  exponent : Int
  deriving DecidableEq, Repr, Inhabited

/-- The parts of a finite positive floating point number `mantissa * 2 ^ exponent`. -/
structure Binary where
  mantissa : Nat
  exponent : Int
  /-- Whether the next smaller number is only half as far away as the next larger one. -/
  narrowBelow : Bool
  deriving DecidableEq, Repr, Inhabited

namespace Binary

/-- The parts of the number with these bits; the sign bit is ignored. -/
def ofBits (bits : Nat) : Binary :=
  let fraction : Nat := bits % Nat.pow 2 52
  let biased : Nat := bits / Nat.pow 2 52 % Nat.pow 2 11
  if biased = 0 then ⟨fraction, -1074, false⟩
  else ⟨fraction + Nat.pow 2 52, Int.ofNat biased - 1075, fraction = 0 && biased > 1⟩

/-- The number, the ends of the interval of reals that round to it, and one, all multiplied by a
common factor that makes them natural numbers on the decimal grid of `10 ^ grid`. -/
def scaled (x : Binary) (grid : Int) : Nat × Nat × Nat × Nat :=
  let shift := x.exponent - 2
  let up := Nat.pow 2 shift.toNat * Nat.pow 10 (-grid).toNat
  let down := Nat.pow 2 (-shift).toNat * Nat.pow 10 grid.toNat
  let below := if x.narrowBelow then 1 else 2
  (4 * x.mantissa * up, (4 * x.mantissa - below) * up, (4 * x.mantissa + 2) * up, down)

/-- The nearest point of a decimal grid that rounds to the number, if there is one. Only the two
neighbours of the number on the grid can be it. -/
def nearest? (x : Binary) (grid : Int) : Option Nat :=
  let (value, low, high, unit) := x.scaled grid
  let inside (n : Nat) : Bool :=
    if x.mantissa % 2 = 0 then low ≤ n * unit && n * unit ≤ high
    else low < n * unit && n * unit < high
  let lower := value / unit
  let upper := lower + 1
  match inside lower && lower > 0, inside upper with
  | true, true =>
      let below := value - lower * unit
      let above := upper * unit - value
      if below < above || (below = above && lower % 2 = 0) then some lower else some upper
  | true, false => some lower
  | false, true => some upper
  | false, false => none

/-- The exponent of the first digit of the number, found by counting up from
`start`. -/
def leadingExponent (x : Binary) : (fuel : Nat) → (start : Int) → Int
  | 0, start => start
  | fuel + 1, start =>
      let (value, _, _, unit) := x.scaled (start + 1)
      if value < unit then start else leadingExponent x fuel (start + 1)

/-- Searches grids of growing fineness, `fuel` of them, for a point that rounds to the number. -/
def shortestOn (x : Binary) (leading : Int) : (fuel places : Nat) → Decimal
  | 0, _ => ⟨0, 0⟩
  | fuel + 1, places =>
      match x.nearest? (leading - places) with
      | some n =>
          if n = Nat.pow 10 (places + 1) then ⟨1, leading + 1⟩ else ⟨n, leading⟩
      | none => shortestOn x leading fuel (places + 1)

/-- Of the shortest decimals that round to a positive number, the nearest to it. Seventeen digits
always suffice. -/
def shortest (x : Binary) : Decimal :=
  shortestOn x (x.leadingExponent 640 (-325)) 17 0

end Binary

structure RealFormat where
  /-- The exponents that are written positionally. -/
  positional : Int → Bool
  plus : String

namespace RealFormat

/-- Writes digits with the point behind the first `exponent + 1` of them. -/
def fixed (digits : List Char) (exponent : Int) : List Char :=
  match exponent with
  | .negSucc n => '0' :: '.' :: (List.replicate n '0' ++ digits)
  | .ofNat n =>
      let whole := digits.take (n + 1)
      let fraction := digits.drop (n + 1)
      whole ++ List.replicate (n + 1 - whole.length) '0'
        ++ '.' :: (if fraction.isEmpty then ['0'] else fraction)

/-- Writes one digit, the others behind the point, and the exponent. -/
def scientific (format : RealFormat) (digits : List Char) (exponent : Int) : List Char :=
  digits.take 1 ++ (if digits.length ≤ 1 then [] else '.' :: digits.drop 1) ++ 'e' ::
    (if exponent < 0 then [] else format.plus.toList) ++ (integer exponent).toList

def decimalText (format : RealFormat) (decimal : Decimal) : List Char :=
  let digits := (digits 10 decimal.significand).reverse.dropWhile (· = '0') |>.reverse
  if format.positional decimal.exponent then fixed digits decimal.exponent
  else format.scientific digits decimal.exponent

def text (format : RealFormat) (x : Float) : String :=
  let bits := x.toBits.toNat
  let magnitude := bits % Nat.pow 2 63
  let sign := if bits < Nat.pow 2 63 then "" else "-"
  if x.isNaN then "NaN"
  else if x.isInf then sign ++ "inf"
  else if magnitude = 0 then sign ++ "0.0"
  else sign ++ String.ofList (format.decimalText (Binary.ofBits magnitude).shortest)

end RealFormat

end Conversation.Text

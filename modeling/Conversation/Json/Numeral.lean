import Conversation.Json.Document

/-!
The numbers of JSON texts. An integer that fits 64 bits is read exactly. Any other number is the
floating point number of its first digits, as many as fit 64 bits, multiplied or divided by a
power of ten.
-/

namespace Conversation.Json

structure Cursor where
  rest : List Char
  place : Place

namespace Cursor

def past (cursor : Cursor) : Cursor :=
  match cursor.rest with
  | [] => cursor
  | c :: rest => ⟨rest, cursor.place.past c⟩

/-- Behind the decimal digits that stand here; gives them too. -/
def digits (cursor : Cursor) : List Char × Cursor :=
  let run := cursor.rest.takeWhile Char.isDigit
  (run, ⟨cursor.rest.drop run.length, ⟨cursor.place.line, cursor.place.column + run.length⟩⟩)

def atDigit (cursor : Cursor) : Bool :=
  cursor.rest.head?.any Char.isDigit

/-- The place of a fault at the next byte, which it includes. -/
def peekPlace (cursor : Cursor) : Place :=
  match cursor.rest with
  | [] => cursor.place
  | c :: _ => cursor.place.pastByte c

end Cursor

structure Numeral where
  negative : Bool
  whole : List Char
  fraction : Option (List Char)
  /-- The exponent, with a sign and the place of its first digit. -/
  exponent : Option (Bool × Place × List Char)

namespace Numeral

/-- The fault where a digit is missing. At the end of the text, one who reads misses a value. -/
def missingDigit (cursor : Cursor) : Break :=
  match cursor.rest with
  | [] => ⟨.at .endInValue cursor.place, .at .invalidNumber cursor.place⟩
  | _ => .both (.at .invalidNumber cursor.peekPlace)

def scanWhole (cursor : Cursor) : Except Break (List Char × Cursor) :=
  match cursor.rest with
  | '0' :: _ =>
      let next := cursor.past
      if next.atDigit then .error (.both (.at .invalidNumber next.peekPlace))
      else .ok (['0'], next)
  | _ => if cursor.atDigit then .ok cursor.digits else .error (missingDigit cursor)

def scanFraction (cursor : Cursor) : Except Break (Option (List Char) × Cursor) :=
  match cursor.rest with
  | '.' :: _ =>
      let next := cursor.past
      if next.atDigit then
        let (digits, next) := next.digits
        .ok (some digits, next)
      else .error (missingDigit next)
  | _ => .ok (none, cursor)

/-- Behind the sign of an exponent; gives whether it is negative. -/
def scanSign (cursor : Cursor) : Bool × Cursor :=
  match cursor.rest with
  | '+' :: _ => (false, cursor.past)
  | '-' :: _ => (true, cursor.past)
  | _ => (false, cursor)

def scanExponent (cursor : Cursor) :
    Except Break (Option (Bool × Place × List Char) × Cursor) :=
  match cursor.rest with
  | c :: _ =>
      if c = 'e' ∨ c = 'E' then
        let (negative, next) := scanSign cursor.past
        if next.atDigit then
          let (digits, after) := next.digits
          .ok (some (negative, next.place, digits), after)
        else .error (missingDigit next)
      else .ok (none, cursor)
  | [] => .ok (none, cursor)

def scan (negative : Bool) (cursor : Cursor) : Except Break (Numeral × Cursor) := do
  let (whole, cursor) ← scanWhole cursor
  let (fraction, cursor) ← scanFraction cursor
  let (exponent, cursor) ← scanExponent cursor
  return ({ negative, whole, fraction, exponent }, cursor)

def digitValue (c : Char) : Nat := c.toNat - 0x30

/-- Appends digits to a number as long as it fits 64 bits; gives the number of digits used. -/
def extend (n : Nat) : List Char → Nat × Nat
  | [] => (n, 0)
  | c :: rest =>
      let next := n * 10 + digitValue c
      if next < Nat.pow 2 64 then
        let (value, used) := extend next rest
        (value, used + 1)
      else (n, 0)

def tenTo (power : Nat) : Float := Float.ofScientific 1 false power

/-- A floating point number times ten to a power; nothing if it is too large. -/
def scale : (fuel : Nat) → Float → Int → Option Float
  | 0, x, _ => some x
  | fuel + 1, x, power =>
      if power.natAbs ≤ 308 then
        if power ≥ 0 then
          let y := x * tenTo power.natAbs
          if y.isInf then none else some y
        else some (x / tenTo power.natAbs)
      else if x == 0 then some x
      else if power ≥ 0 then none
      else scale fuel (x / tenTo 308) (power + 308)

/-- The exponent that some digits stand for, or the number of digits read when it exceeds 31
bits. -/
def exponentOf (n used : Nat) : List Char → Except Nat Nat
  | [] => .ok n
  | c :: rest =>
      let next := n * 10 + digitValue c
      if next < Nat.pow 2 31 then exponentOf next (used + 1) rest else .error (used + 1)

def signed (negative : Bool) (x : Float) : Float :=
  if negative then -x else x

def realOf (negative : Bool) (significand : Nat) (power : Int) (stop : Place) :
    Except Fault Number :=
  match scale 8 significand.toUInt64.toFloat power with
  | some x => .ok (.real (signed negative x))
  | none => .error (.at .numberOutOfRange stop)

/-- The number that a numeral stands for; `stop` is the place behind it. -/
def value (numeral : Numeral) (stop : Place) : Except Fault Number :=
  let (whole, used) := extend 0 numeral.whole
  let dropped := numeral.whole.length - used
  let (significand, places) := extend whole (numeral.fraction.getD [])
  let power : Int := Int.ofNat dropped - Int.ofNat places
  match numeral.exponent with
  | some (negative, place, digits) =>
      match exponentOf 0 0 digits with
      | .ok exponent =>
          realOf numeral.negative significand
            (if negative then power - exponent else power + exponent) stop
      | .error read =>
          if significand ≠ 0 ∧ negative = false then
            .error (.at .numberOutOfRange ⟨place.line, place.column + read⟩)
          else .ok (.real (signed numeral.negative 0))
  | none =>
      if dropped > 0 ∨ numeral.fraction.isSome then
        realOf numeral.negative significand power stop
      else if numeral.negative then
        if significand = 0 ∨ significand > Nat.pow 2 63 then
          .ok (.real (signed true significand.toUInt64.toFloat))
        else .ok (.integer (-Int.ofNat significand))
      else .ok (.integer significand)

end Numeral

end Conversation.Json

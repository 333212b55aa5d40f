import Conversation.Text.Quoted
import Conversation.Text.Shortest
import Conversation.Yaml.Tree

namespace Conversation.Yaml

inductive Value
  | null
  | bool (value : Bool)
  | integer (value : Int)
  | real (value : Float)
  | string (value : String)

def isNull (text : String) : Bool :=
  ["", "null", "Null", "NULL", "~"].contains text

def bool? (text : String) : Option Bool :=
  if ["true", "True", "TRUE"].contains text then some true
  else if ["false", "False", "FALSE"].contains text then some false
  else none

/-- The value of a digit of a base of up to sixteen. -/
def digit? (base : Nat) (c : Char) : Option Nat :=
  (hexDigit? c).filter fun digit => digit < base

/-- The number that some digits stand for. At least one is needed. -/
def natural? (base : Nat) (digits : List Char) : Option Nat :=
  if digits.isEmpty then none
  else digits.foldlM (fun n c => (digit? base c).map fun digit => n * base + digit) 0

/-- Whether a number is written with a leading zero. Such texts are no numbers. -/
def hasLeadingZero : List Char → Bool
  | '0' :: rest => !rest.isEmpty && rest.all Char.isDigit
  | _ => false

def magnitude? : List Char → Option Nat
  | '0' :: 'x' :: rest => natural? 16 rest
  | '0' :: 'o' :: rest => natural? 8 rest
  | '0' :: 'b' :: rest => natural? 2 rest
  | digits => if hasLeadingZero digits then none else natural? 10 digits

/-- The integer that a text stands for, of at most 128 bits. -/
def integer? (text : List Char) : Option Int :=
  match text with
  | '-' :: digits =>
      (magnitude? digits).bind fun n => if n ≤ Nat.pow 2 127 then some (-Int.ofNat n) else none
  | '+' :: digits => (magnitude? digits).bind fun n => if n < Nat.pow 2 128 then some n else none
  | digits => (magnitude? digits).bind fun n => if n < Nat.pow 2 128 then some n else none

def splitSign : List Char → Bool × List Char
  | '-' :: rest => (true, rest)
  | '+' :: rest => (false, rest)
  | rest => (false, rest)

def exponent? : List Char → Option Int
  | [] => some 0
  | c :: rest =>
      if c = 'e' ∨ c = 'E' then
        let (negative, digits) := splitSign rest
        (natural? 10 digits).map fun n => if negative then -Int.ofNat n else Int.ofNat n
      else none

/-- A decimal with a power of ten as a floating point number. Powers far outside the range of such
numbers are not computed. -/
def realOf (significand : Nat) (power : Int) : Float :=
  if significand = 0 then 0
  else if power > 400 then Float.ofScientific 1 false 400
  else if power < -(400 + Int.ofNat (Text.digits 10 significand).length) then 0
  else Float.ofScientific significand (power < 0) power.natAbs

/-- The floating point number that a text without a sign stands for. -/
def unsignedReal? (text : List Char) : Option Float :=
  let whole := text.takeWhile Char.isDigit
  let behind := text.drop whole.length
  let fraction := match behind with
    | '.' :: rest => rest.takeWhile Char.isDigit
    | _ => []
  let behind := match behind with
    | '.' :: rest => rest.drop fraction.length
    | rest => rest
  do
    let significand ← natural? 10 (whole ++ fraction)
    let exponent ← exponent? behind
    return realOf significand (exponent - Int.ofNat fraction.length)

def real? (text : List Char) : Option Float :=
  let (negative, digits) := splitSign text
  let signed := fun x : Float => if negative then -x else x
  if [".inf", ".Inf", ".INF"].contains (String.ofList digits) then some (signed (1 / 0))
  else if [".nan", ".NaN", ".NAN"].contains (String.ofList text) then some (0 / 0)
  else (unsignedReal? digits).bind fun x => if x.isInf then none else some (signed x)

def Value.ofPlain (text : String) : Value :=
  let chars := text.toList
  if isNull text then .null
  else
    match bool? text, integer? chars, real? chars with
    | some value, _, _ => .bool value
    | none, some value, _ => .integer value
    | none, none, some value =>
        if hasLeadingZero (splitSign chars).2 then .string text else .real value
    | none, none, none => .string text

/-- Floating point numbers are described in full. -/
def realFormat : Text.RealFormat where
  positional _ := true
  plus := ""

/-- The description of a value. Integers beyond 64 bits are described with their width. -/
def Value.description : Value → String
  | .null => "unit value"
  | .bool value => "boolean `" ++ (if value then "true" else "false") ++ "`"
  | .integer value =>
      if value < -Int.pow 2 63 then "integer `" ++ Text.integer value ++ "` as i128"
      else if value ≥ Int.pow 2 64 then "integer `" ++ Text.integer value ++ "` as u128"
      else "integer `" ++ Text.integer value ++ "`"
  | .real value => "floating point `" ++ realFormat.text value ++ "`"
  | .string value => "string " ++ Text.quoted value

end Conversation.Yaml

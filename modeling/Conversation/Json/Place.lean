import Conversation.Json

namespace Conversation.Json

/-- A place in a text: the number of line feeds before it plus one, and the number of bytes since
the last line feed. -/
structure Place where
  line : Nat
  column : Nat
  deriving DecidableEq, Repr, Inhabited

namespace Place

def start : Place := ⟨1, 0⟩

/-- The place one byte further, when that byte begins the character. -/
def pastByte (place : Place) (c : Char) : Place :=
  if c = '\n' then ⟨place.line + 1, 0⟩ else ⟨place.line, place.column + 1⟩

def past (place : Place) (c : Char) : Place :=
  if c = '\n' then ⟨place.line + 1, 0⟩ else ⟨place.line, place.column + c.utf8Size⟩

def pastAll (place : Place) (text : List Char) : Place :=
  text.foldl past place

def pastBytes (place : Place) : (count : Nat) → List Char → Place
  | 0, _ => place
  | _, [] => place
  | count + 1, c :: rest =>
      if c.utf8Size ≤ count + 1 then pastBytes (place.past c) (count + 1 - c.utf8Size) rest
      else ⟨place.line, place.column + (count + 1)⟩
termination_by count => count
decreasing_by
  have := c.utf8Size_pos
  omega

end Place

inductive Found
  | null
  | bool (value : Bool)
  | number (value : Number)
  | string (value : String)
  | sequence
  | map
  /-- The bare name of a variant that needs content. -/
  | bareVariant

inductive Cause
  | endInValue
  | endInString
  | endInList
  | endInObject
  | expectedColon
  | expectedListCommaOrEnd
  | expectedObjectCommaOrEnd
  | expectedValue
  | expectedWord
  | keyMustBeString
  | trailingComma
  | trailingCharacters
  | invalidNumber
  | numberOutOfRange
  | invalidEscape
  | controlCharacter
  | unexpectedEndOfEscape
  | loneSurrogate
  | recursionLimit
  | numericKey
  | invalidType (found : Found) (expected : String)
  | invalidValue (found : Found) (expected : String)
  | invalidLength (length : Nat) (expected : String)
  | missingField (name : String)
  | duplicateField (name : String)
  | unknownVariant (name : String) (variants : List String)

/-- A cause, with its place when the value is read from a text. -/
structure Fault where
  cause : Cause
  place : Option Place

def Fault.at (cause : Cause) (place : Place) : Fault := ⟨cause, some place⟩

def Fault.orPlace (fault : Fault) (place : Option Place) : Fault :=
  { fault with place := fault.place.or place }

end Conversation.Json

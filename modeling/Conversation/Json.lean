import Conversation.Text.Shortest

namespace Conversation

/-- A JSON number: an integer of at most 64 bits, or a floating point number. -/
inductive Number
  | integer (value : Int)
  | real (value : Float)

inductive Json
  | null
  | bool (value : Bool)
  | number (value : Number)
  | string (value : String)
  | array (items : List Json)
  | object (members : List (String × Json))

/-- Floating point numbers are written positionally from `1e-5` up to below `1e16`. -/
def Number.realFormat : Text.RealFormat where
  positional exponent := -5 ≤ exponent && exponent ≤ 15
  plus := "+"

def Number.text : Number → String
  | .integer value => Text.integer value
  | .real value => realFormat.text value

namespace Json

instance : Inhabited Json := ⟨.null⟩

def nat (n : Nat) : Json := .number (.integer n)

/-- A member that is left out when the value is absent. -/
def member? {α : Type} (key : String) (encode : α → Json) : Option α → List (String × Json)
  | some value => [(key, encode value)]
  | none => []

def orNull {α : Type} (encode : α → Json) : Option α → Json
  | some value => encode value
  | none => .null

def get? (key : String) : Json → Option Json
  | .object members => (members.reverse.find? fun member => member.1 = key).map Prod.snd
  | _ => none

/-- Sets the member of a key at its place in ascending order. -/
def insertMember (key : String) (value : Json) : List (String × Json) → List (String × Json)
  | [] => [(key, value)]
  | (other, old) :: rest =>
      if key < other then (key, value) :: (other, old) :: rest
      else if key = other then (key, value) :: rest
      else (other, old) :: insertMember key value rest

mutual

/-- The value with the members of all objects in ascending order of their keys. Of several
members with one key the last one is kept. -/
def sorted : Json → Json
  | .array items => .array (sortedItems items)
  | .object members => .object (sortedMembers members [])
  | value => value

def sortedItems : List Json → List Json
  | [] => []
  | item :: rest => item.sorted :: sortedItems rest

def sortedMembers : List (String × Json) → List (String × Json) → List (String × Json)
  | [], placed => placed
  | (key, value) :: rest, placed => sortedMembers rest (insertMember key value.sorted placed)

end

end Json

end Conversation

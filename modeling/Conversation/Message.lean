import Conversation.Assertion

namespace Conversation

structure Role where
  name : String
  deriving DecidableEq, Repr, Inhabited

inductive PayloadType
  | int
  | string
  deriving DecidableEq, Repr, Inhabited

def PayloadType.text : PayloadType → String
  | .int => "int"
  | .string => "string"

structure ValueDecl where
  name : String
  type : Option PayloadType
  deriving DecidableEq, Repr, Inhabited

def ValueDecl.text (decl : ValueDecl) : String :=
  match decl.type with
  | some type => decl.name ++ ":" ++ type.text
  | none => decl.name

/-- The direction of an interaction, seen from the local role. -/
inductive Direction
  | receive
  | send
  deriving DecidableEq, Repr, Inhabited

/-- A receive is shown as a question mark and a send as an exclamation mark. -/
def Direction.text : Direction → String
  | .receive => "?"
  | .send => "!"

/-- What stands for an absent label or type. -/
def absentText : String := "_"

structure Message where
  direction : Direction
  label : Option String
  partner : Role
  deriving DecidableEq, Repr, Inhabited

def Message.text (message : Message) : String :=
  message.partner.name ++ message.direction.text ++ message.label.getD absentText

/-- What a directed choice selects on: a label and the ordered payload types. -/
structure DispatchKey where
  label : Option String
  types : List (Option PayloadType)
  deriving DecidableEq, Repr, Inhabited

def DispatchKey.text (key : DispatchKey) : String :=
  key.label.getD absentText ++ "("
    ++ ", ".intercalate (key.types.map fun type => (type.map PayloadType.text).getD absentText)
    ++ ")"

structure Interaction where
  direction : Direction
  label : Option String
  payload : List ValueDecl
  partner : Role
  assertion : Option Assertion
  deriving DecidableEq, Repr, Inhabited

namespace Interaction

def bare (direction : Direction) (label : Option String) (partner : Role) : Interaction :=
  { direction, label, payload := [], partner, assertion := none }

def withValue (interaction : Interaction) (name : String) (type : Option PayloadType) :
    Interaction :=
  { interaction with payload := interaction.payload ++ [⟨name, type⟩] }

def withAssertion (interaction : Interaction) (text : String) : Interaction :=
  { interaction with assertion := some (Assertion.ofText text) }

def message (interaction : Interaction) : Message :=
  { direction := interaction.direction
    label := interaction.label
    partner := interaction.partner }

/-- The key that selects this exchange among the branches of a directed choice. -/
def dispatchKey (interaction : Interaction) : DispatchKey :=
  { label := interaction.label
    types := interaction.payload.map ValueDecl.type }

def text (interaction : Interaction) : String :=
  interaction.message.text
    ++ (if interaction.payload.isEmpty then ""
        else "(" ++ ", ".intercalate (interaction.payload.map ValueDecl.text) ++ ")")
    ++ (match interaction.assertion with
        | some guard => " " ++ guard.text
        | none => "")

end Interaction

end Conversation

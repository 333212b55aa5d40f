import Conversation.Message

namespace Conversation

mutual

inductive Activity
  | interaction (exchange : Interaction)
  | choice (branches : List (List Activity))
  /-- One of the branches is run, selected by the message that it starts with. -/
  | directedChoice (sender : Role) (receivers : List Role) (branches : List DirectedBranch)
  | parallel (branches : List (List Activity))
  | loop (body : List Activity)
  /-- The body may restart itself by calling the label. -/
  | recursion (label : String) (body : List Activity)
  | call (label : String)
  /-- After the body, a message of the role may start the handler. -/
  | escape (body : List Activity) (role : Role) (handler : List Activity)
  | finish

/-- A branch of a directed choice: the selecting exchange and what follows it. -/
inductive DirectedBranch
  | mk (exchange : Interaction) (body : List Activity)

end

instance : Inhabited Activity := ⟨.finish⟩

def DirectedBranch.exchange : DirectedBranch → Interaction
  | .mk exchange _ => exchange

def DirectedBranch.body : DirectedBranch → List Activity
  | .mk _ body => body

/-- The kinds of activity, as diagnostics name them. -/
inductive Construct
  | interaction
  | choice
  | directedChoice
  | parallel
  | loop
  | recursion
  | call
  | escape
  | finish
  deriving DecidableEq, Repr, Inhabited

def Construct.text : Construct → String
  | .interaction => "interaction"
  | .choice => "choice"
  | .directedChoice => "directed choice"
  | .parallel => "parallel"
  | .loop => "repeat"
  | .recursion => "rec"
  | .call => "recursion call"
  | .escape => "global escape"
  | .finish => "end"

namespace Activity

def construct : Activity → Construct
  | .interaction .. => .interaction
  | .choice .. => .choice
  | .directedChoice .. => .directedChoice
  | .parallel .. => .parallel
  | .loop .. => .loop
  | .recursion .. => .recursion
  | .call .. => .call
  | .escape .. => .escape
  | .finish => .finish

/-- The single interaction that an activity necessarily starts with. Loops and recursions are
looked through, down to their first activity; of an activity that may start otherwise, or of an
empty body, the kind is reported instead. -/
def leadingInteraction : Activity → Except Construct Interaction
  | .interaction exchange => .ok exchange
  | .loop (first :: _) => first.leadingInteraction
  | .recursion _ (first :: _) => first.leadingInteraction
  | .loop [] => .error .loop
  | .recursion _ [] => .error .recursion
  | .choice .. => .error .choice
  | .directedChoice .. => .error .directedChoice
  | .parallel .. => .error .parallel
  | .call .. => .error .call
  | .escape .. => .error .escape
  | .finish => .error .finish

end Activity

structure Protocol where
  name : String
  viewpoint : Option Role
  roles : List Role
  activities : List Activity
  deriving Inhabited

namespace Protocol

def bare (name : String) (activities : List Activity) : Protocol :=
  { name, viewpoint := none, roles := [], activities }

def seenFrom (protocol : Protocol) (role : Role) : Protocol :=
  { protocol with viewpoint := some role }

def withRole (protocol : Protocol) (role : Role) : Protocol :=
  { protocol with roles := protocol.roles ++ [role] }

end Protocol

end Conversation

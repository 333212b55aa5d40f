import Conversation.BuildError
import Conversation.Json.Fault

namespace Conversation

/-- Why a request for an automaton fails. -/
inductive Failure
  | unreadable (fault : Json.Fault)
  | unbuildable (error : BuildError)

namespace Failure

def code : Failure → String
  | .unreadable _ => "BAD_INPUT"
  | .unbuildable error => error.code

def message : Failure → String
  | .unreadable fault => "JSON error: " ++ fault.text
  | .unbuildable error => error.message

def isStructural : Failure → Bool
  | .unreadable _ => false
  | .unbuildable _ => true

end Failure

end Conversation

import Conversation.Activity
import Conversation.State

namespace Conversation

inductive RequiredList
  | protocol
  | choice
  | choiceBranch
  | directedChoice
  | parallel
  | parallelBranch
  | loopBody
  | recursionBody
  | escapeBody
  | handler
  deriving DecidableEq, Repr, Inhabited

def RequiredList.text : RequiredList → String
  | .protocol => "protocol"
  | .choice => "choice"
  | .choiceBranch => "choice branch"
  | .directedChoice => "directed choice"
  | .parallel => "parallel"
  | .parallelBranch => "parallel branch"
  | .loopBody => "repeat body"
  | .recursionBody => "rec body"
  | .escapeBody => "global escape body"
  | .handler => "interrupt handler"

/-- Why a protocol cannot be compiled. Every error ends the compilation. -/
inductive BuildError
  /-- A call of a label that no enclosing recursion of the same automaton has. -/
  | undefinedLabel (label : String)
  | emptyList (list : RequiredList)
  | ambiguousKey (key : DispatchKey)
  /-- A handler that does not start with a single interaction. -/
  | ambiguousHandler (found : Construct)
  | interruptConflict (state : State)
  deriving DecidableEq, Repr

namespace BuildError

def code : BuildError → String
  | .undefinedLabel _ => "UNDEFINED_RECURSION_LABEL"
  | .emptyList _ => "EMPTY_ACTIVITY_LIST"
  | .ambiguousKey _ => "AMBIGUOUS_DISPATCH_KEY"
  | .ambiguousHandler _ => "AMBIGUOUS_INTERRUPT"
  | .interruptConflict _ => "INTERRUPT_CONFLICT"

def message : BuildError → String
  | .undefinedLabel label =>
      "recursion label '" ++ label ++ "' is undefined or no longer in scope"
  | .emptyList list =>
      "empty activity list in " ++ list.text ++ ": at least one activity is required"
  | .ambiguousKey key =>
      "ambiguous dispatch key " ++ key.text ++ ": more than one branch selects on it"
  | .ambiguousHandler found =>
      "ambiguous interrupt: interrupt handler must start with a single interaction, found "
        ++ found.text
  | .interruptConflict state => "interrupt already registered at state " ++ state.text

end BuildError

end Conversation

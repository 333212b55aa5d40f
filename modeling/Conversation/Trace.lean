import Conversation.Automaton

namespace Conversation

/-- One step of a construction. -/
inductive Event
  | protocolEntered (name : String)
  | transitionAdded (source : State) (label : Label) (target : State)
  | choiceEntered (start : State) (branches : Nat)
  | choiceBranchEntered (index : Nat) (start : State)
  | choiceLeft (exit : State)
  | dispatchRegistered (state : State) (key : DispatchKey) (target : State)
  | parallelEntered (anchor join : State) (branches : Nat)
  | parallelBranchLeft (index : Nat) (anchor : State) (states : Nat)
  | parallelLeft (join : State)
  | loopEntered (start : State)
  | loopLeft (backEdge : Bool)
  | recursionEntered (label : String) (start : State)
  | recursionLeft (label : String)
  | recursionCalled (label : String) (target : State)
  | interruptArmed (anchor : State) (role : Role)
  | interruptRegistered (anchor : State) (message : Message)
  | finalMarked (state : State)
  | protocolLeft (states transitions : Nat)
  deriving DecidableEq, Repr

def Event.text : Event → String
  | .protocolEntered name => "enter protocol " ++ name
  | .transitionAdded source label target =>
      "transition " ++ source.text ++ " --" ++ label.text ++ "--> " ++ target.text
  | .choiceEntered start branches =>
      "enter choice at " ++ start.text ++ " (" ++ Text.decimal branches ++ " branches)"
  | .choiceBranchEntered index start =>
      "enter choice branch " ++ Text.decimal index ++ " from " ++ start.text
  | .choiceLeft exit => "exit choice at " ++ exit.text
  | .dispatchRegistered state key target =>
      "dispatch " ++ key.text ++ " at " ++ state.text ++ " to " ++ target.text
  | .parallelEntered anchor join branches =>
      "enter parallel at " ++ anchor.text ++ " (" ++ Text.decimal branches ++ " branches, join "
        ++ join.text ++ ")"
  | .parallelBranchLeft index anchor states =>
      "exit parallel branch " ++ Text.decimal index ++ " under " ++ anchor.text ++ " ("
        ++ Text.decimal states ++ " states)"
  | .parallelLeft join => "exit parallel at " ++ join.text
  | .loopEntered start => "enter repeat at " ++ start.text
  | .loopLeft true => "exit repeat with back-edge"
  | .loopLeft false => "exit repeat without back-edge"
  | .recursionEntered label start => "enter rec " ++ label ++ " at " ++ start.text
  | .recursionLeft label => "exit rec " ++ label
  | .recursionCalled label target => "call rec " ++ label ++ " -> " ++ target.text
  | .interruptArmed anchor role =>
      "arm interrupt by " ++ role.name ++ " at " ++ anchor.text
  | .interruptRegistered anchor message =>
      "interrupt " ++ message.text ++ " resumes at " ++ anchor.text
  | .finalMarked state => "final state " ++ state.text
  | .protocolLeft states transitions =>
      "exit protocol (" ++ Text.decimal states ++ " states, " ++ Text.decimal transitions
        ++ " transitions)"

end Conversation

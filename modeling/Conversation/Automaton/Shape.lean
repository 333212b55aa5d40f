import Conversation.Automaton.Query

namespace Conversation

/-- A summary of an automaton. A parallel region is given by the position of its anchor among
the states and the shapes of its branches. -/
inductive Shape
  | mk (states transitions silent finals interrupts : Nat)
      (nested : List (Option Nat × List Shape))

namespace Automaton

def positionOf (states : List State) (state : State) : Option Nat :=
  states.findIdx? fun other => other = state

mutual

def shape : Automaton → Shape
  | automaton@{ states, transitions, finals, nested, interrupts, .. } =>
      .mk states.length transitions.length automaton.silentCount finals.length
        interrupts.length (shapeOfRegions states nested)

def shapeOfRegions (states : List State) :
    List (State × List Automaton) → List (Option Nat × List Shape)
  | [] => []
  | (anchor, branches) :: rest =>
      (positionOf states anchor, shapeOfBranches branches) :: shapeOfRegions states rest

def shapeOfBranches : List Automaton → List Shape
  | [] => []
  | branch :: rest => branch.shape :: shapeOfBranches rest

end

end Automaton

end Conversation

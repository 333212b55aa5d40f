import Conversation.Message
import Conversation.Table

namespace Conversation

inductive Label
  | message (message : Message)
  | silent
  /-- The completion of a parallel branch. -/
  | parallelEnd
  deriving DecidableEq, Repr, Inhabited

namespace Label

def message? : Label → Option Message
  | .message shown => some shown
  | _ => none

def text : Label → String
  | .message shown => shown.text
  | .silent => "ε"
  | .parallelEnd => "END_PAR"

end Label

structure Transition where
  source : State
  label : Label
  target : State
  guard : Option Assertion
  payload : Option (List ValueDecl)
  deriving DecidableEq, Repr, Inhabited

namespace Transition

def silent (source target : State) : Transition :=
  { source, label := .silent, target, guard := none, payload := none }

/-- A transition is shown as an arrow between its states, with its guard behind it. -/
def text (transition : Transition) : String :=
  transition.source.text ++ " --" ++ transition.label.text ++ "--> " ++ transition.target.text
    ++ (match transition.guard with
        | some guard => " " ++ guard.text
        | none => "")

end Transition

/-- A transition that may preempt the normal flow and resumes at its anchor. -/
structure Interrupt where
  anchor : State
  transition : Transition
  deriving DecidableEq, Repr, Inhabited

/-- A branch of a directed choice, as it is dispatched to. -/
structure DispatchEntry where
  key : DispatchKey
  target : State
  deriving DecidableEq, Repr, Inhabited

/-- A compiled protocol or parallel branch. The name, the checksum and the table of anchors
belong to the outermost automaton only. -/
structure Automaton where
  name : Option String
  checksum : Option String
  initial : State
  states : List State
  transitions : List Transition
  finals : StateSet
  roles : List Role
  /-- The branches of the parallel regions, by the state that a region hangs off. -/
  nested : List (State × List Automaton)
  interrupts : List Interrupt
  dispatch : Table (List DispatchEntry)
  /-- For each state of a parallel branch the state that its region hangs off. -/
  anchors : Table State

def appendNew {α : Type} [DecidableEq α] (list : List α) (element : α) : List α :=
  if element ∈ list then list else list ++ [element]

namespace Automaton

def single (initial : State) : Automaton where
  name := none
  checksum := none
  initial := initial
  states := [initial]
  transitions := []
  finals := []
  roles := []
  nested := []
  interrupts := []
  dispatch := []
  anchors := []

instance : Inhabited Automaton := ⟨single 0⟩

def addState (automaton : Automaton) (state : State) : Automaton :=
  { automaton with states := automaton.states ++ [state] }

def addTransition (automaton : Automaton) (transition : Transition) : Automaton :=
  { automaton with transitions := automaton.transitions ++ [transition] }

def addInterrupt (automaton : Automaton) (interrupt : Interrupt) : Automaton :=
  { automaton with interrupts := automaton.interrupts ++ [interrupt] }

def addBranch (automaton : Automaton) (anchor : State) (branch : Automaton) : Automaton :=
  { automaton with nested := Table.append anchor branch automaton.nested }

def addDispatch (automaton : Automaton) (state : State) (entry : DispatchEntry) : Automaton :=
  { automaton with dispatch := Table.append state entry automaton.dispatch }

def markFinal (automaton : Automaton) (state : State) : Automaton :=
  { automaton with finals := StateSet.insert state automaton.finals }

def addRole (automaton : Automaton) (role : Role) : Automaton :=
  { automaton with roles := appendNew automaton.roles role }

mutual

/-- An automaton and all automata nested in it: the automaton first, then depth-first, by
ascending anchor and in branch order. -/
def family : Automaton → List Automaton
  | automaton@{ nested, .. } => automaton :: familyOfRegions nested

def familyOfRegions : List (State × List Automaton) → List Automaton
  | [] => []
  | (_, branches) :: rest => familyOfBranches branches ++ familyOfRegions rest

def familyOfBranches : List Automaton → List Automaton
  | [] => []
  | branch :: rest => branch.family ++ familyOfBranches rest

end

def totalStateCount (automaton : Automaton) : Nat :=
  (automaton.family.map fun member => member.states.length).foldr (· + ·) 0

def regionCount (automaton : Automaton) : Nat :=
  (automaton.family.map fun member => member.nested.length).foldr (· + ·) 0

end Automaton

end Conversation

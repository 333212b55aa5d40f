import Conversation.Automaton

/-!
Questions that a monitor asks an automaton: where a message leads, what is reachable silently,
which interrupt and which branch a message selects. Parallel regions are not entered; their
automata are asked separately.
-/

namespace Conversation.Automaton

def interruptAt (automaton : Automaton) (anchor : State) : Option Interrupt :=
  automaton.interrupts.find? fun interrupt => interrupt.anchor = anchor

def interruptFor (automaton : Automaton) (message : Message) : Option Interrupt :=
  automaton.interrupts.find? fun interrupt =>
    interrupt.transition.label.message? = some message

def dispatchAt (automaton : Automaton) (state : State) : List DispatchEntry :=
  Table.listAt state automaton.dispatch

/-- The state that a directed choice enters when it sees a key. -/
def dispatchTarget (automaton : Automaton) (state : State) (key : DispatchKey) : Option State :=
  ((automaton.dispatchAt state).find? fun entry => entry.key = key).map DispatchEntry.target

def branchesAt (automaton : Automaton) (state : State) : List Automaton :=
  Table.listAt state automaton.nested

def transitionsFrom (automaton : Automaton) (state : State) : List Transition :=
  automaton.transitions.filter fun transition => transition.source = state

def silentEdges (automaton : Automaton) : List (State × State) :=
  automaton.transitions.filterMap fun transition =>
    if transition.label = .silent then some (transition.source, transition.target) else none

def targetsFrom (state : State) (edges : List (State × State)) : List State :=
  (edges.filter fun edge => edge.1 = state).map Prod.snd

def edgesElsewhere (state : State) (edges : List (State × State)) : List (State × State) :=
  edges.filter fun edge => edge.1 ≠ state

theorem length_edgesElsewhere_add (state : State) (edges : List (State × State)) :
    (edgesElsewhere state edges).length + (targetsFrom state edges).length = edges.length := by
  induction edges with
  | nil => rfl
  | cons edge rest ih =>
      by_cases h : edge.1 = state <;>
        simp only [edgesElsewhere, targetsFrom, List.filter_cons, h, ne_eq, decide_true,
          decide_false, not_true_eq_false, not_false_eq_true, Bool.false_eq_true, if_true,
          if_false, List.length_cons, List.length_map] at ih ⊢ <;>
        omega

/-- The states met when `edges` are followed from the states in `queue`, nearest first. The edges
of a state are used up when it is met, so a second meeting adds nothing. -/
def reach (edges : List (State × State)) : (queue : List State) → List State
  | [] => []
  | state :: queue =>
      state :: reach (edgesElsewhere state edges) (queue ++ targetsFrom state edges)
termination_by queue => edges.length + queue.length
decreasing_by
  have := length_edgesElsewhere_add state edges
  simp only [List.length_append, List.length_cons]
  omega

def silentClosure (automaton : Automaton) (state : State) : StateSet :=
  StateSet.ofList (reach automaton.silentEdges [state])

/-- The states that a message leads to, after any silent moves. -/
def step (automaton : Automaton) (state : State) (message : Message) : StateSet :=
  let closure := automaton.silentClosure state
  StateSet.ofList ((automaton.transitions.filter fun transition =>
    transition.source ∈ closure && transition.label = .message message).map Transition.target)

def acceptsAt (automaton : Automaton) (state : State) : Bool :=
  (automaton.silentClosure state).any fun reached => reached ∈ automaton.finals

/-- Follows messages from a state, each time to the first of the states that a message leads to,
until a message leads nowhere. Gives what each message led to, and the last state. -/
def follow (automaton : Automaton) (state : State) : List Message → List StateSet × State
  | [] => ([], state)
  | message :: rest =>
      match automaton.step state message with
      | [] => ([[]], state)
      | next :: others =>
          let (steps, last) := automaton.follow next rest
          ((next :: others) :: steps, last)

/-- The name of a state by a table of anchors: a state of a parallel branch is named after the
state that its region hangs off. An anchor is used at most once. -/
def nameBy (anchors : Table State) (state : State) : String :=
  match _h : Table.find? state anchors with
  | some anchor => nameBy (Table.erase state anchors) anchor ++ "_" ++ Text.decimal state
  | none => state.text
termination_by anchors.length
decreasing_by exact Table.length_erase_lt _h

def displayName (automaton : Automaton) (state : State) : String :=
  nameBy automaton.anchors state

def silentCount (automaton : Automaton) : Nat :=
  (automaton.transitions.filter fun transition => transition.label = .silent).length

end Conversation.Automaton

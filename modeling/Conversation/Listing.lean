import Conversation.Automaton.Query
import Conversation.Style
import Conversation.Text.Blank
import Conversation.Trace

namespace Conversation.Listing

def indent (depth : Nat) : String :=
  String.ofList (List.replicate (2 * depth) ' ')

def title (colored : Bool) (automaton : Automaton) : String :=
  Style.bold.paint colored
    ("Protocol " ++ Style.cyan.paint colored (automaton.name.getD "?")) ++ "\n"

def labelText (colored : Bool) (label : Label) : String :=
  match label with
  | .message _ => Style.green.paint colored label.text
  | _ => Style.dimmed.paint colored label.text

def transitionLine (colored : Bool) (outermost automaton : Automaton) (depth : Nat)
    (transition : Transition) : String :=
  indent depth ++ outermost.displayName transition.source ++ " -> "
    ++ outermost.displayName transition.target ++ "  " ++ labelText colored transition.label
    ++ (match transition.payload with
        | some values => "(" ++ ", ".intercalate (values.map ValueDecl.text) ++ ")"
        | none => "")
    ++ (match transition.guard with
        | some guard => " " ++ guard.text
        | none => "")
    ++ (if automaton.interrupts.any fun interrupt => interrupt.transition = transition
        then " " ++ Style.yellow.paint colored "[interrupt]" else "")
    ++ "\n"

def dispatchLines (outermost automaton : Automaton) (depth : Nat) (state : State) : String :=
  String.join ((automaton.dispatchAt state).map fun entry =>
    indent depth ++ "dispatch " ++ outermost.displayName state ++ " " ++ entry.key.text ++ " -> "
      ++ outermost.displayName entry.target ++ "\n")

mutual

def body (colored : Bool) (outermost : Automaton) (depth : Nat) : Automaton → String
  | automaton@{ initial, states, transitions, finals, nested, .. } =>
      indent depth ++ "initial: "
        ++ Style.cyan.paint colored (outermost.displayName initial) ++ "\n"
        ++ indent depth ++ "final: "
        ++ Style.cyan.paint colored (", ".intercalate (finals.map outermost.displayName)) ++ "\n"
        ++ String.join (transitions.map (transitionLine colored outermost automaton depth))
        ++ String.join (states.map (dispatchLines outermost automaton depth))
        ++ regions colored outermost depth nested

def regions (colored : Bool) (outermost : Automaton) (depth : Nat) :
    List (State × List Automaton) → String
  | [] => ""
  | (anchor, branches) :: rest =>
      regionBranches colored outermost depth anchor 0 branches
        ++ regions colored outermost depth rest

/-- The lines of the branches at an anchor, the first of which has the given index. -/
def regionBranches (colored : Bool) (outermost : Automaton) (depth : Nat) (anchor : State) :
    (index : Nat) → List Automaton → String
  | _, [] => ""
  | index, branch :: rest =>
      indent depth ++ Style.bold.paint colored "parallel" ++ " at "
        ++ outermost.displayName anchor ++ " branch " ++ Text.decimal index ++ ":\n"
        ++ body colored outermost (depth + 1) branch
        ++ regionBranches colored outermost depth anchor (index + 1) rest

end

def ofAutomaton (colored : Bool) (automaton : Automaton) : String :=
  String.ofList (Text.trimEnd
    (title colored automaton ++ body colored automaton 1 automaton).toList)

def dispatchCount (automaton : Automaton) : Nat :=
  (automaton.states.filter fun state => !(automaton.dispatchAt state).isEmpty).length

def summary (colored : Bool) (automaton : Automaton) : String :=
  title colored automaton
    ++ "  checksum:      " ++ automaton.checksum.getD "-"
    ++ "\n  roles:         " ++ ", ".intercalate (automaton.roles.map Role.name)
    ++ "\n  states:        " ++ Text.decimal automaton.states.length ++ " ("
    ++ Text.decimal automaton.totalStateCount ++ " including parallel regions)"
    ++ "\n  transitions:   " ++ Text.decimal automaton.transitions.length
    ++ "\n  epsilon:       " ++ Text.decimal automaton.silentCount
    ++ "\n  final states:  " ++ Text.decimal automaton.finals.length
    ++ "\n  parallel:      " ++ Text.decimal automaton.regionCount
    ++ "\n  interrupts:    " ++ Text.decimal automaton.interrupts.length
    ++ "\n  dispatch:      " ++ Text.decimal (dispatchCount automaton)

def lineNumber (n : Nat) : String :=
  let digits := Text.decimal n
  String.ofList (List.replicate (4 - digits.length) ' ') ++ digits

def traceLines (colored : Bool) (events : List Event) : List String :=
  events.mapIdx fun index event =>
    Style.dimmed.paint colored (lineNumber index) ++ " " ++ event.text

def trace (colored : Bool) (events : List Event) : String :=
  "\n".intercalate (traceLines colored events)

end Conversation.Listing

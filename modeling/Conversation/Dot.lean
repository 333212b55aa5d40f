import Conversation.Automaton.Query

namespace Conversation.Dot

/-- The text of a quoted string that stands for a text: quotation marks and backslashes are
preceded by a backslash. -/
def escape (text : String) : String :=
  String.ofList (text.toList.flatMap fun c =>
    if c = '\\' ∨ c = '"' then ['\\', c] else [c])

def indent (depth : Nat) : String :=
  String.ofList (List.replicate (4 * depth) ' ')

def nodeLine (outermost automaton : Automaton) (depth : Nat) (state : State) : String :=
  indent depth ++ state.text ++ " [label=\"" ++ outermost.displayName state ++ "\", shape="
    ++ (if state ∈ automaton.finals then "doublecircle" else "circle") ++ "];\n"

def edgeLine (automaton : Automaton) (depth : Nat) (transition : Transition) : String :=
  let label := escape transition.label.text
    ++ (match transition.guard with
        | some guard => " " ++ escape guard.text
        | none => "")
  let style :=
    if automaton.interrupts.any fun interrupt => interrupt.transition = transition
    then ", style=dashed" else ""
  indent depth ++ transition.source.text ++ " -> " ++ transition.target.text ++ " [label=\""
    ++ label ++ "\"" ++ style ++ "];\n"

mutual

def body (outermost : Automaton) (depth : Nat) : Automaton → String
  | automaton@{ states, transitions, nested, .. } =>
      String.join (states.map (nodeLine outermost automaton depth))
        ++ String.join (transitions.map (edgeLine automaton depth))
        ++ regions outermost depth nested

def regions (outermost : Automaton) (depth : Nat) :
    List (State × List Automaton) → String
  | [] => ""
  | (anchor, branches) :: rest =>
      clusters outermost depth anchor 0 branches ++ regions outermost depth rest

/-- The clusters of the branches at an anchor, the first of which has the given index. -/
def clusters (outermost : Automaton) (depth : Nat) (anchor : State) :
    (index : Nat) → List Automaton → String
  | _, [] => ""
  | index, branch :: rest =>
      indent depth ++ "subgraph \"cluster_" ++ anchor.text ++ "_" ++ Text.decimal index
        ++ "\" \x7b\n"
        ++ body outermost (depth + 1) branch
        ++ indent depth ++ "\x7d\n"
        ++ indent depth ++ anchor.text ++ " -> " ++ branch.initial.text ++ " [style=dotted];\n"
        ++ clusters outermost depth anchor (index + 1) rest

end

def render (automaton : Automaton) : String :=
  "digraph \"" ++ escape (automaton.name.getD "automaton") ++ "\" \x7b\n    rankdir=LR;\n"
    ++ body automaton 1 automaton ++ "\x7d"

end Conversation.Dot

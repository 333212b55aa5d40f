import Conversation.Automaton

/-!
The scopes that are open while an automaton is built. A frame is opened for every recursion and
for every parallel branch; a branch also suspends the automaton under construction and starts one
of its own. Labels are looked up from the innermost frame outwards, and never beyond the frames
of the current automaton.
-/

namespace Conversation

/-- Where a recursion starts, and whether its body is still open. -/
structure RecursionEntry where
  start : State
  active : Bool
  deriving DecidableEq, Repr, Inhabited

/-- A choice whose branches are being built: the shared entry, and the shared exit once a branch
has reached it. -/
structure OpenChoice where
  start : State
  exit : Option State
  deriving DecidableEq, Repr, Inhabited

inductive FrameKind
  | root
  | recursion (label : String)
  | branch (anchor : State)
  deriving DecidableEq, Repr, Inhabited

structure Frame where
  kind : FrameKind
  /-- The nesting depth of the automaton that the frame builds. -/
  owner : Nat
  cursor : State
  recursions : List (String × RecursionEntry)
  /-- The open choices, innermost first. -/
  choices : List OpenChoice
  deriving DecidableEq, Repr, Inhabited

namespace Frame

def ofKind (kind : FrameKind) (owner : Nat) (cursor : State) : Frame :=
  { kind, owner, cursor, recursions := [], choices := [] }

def find? (label : String) (frame : Frame) : Option RecursionEntry :=
  frame.recursions.lookup label

def anchor? (frame : Frame) : Option State :=
  match frame.kind with
  | .branch anchor => some anchor
  | _ => none

end Frame

/-- Adds the labels of a closed frame as inactive ones, unless they are known already. -/
def retire (known : List (String × RecursionEntry)) :
    (closed : List (String × RecursionEntry)) → List (String × RecursionEntry)
  | [] => known
  | (label, entry) :: rest =>
      match known.lookup label with
      | some _ => retire known rest
      | none => retire (known ++ [(label, ⟨entry.start, false⟩)]) rest

/-- The open frames together with the automata under construction. -/
structure ScopeStack where
  automaton : Automaton
  /-- The enclosing automata, innermost first. -/
  suspended : List Automaton
  current : Frame
  enclosing : List Frame

namespace ScopeStack

def ofRoot (root : Automaton) : ScopeStack where
  automaton := root
  suspended := []
  current := Frame.ofKind .root 0 root.initial
  enclosing := []

instance : Inhabited ScopeStack := ⟨ofRoot default⟩

def frames (stack : ScopeStack) : List Frame :=
  stack.current :: stack.enclosing

def cursor (stack : ScopeStack) : State :=
  stack.current.cursor

def setCursor (stack : ScopeStack) (state : State) : ScopeStack :=
  { stack with current := { stack.current with cursor := state } }

def modifyAutomaton (stack : ScopeStack) (change : Automaton → Automaton) : ScopeStack :=
  { stack with automaton := change stack.automaton }

def depth (stack : ScopeStack) : Nat :=
  stack.enclosing.length + 1

def owner (stack : ScopeStack) : Nat :=
  stack.current.owner

def currentAnchor (stack : ScopeStack) : Option State :=
  stack.frames.findSome? Frame.anchor?

def push (stack : ScopeStack) (frame : Frame) : ScopeStack :=
  { stack with current := frame, enclosing := stack.current :: stack.enclosing }

/-- Suspends the automaton under construction and starts to build `branch`. -/
def enterBranch (stack : ScopeStack) (anchor : State) (branch : Automaton) : ScopeStack :=
  let suspended := stack.automaton :: stack.suspended
  { stack with automaton := branch, suspended }.push
    (Frame.ofKind (.branch anchor) suspended.length branch.initial)

/-- Closes the current branch and resumes the enclosing automaton; gives the finished one. -/
def exitBranch (stack : ScopeStack) : Option (Automaton × ScopeStack) :=
  match stack.current.kind, stack.suspended, stack.enclosing with
  | .branch _, automaton :: suspended, current :: enclosing =>
      some (stack.automaton, { automaton, suspended, current, enclosing })
  | _, _, _ => none

def enterRecursion (stack : ScopeStack) (label : String) (start : State) : ScopeStack :=
  stack.push
    { Frame.ofKind (.recursion label) stack.owner start with
      recursions := [(label, ⟨start, true⟩)] }

/-- Closes the current recursion. The cursor carries over to the enclosing frame, and the labels
of the closed frame stay known there as inactive ones. -/
def exitRecursion (stack : ScopeStack) : Option (String × ScopeStack) :=
  match stack.current.kind, stack.enclosing with
  | .recursion label, frame :: enclosing =>
      some (label,
        { stack with
          current :=
            { frame with
              cursor := stack.current.cursor
              recursions := retire frame.recursions stack.current.recursions }
          enclosing })
  | _, _ => none

def lookupRecursion (stack : ScopeStack) (label : String) : Option RecursionEntry :=
  (stack.frames.takeWhile fun frame => frame.owner = stack.owner).findSome? (Frame.find? label)

/-- The state that a call of a label leads to, while the label is active. -/
def resolveRecursion (stack : ScopeStack) (label : String) : Option State :=
  match stack.lookupRecursion label with
  | some ⟨start, true⟩ => some start
  | _ => none

def pushChoice (stack : ScopeStack) (start : State) : ScopeStack :=
  { stack with
    current := { stack.current with choices := ⟨start, none⟩ :: stack.current.choices } }

def choice (stack : ScopeStack) : Option OpenChoice :=
  stack.current.choices.head?

def setChoiceExit (stack : ScopeStack) (exit : State) : ScopeStack :=
  match stack.current.choices with
  | [] => stack
  | choice :: rest =>
      { stack with
        current := { stack.current with choices := { choice with exit := some exit } :: rest } }

def popChoice (stack : ScopeStack) : ScopeStack :=
  { stack with current := { stack.current with choices := stack.current.choices.tail } }

/-- The outermost automaton; branches still open are dropped. -/
def root (stack : ScopeStack) : Automaton :=
  stack.suspended.getLast?.getD stack.automaton

end ScopeStack

end Conversation

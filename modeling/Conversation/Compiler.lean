import Conversation.Arena
import Conversation.Automaton.Query
import Conversation.BuildError
import Conversation.Encoding
import Conversation.LoopMode
import Conversation.Scope
import Conversation.Trace

/-!
The compiler of protocols. It walks the activity tree depth-first and emits states and
transitions into the automaton under construction, threading a cursor through each construct:

* an interaction adds one state and one message transition;
* the branches of a choice share the entry and converge on one exit by silent moves;
* the branches of a parallel region become automata of their own under the entry, which leads to
  a join by a silent move;
* a loop is compiled once; in mode `loop` it hangs off a fresh head, to which its end leads back;
* a call leads back to the start of its recursion, and what follows it hangs off a fresh state;
* the first message transition of the handler of an escape doubles as its interrupt.

The first error ends the compilation.
-/

namespace Conversation

/-- An interrupt that waits for the first message transition of its handler. -/
structure PendingInterrupt where
  anchor : State
  owner : Nat
  deriving DecidableEq, Repr, Inhabited

structure Build where
  recording : Bool
  arena : Arena
  scopes : ScopeStack
  pending : Option PendingInterrupt
  /-- The roles referenced so far, in the order of their first references. -/
  roles : List Role
  events : List Event
  deriving Inhabited

/-- An action of the compiler: it changes the state of the compilation or fails. -/
abbrev Builder := EStateM BuildError Build

namespace Build

def start (recording : Bool) : Build :=
  let (initial, arena) := Arena.empty.alloc none
  { recording, arena, scopes := ScopeStack.ofRoot (Automaton.single initial), pending := none,
    roles := [], events := [] }

def modifyScopes (build : Build) (change : ScopeStack → ScopeStack) : Build :=
  { build with scopes := change build.scopes }

def modifyAutomaton (build : Build) (change : Automaton → Automaton) : Build :=
  build.modifyScopes fun scopes => scopes.modifyAutomaton change

def record (build : Build) (event : Event) : Build :=
  if build.recording then { build with events := event :: build.events } else build

/-- Allocates a state in the arena only. -/
def alloc (build : Build) (anchor : Option State) : State × Build :=
  let (state, arena) := build.arena.alloc anchor
  (state, { build with arena })

def newState (build : Build) : State × Build :=
  let (state, build) := build.alloc build.scopes.currentAnchor
  (state, build.modifyAutomaton fun automaton => automaton.addState state)

def connect (build : Build) (transition : Transition) : Build :=
  (build.modifyAutomaton fun automaton => automaton.addTransition transition).record
    (.transitionAdded transition.source transition.label transition.target)

def markFinal (build : Build) (state : State) : Build :=
  (build.modifyAutomaton fun automaton => automaton.markFinal state).record (.finalMarked state)

def addRole (build : Build) (role : Role) : Build :=
  { build.modifyAutomaton fun automaton => automaton.addRole role with
    roles := appendNew build.roles role }

end Build

namespace Compiler

def cursor : Builder State := do
  return (← get).scopes.cursor

def setCursor (state : State) : Builder Unit :=
  modify fun build => build.modifyScopes fun scopes => scopes.setCursor state

def record (event : Event) : Builder Unit :=
  modify fun build => build.record event

def newState : Builder State :=
  modifyGet Build.newState

def markFinal (state : State) : Builder Unit :=
  modify fun build => build.markFinal state

def addRole (role : Role) : Builder Unit :=
  modify fun build => build.addRole role

def addRoles : List Role → Builder Unit
  | [] => pure ()
  | role :: rest => do
      addRole role
      addRoles rest

def requireNoInterrupt (anchor : State) : Builder Unit := do
  if ((← get).scopes.automaton.interruptAt anchor).isSome then
    throw (.interruptConflict anchor)

/-- Turns a message transition into the pending interrupt, if there is one that was armed in the
automaton under construction. -/
def registerInterrupt (transition : Transition) (message : Message) : Builder Unit := do
  let build ← get
  match build.pending with
  | some ⟨anchor, owner⟩ =>
      if owner = build.scopes.owner then
        set { build with pending := none }
        requireNoInterrupt anchor
        modify fun build =>
          (build.modifyAutomaton fun automaton => automaton.addInterrupt ⟨anchor, transition⟩).record
            (.interruptRegistered anchor message)
  | none => pure ()

def addTransition (transition : Transition) : Builder Unit := do
  match transition.label with
  | .message message => registerInterrupt transition message
  | _ => pure ()
  modify fun build => build.connect transition

def addSilent (source target : State) : Builder Unit :=
  addTransition (Transition.silent source target)

def requireNonempty {α : Type} (which : RequiredList) : List α → Builder Unit
  | [] => throw (.emptyList which)
  | _ :: _ => pure ()

def requireAllNonempty {α : Type} (which : RequiredList) : List (List α) → Builder Unit
  | [] => pure ()
  | list :: rest => do
      requireNonempty which list
      requireAllNonempty which rest

def firstRepeated : (seen : List DispatchKey) → List DispatchKey → Option DispatchKey
  | _, [] => none
  | seen, key :: rest => if key ∈ seen then some key else firstRepeated (key :: seen) rest

def requireDistinctKeys (branches : List DirectedBranch) : Builder Unit :=
  match firstRepeated [] (branches.map fun branch => branch.exchange.dispatchKey) with
  | some key => throw (.ambiguousKey key)
  | none => pure ()

def requireLeading : List Activity → Builder Unit
  | [] => pure ()
  | first :: _ =>
      match first.leadingInteraction with
      | .ok _ => pure ()
      | .error found => throw (.ambiguousHandler found)

def interaction (exchange : Interaction) : Builder Unit := do
  let source ← cursor
  let target ← newState
  addRole exchange.partner
  addTransition
    { source
      label := .message exchange.message
      target
      guard := exchange.assertion
      payload := if exchange.payload.isEmpty then none else some exchange.payload }
  setCursor target

def openChoice (branches : Nat) : Builder State := do
  let start ← cursor
  record (.choiceEntered start branches)
  modify fun build => build.modifyScopes fun scopes => scopes.pushChoice start
  return start

def enterChoiceBranch (index : Nat) (start : State) : Builder Unit := do
  setCursor start
  record (.choiceBranchEntered index start)

/-- The exit of the innermost choice; it is allocated when the first branch ends. -/
def choiceExit : Builder State := do
  match (← get).scopes.choice.bind OpenChoice.exit with
  | some exit => return exit
  | none =>
      let exit ← newState
      modify fun build => build.modifyScopes fun scopes => scopes.setChoiceExit exit
      return exit

def converge : Builder Unit := do
  let exit ← choiceExit
  addSilent (← cursor) exit

def closeChoice (start : State) : Builder Unit := do
  let exit := ((← get).scopes.choice.bind OpenChoice.exit).getD start
  modify fun build => build.modifyScopes fun scopes => scopes.popChoice.setCursor exit
  record (.choiceLeft exit)

def registerDispatch (state : State) (key : DispatchKey) : Builder Unit := do
  let target ← cursor
  modify fun build =>
    (build.modifyAutomaton fun automaton => automaton.addDispatch state ⟨key, target⟩).record
      (.dispatchRegistered state key target)

/-- Opens a parallel region at the cursor; gives the cursor and the join. -/
def openParallel (branches : Nat) : Builder (State × State) := do
  let anchor ← cursor
  let join ← newState
  record (.parallelEntered anchor join branches)
  return (anchor, join)

def enterParallelBranch (anchor : State) : Builder Unit := do
  let initial ← modifyGet fun build => build.alloc (some anchor)
  modify fun build => build.modifyScopes fun scopes =>
    scopes.enterBranch anchor (Automaton.single initial)

def leaveParallelBranch (index : Nat) (anchor : State) : Builder Unit := do
  let last ← cursor
  let done ← newState
  addTransition { source := last, label := .parallelEnd, target := done, guard := none,
                  payload := none }
  markFinal done
  match (← get).scopes.exitBranch with
  | some (branch, scopes) =>
      modify fun build =>
        ({ build with scopes }.modifyAutomaton fun automaton =>
          automaton.addBranch anchor branch).record
            (.parallelBranchLeft index anchor branch.states.length)
  | none => pure ()

def closeParallel (anchor join : State) : Builder Unit := do
  addSilent anchor join
  setCursor join
  record (.parallelLeft join)

/-- Opens a loop. The head must be a fresh state, because the state at the cursor may be shared
with sibling branches. -/
def openLoop (mode : LoopMode) : Builder State := do
  let entry ← cursor
  match mode with
  | .once =>
      record (.loopEntered entry)
      return entry
  | .loop =>
      let head ← newState
      addSilent entry head
      setCursor head
      record (.loopEntered head)
      return head

def closeLoop (mode : LoopMode) (head : State) : Builder Unit := do
  match mode with
  | .once => record (.loopLeft false)
  | .loop =>
      addSilent (← cursor) head
      record (.loopLeft true)

def openRecursion (label : String) : Builder Unit := do
  let start ← cursor
  modify fun build => build.modifyScopes fun scopes => scopes.enterRecursion label start
  record (.recursionEntered label start)

def closeRecursion (label : String) : Builder Unit := do
  match (← get).scopes.exitRecursion with
  | some (_, scopes) => modify fun build => { build with scopes }
  | none => pure ()
  record (.recursionLeft label)

/-- Compiles a call. It never falls through: what follows hangs off a state that nothing leads
to. -/
def call (label : String) : Builder Unit := do
  match (← get).scopes.resolveRecursion label with
  | none => throw (.undefinedLabel label)
  | some target =>
      addSilent (← cursor) target
      record (.recursionCalled label target)
      setCursor (← newState)

/-- Arms the interrupt of an escape at the cursor, which becomes final. -/
def armInterrupt (role : Role) : Builder Unit := do
  let anchor ← cursor
  markFinal anchor
  requireNoInterrupt anchor
  modify fun build =>
    { build with pending := some ⟨anchor, build.scopes.owner⟩ }.record (.interruptArmed anchor role)

def disarmInterrupt : Builder Unit :=
  modify fun build => { build with pending := none }

mutual

def activity (mode : LoopMode) : Activity → Builder Unit
  | .interaction exchange => interaction exchange
  | .choice branches => do
      requireNonempty .choice branches
      requireAllNonempty .choiceBranch branches
      let start ← openChoice branches.length
      choiceBranches mode start 0 branches
      closeChoice start
  | .directedChoice sender receivers branches => do
      requireNonempty .directedChoice branches
      requireDistinctKeys branches
      addRole sender
      addRoles receivers
      let start ← openChoice branches.length
      directedBranches mode start 0 branches
      closeChoice start
  | .parallel branches => do
      requireNonempty .parallel branches
      requireAllNonempty .parallelBranch branches
      let (anchor, join) ← openParallel branches.length
      parallelBranches mode anchor 0 branches
      closeParallel anchor join
  | .loop body => do
      requireNonempty .loopBody body
      let head ← openLoop mode
      activities mode body
      closeLoop mode head
  | .recursion label body => do
      requireNonempty .recursionBody body
      openRecursion label
      activities mode body
      closeRecursion label
  | .call label => call label
  | .escape body role handler => do
      requireNonempty .escapeBody body
      requireNonempty .handler handler
      requireLeading handler
      addRole role
      activities mode body
      armInterrupt role
      activities mode handler
      disarmInterrupt
  | .finish => do
      markFinal (← cursor)

def activities (mode : LoopMode) : List Activity → Builder Unit
  | [] => pure ()
  | first :: rest => do
      activity mode first
      activities mode rest

/-- Compiles the branches of a choice, the first of which has the given index. -/
def choiceBranches (mode : LoopMode) (start : State) :
    (index : Nat) → List (List Activity) → Builder Unit
  | _, [] => pure ()
  | index, branch :: rest => do
      enterChoiceBranch index start
      activities mode branch
      converge
      choiceBranches mode start (index + 1) rest

def directedBranches (mode : LoopMode) (start : State) :
    (index : Nat) → List DirectedBranch → Builder Unit
  | _, [] => pure ()
  | index, .mk exchange body :: rest => do
      enterChoiceBranch index start
      interaction exchange
      registerDispatch start exchange.dispatchKey
      activities mode body
      converge
      directedBranches mode start (index + 1) rest

def parallelBranches (mode : LoopMode) (anchor : State) :
    (index : Nat) → List (List Activity) → Builder Unit
  | _, [] => pure ()
  | index, branch :: rest => do
      enterParallelBranch anchor
      activities mode branch
      leaveParallelBranch index anchor
      parallelBranches mode anchor (index + 1) rest

end

def protocol (mode : LoopMode) (protocol : Protocol) : Builder Unit := do
  record (.protocolEntered protocol.name)
  requireNonempty .protocol protocol.activities
  addRoles (protocol.viewpoint.toList ++ protocol.roles)
  activities mode protocol.activities
  markFinal (← cursor)

end Compiler

/-- The automaton that a compilation has built, under the identity of its protocol. -/
def Build.finished (build : Build) (protocol : Protocol) : Automaton :=
  { build.scopes.root with
    name := some protocol.name
    checksum := some protocol.checksum
    roles := build.roles
    anchors := build.arena.anchors }

/-- Compiles a protocol, recording the steps or not. The steps are given also when it fails. -/
def Protocol.compileRecording (protocol : Protocol) (options : CompileOptions)
    (recording : Bool) : Except BuildError Automaton × List Event :=
  match (Compiler.protocol options.loops protocol).run (Build.start recording) with
  | .ok _ build =>
      let automaton := build.finished protocol
      let build := build.record
        (.protocolLeft automaton.totalStateCount automaton.transitions.length)
      (.ok automaton, build.events.reverse)
  | .error error build => (.error error, build.events.reverse)

def Protocol.compile (protocol : Protocol) (options : CompileOptions) :
    Except BuildError Automaton :=
  (protocol.compileRecording options false).1

def Protocol.compileTraced (protocol : Protocol) (options : CompileOptions) :
    Except BuildError Automaton × List Event :=
  protocol.compileRecording options true

end Conversation

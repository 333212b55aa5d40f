import Conversation.Proofs.CompilerActions
import Conversation.Proofs.Positions

/-!
The output of the compiler in closed form. What an activity adds to the automaton under construction
can be read off the activity, the position at which it stands and the states at which the enclosing
recursions start; nothing else about the state of the compilation matters.
-/

namespace Conversation

/-- What a part of a protocol adds to an automaton, field by field and in order. -/
structure Contribution where
  states : List State
  transitions : List Transition
  finals : List State
  roles : List Role
  /-- The automata of parallel branches, with the states that their regions hang off. -/
  branches : List (State × Automaton)
  interrupts : List Interrupt
  dispatch : List (State × DispatchEntry)

namespace Contribution

def empty : Contribution := ⟨[], [], [], [], [], [], []⟩

def append (first second : Contribution) : Contribution where
  states := first.states ++ second.states
  transitions := first.transitions ++ second.transitions
  finals := first.finals ++ second.finals
  roles := first.roles ++ second.roles
  branches := first.branches ++ second.branches
  interrupts := first.interrupts ++ second.interrupts
  dispatch := first.dispatch ++ second.dispatch

instance : Append Contribution := ⟨append⟩

def place (state : State) : Contribution := { empty with states := [state] }

def edge (transition : Transition) : Contribution := { empty with transitions := [transition] }

def mark (state : State) : Contribution := { empty with finals := [state] }

def name (roles : List Role) : Contribution := { empty with roles }

def branch (anchor : State) (automaton : Automaton) : Contribution :=
  { empty with branches := [(anchor, automaton)] }

/-- The transition becomes the interrupt that is due, if there is one. -/
def interrupt (due : Option State) (transition : Transition) : Contribution :=
  { empty with interrupts := due.toList.map fun anchor => ⟨anchor, transition⟩ }

def select (state : State) (entry : DispatchEntry) : Contribution :=
  { empty with dispatch := [(state, entry)] }

section Fields

variable (first second : Contribution)

@[simp] theorem states_append : (first ++ second).states = first.states ++ second.states := rfl

@[simp] theorem transitions_append :
    (first ++ second).transitions = first.transitions ++ second.transitions := rfl

@[simp] theorem finals_append : (first ++ second).finals = first.finals ++ second.finals := rfl

@[simp] theorem roles_append : (first ++ second).roles = first.roles ++ second.roles := rfl

@[simp] theorem branches_append :
    (first ++ second).branches = first.branches ++ second.branches := rfl

@[simp] theorem interrupts_append :
    (first ++ second).interrupts = first.interrupts ++ second.interrupts := rfl

@[simp] theorem dispatch_append :
    (first ++ second).dispatch = first.dispatch ++ second.dispatch := rfl

@[simp] theorem empty_append : empty ++ second = second := rfl

@[simp] theorem append_empty : first ++ empty = first := by
  change append first empty = first
  simp [append, empty]

theorem append_assoc (third : Contribution) :
    first ++ second ++ third = first ++ (second ++ third) := by
  change append (append first second) third = append first (append second third)
  simp [append]

end Fields

end Contribution

namespace Table

variable {α : Type}

def extend (table : Table (List α)) (entries : List (State × α)) : Table (List α) :=
  entries.foldl (fun table entry => append entry.1 entry.2 table) table

theorem extend_append (table : Table (List α)) (first second : List (State × α)) :
    extend table (first ++ second) = extend (extend table first) second :=
  List.foldl_append

theorem listAt_extend (state : State) (table : Table (List α)) (entries : List (State × α)) :
    listAt state (extend table entries) =
      listAt state table ++ (entries.filter fun entry => entry.1 = state).map Prod.snd := by
  induction entries generalizing table with
  | nil => simp [extend]
  | cons entry rest ih =>
      have hrest := ih (append entry.1 entry.2 table)
      rw [listAt_append] at hrest
      rw [extend, List.foldl_cons]
      refine hrest.trans ?_
      by_cases hstate : entry.1 = state
      · simp [hstate]
      · simp [hstate]

end Table

theorem mem_foldl_insert {state : State} {states : List State} {set : StateSet} :
    state ∈ states.foldl (fun set state => StateSet.insert state set) set ↔
      state ∈ set ∨ state ∈ states := by
  induction states generalizing set with
  | nil => simp
  | cons first rest ih =>
      rw [List.foldl_cons, ih, StateSet.mem_insert, List.mem_cons]
      tauto

namespace Automaton

/-- The automaton with what a part of a protocol adds to it. -/
def extend (automaton : Automaton) (contribution : Contribution) : Automaton :=
  { automaton with
    states := automaton.states ++ contribution.states
    transitions := automaton.transitions ++ contribution.transitions
    finals := contribution.finals.foldl (fun set state => StateSet.insert state set)
      automaton.finals
    roles := contribution.roles.foldl appendNew automaton.roles
    nested := Table.extend automaton.nested contribution.branches
    interrupts := automaton.interrupts ++ contribution.interrupts
    dispatch := Table.extend automaton.dispatch contribution.dispatch }

section Extend

variable (automaton : Automaton)

theorem extend_append (first second : Contribution) :
    automaton.extend (first ++ second) = (automaton.extend first).extend second := by
  simp [extend, Table.extend_append]

@[simp] theorem extend_empty : automaton.extend .empty = automaton := by
  cases automaton
  simp [extend, Contribution.empty, Table.extend]

theorem extend_place (state : State) :
    automaton.extend (.place state) = automaton.addState state := by
  simp [extend, Contribution.place, Contribution.empty, Table.extend, addState]

theorem extend_edge (transition : Transition) :
    automaton.extend (.edge transition) = automaton.addTransition transition := by
  simp [extend, Contribution.edge, Contribution.empty, Table.extend, addTransition]

theorem extend_mark (state : State) :
    automaton.extend (.mark state) = automaton.markFinal state := by
  simp [extend, Contribution.mark, Contribution.empty, Table.extend, markFinal]

theorem extend_name (roles : List Role) :
    automaton.extend (.name roles) = roles.foldl addRole automaton := by
  induction roles generalizing automaton with
  | nil => exact automaton.extend_empty
  | cons role rest ih =>
      rw [List.foldl_cons, ← ih]
      simp [extend, Contribution.name, Contribution.empty, Table.extend, addRole]

theorem extend_branch (anchor : State) (branch : Automaton) :
    automaton.extend (.branch anchor branch) = automaton.addBranch anchor branch := by
  simp [extend, Contribution.branch, Contribution.empty, Table.extend, addBranch]

theorem extend_interrupt_none (transition : Transition) :
    automaton.extend (.interrupt none transition) = automaton :=
  automaton.extend_empty

theorem extend_interrupt_some (anchor : State) (transition : Transition) :
    automaton.extend (.interrupt (some anchor) transition) =
      automaton.addInterrupt ⟨anchor, transition⟩ := by
  simp [extend, Contribution.interrupt, Contribution.empty, Table.extend, addInterrupt]

theorem extend_select (state : State) (entry : DispatchEntry) :
    automaton.extend (.select state entry) = automaton.addDispatch state entry := by
  simp [extend, Contribution.select, Contribution.empty, Table.extend, addDispatch]

end Extend

end Automaton

def Contribution.automaton (contribution : Contribution) (initial : State) (ended : Position) :
    Automaton :=
  ((Automaton.single initial).extend contribution).complete ended.cursor ended.next

mutual

/-- The roles that an activity refers to, in order; with those inside of parallel branches or
without. -/
def Activity.references (inner : Bool) : Activity → List Role
  | .interaction exchange => [exchange.partner]
  | .choice branches => referencesOfBranches inner branches
  | .directedChoice sender receivers branches =>
      sender :: receivers ++ referencesOfDirected inner branches
  | .parallel branches => if inner then referencesOfBranches inner branches else []
  | .loop body => referencesOf inner body
  | .recursion _ body => referencesOf inner body
  | .call _ => []
  | .escape body role handler => role :: referencesOf inner body ++ referencesOf inner handler
  | .finish => []

def referencesOf (inner : Bool) : List Activity → List Role
  | [] => []
  | first :: rest => first.references inner ++ referencesOf inner rest

def referencesOfBranches (inner : Bool) : List (List Activity) → List Role
  | [] => []
  | branch :: rest => referencesOf inner branch ++ referencesOfBranches inner rest

def referencesOfDirected (inner : Bool) : List DirectedBranch → List Role
  | [] => []
  | .mk exchange body :: rest =>
      exchange.partner :: referencesOf inner body ++ referencesOfDirected inner rest

end

def Interaction.contribution (exchange : Interaction) (due : Option State) (position : Position) :
    Contribution :=
  let transition := exchange.transition position.cursor position.next
  .place position.next ++ .name [exchange.partner] ++ .interrupt due transition ++ .edge transition

namespace Position

/-- A branch of a choice is joined to the exit, which is allocated when the first branch ends. -/
def joining (ended : Position) (exit : Option State) : Contribution :=
  exit.elim (.place ended.next) (fun _ => .empty) ++
    .edge (.silent ended.cursor (ended.exit exit))

def openingLoop (position : Position) : LoopMode → Contribution
  | .once => .empty
  | .loop => .place position.next ++ .edge (.silent position.cursor position.next)

def closingLoop (ended : Position) (head : State) : LoopMode → Contribution
  | .once => .empty
  | .loop => .edge (.silent ended.cursor head)

end Position

mutual

/-- What an activity adds to the automaton at a position. The anchor of an interrupt may be due,
which gets the first message transition. -/
def Activity.contribution (mode : LoopMode) (starts : Starts) :
    Activity → (due : Option State) → Position → Contribution
  | .interaction exchange, due, position => exchange.contribution due position
  | .choice branches, _, position => contributionOfChoices mode starts none branches position
  | .directedChoice sender receivers branches, _, position =>
      .name (sender :: receivers) ++ contributionOfDirected mode starts none branches position
  | .parallel branches, _, position =>
      .place position.next ++
        contributionOfRegions mode position.cursor branches (position.next + 1) ++
        .edge (.silent position.cursor position.next)
  | .loop body, due, position =>
      position.openingLoop mode ++
        contributionOf mode starts body due (position.enterLoop mode) ++
        (afterAll mode body (position.enterLoop mode)).closingLoop
          (position.enterLoop mode).cursor mode
  | .recursion label body, due, position =>
      contributionOf mode (starts.within label position.cursor) body due position
  | .call label, _, position =>
      .edge (.silent position.cursor ((starts label).getD position.cursor)) ++ .place position.next
  | .escape body role handler, _, position =>
      let anchored := afterAll mode body position
      .name [role] ++ contributionOf mode starts body none position ++ .mark anchored.cursor ++
        contributionOf mode starts handler (some anchored.cursor) anchored
  | .finish, _, position => .mark position.cursor

def contributionOf (mode : LoopMode) (starts : Starts) :
    List Activity → (due : Option State) → Position → Contribution
  | [], _, _ => .empty
  | first :: rest, due, position =>
      first.contribution mode starts due position ++
        contributionOf mode starts rest none (first.after mode position)

def contributionOfChoices (mode : LoopMode) (starts : Starts) :
    (exit : Option State) → List (List Activity) → Position → Contribution
  | _, [], _ => .empty
  | exit, branch :: rest, position =>
      let ended := afterAll mode branch position
      contributionOf mode starts branch none position ++ ended.joining exit ++
        contributionOfChoices mode starts (some (ended.exit exit)) rest
          (ended.resume exit position.cursor)

def contributionOfDirected (mode : LoopMode) (starts : Starts) :
    (exit : Option State) → List DirectedBranch → Position → Contribution
  | _, [], _ => .empty
  | exit, .mk exchange body :: rest, position =>
      let ended := afterAll mode body (.fresh position.next)
      exchange.contribution none position ++
        .select position.cursor ⟨exchange.dispatchKey, position.next⟩ ++
        contributionOf mode starts body none (.fresh position.next) ++ ended.joining exit ++
        contributionOfDirected mode starts (some (ended.exit exit)) rest
          (ended.resume exit position.cursor)

/-- The automata of parallel branches hang off the anchor; no recursion around the region can be
called inside of them. -/
def contributionOfRegions (mode : LoopMode) (anchor : State) :
    List (List Activity) → State → Contribution
  | [], _ => .empty
  | branch :: rest, next =>
      let ended := afterAll mode branch (.fresh next)
      .branch anchor
          ((contributionOf mode (fun _ => none) branch none (.fresh next)).automaton next ended) ++
        contributionOfRegions mode anchor rest (ended.next + 1)

end

def branchAutomaton (mode : LoopMode) (branch : List Activity) (initial : State) : Automaton :=
  (contributionOf mode (fun _ => none) branch none (.fresh initial)).automaton initial
    (afterAll mode branch (.fresh initial))

end Conversation

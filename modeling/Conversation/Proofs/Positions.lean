import Conversation.Proofs.LayoutOfRuns

namespace Conversation

/-- The next free state, and the state that the cursor is on. -/
structure Position where
  next : State
  cursor : State
  deriving DecidableEq

namespace Position

def fresh (state : State) : Position := ⟨state + 1, state⟩

def enterLoop (position : Position) : LoopMode → Position
  | .once => position
  | .loop => .fresh position.next

/-- The exit of a choice after one of its branches has ended. -/
def exit (ended : Position) (exit : Option State) : State :=
  exit.getD ended.next

/-- Where a choice goes on after one of its branches has ended. The first to end allocates the
exit. -/
def resume (ended : Position) (exit : Option State) (start : State) : Position where
  next := exit.elim (ended.next + 1) fun _ => ended.next
  cursor := start

end Position

mutual

def Activity.after (mode : LoopMode) : Activity → Position → Position
  | .interaction _, position => .fresh position.next
  | .choice branches, position => afterChoices mode none branches position
  | .directedChoice _ _ branches, position => afterDirected mode none branches position
  | .parallel branches, position =>
      ⟨afterRegions mode branches (position.next + 1), position.next⟩
  | .loop body, position => afterAll mode body (position.enterLoop mode)
  | .recursion _ body, position => afterAll mode body position
  | .call _, position => .fresh position.next
  | .escape body _ handler, position => afterAll mode handler (afterAll mode body position)
  | .finish, position => position

def afterAll (mode : LoopMode) : List Activity → Position → Position
  | [], position => position
  | first :: rest, position => afterAll mode rest (first.after mode position)

def afterChoices (mode : LoopMode) :
    (exit : Option State) → List (List Activity) → Position → Position
  | exit, [], position => ⟨position.next, exit.getD position.cursor⟩
  | exit, branch :: rest, position =>
      let ended := afterAll mode branch position
      afterChoices mode (some (ended.exit exit)) rest (ended.resume exit position.cursor)

def afterDirected (mode : LoopMode) :
    (exit : Option State) → List DirectedBranch → Position → Position
  | exit, [], position => ⟨position.next, exit.getD position.cursor⟩
  | exit, .mk _ body :: rest, position =>
      let ended := afterAll mode body (.fresh position.next)
      afterDirected mode (some (ended.exit exit)) rest (ended.resume exit position.cursor)

def afterRegions (mode : LoopMode) : List (List Activity) → State → State
  | [], next => next
  | branch :: rest, next => afterRegions mode rest ((afterAll mode branch (.fresh next)).next + 1)

end

theorem afterChoices_activities (mode : LoopMode) (exit : Option State)
    (branches : List DirectedBranch) (position : Position) :
    afterChoices mode exit (branches.map DirectedBranch.activities) position =
      afterDirected mode exit branches position := by
  induction branches generalizing exit position with
  | nil => rfl
  | cons branch rest ih =>
      obtain ⟨exchange, body⟩ := branch
      rw [List.map_cons, afterChoices, afterDirected, ih]
      rfl

theorem Position.next_le_enterLoop (position : Position) (mode : LoopMode) :
    position.next ≤ (position.enterLoop mode).next := by
  cases mode with
  | once => exact le_rfl
  | loop => exact Nat.le_succ _

theorem Position.next_le_resume (ended : Position) (exit : Option State) (start : State) :
    ended.next ≤ (ended.resume exit start).next := by
  cases exit with
  | none => exact Nat.le_succ _
  | some exit => exact le_rfl

mutual

theorem Activity.next_le_after (mode : LoopMode) : ∀ (one : Activity) (position : Position),
    position.next ≤ (one.after mode position).next
  | .interaction _, _ => Nat.le_succ _
  | .choice branches, position => next_le_afterChoices mode none branches position
  | .directedChoice _ _ branches, position => next_le_afterDirected mode none branches position
  | .parallel branches, position =>
      (Nat.le_succ _).trans (next_le_afterRegions mode branches (position.next + 1))
  | .loop body, position =>
      (position.next_le_enterLoop mode).trans (next_le_afterAll mode body _)
  | .recursion _ body, position => next_le_afterAll mode body position
  | .call _, _ => Nat.le_succ _
  | .escape body _ handler, position =>
      (next_le_afterAll mode body position).trans (next_le_afterAll mode handler _)
  | .finish, _ => le_rfl

theorem next_le_afterAll (mode : LoopMode) : ∀ (list : List Activity) (position : Position),
    position.next ≤ (afterAll mode list position).next
  | [], _ => le_rfl
  | first :: rest, position =>
      (first.next_le_after mode position).trans (next_le_afterAll mode rest _)

theorem next_le_afterChoices (mode : LoopMode) (exit : Option State) :
    ∀ (branches : List (List Activity)) (position : Position),
      position.next ≤ (afterChoices mode exit branches position).next
  | [], _ => le_rfl
  | branch :: rest, position =>
      ((next_le_afterAll mode branch position).trans (Position.next_le_resume _ exit _)).trans
        (next_le_afterChoices mode _ rest _)

theorem next_le_afterDirected (mode : LoopMode) (exit : Option State) :
    ∀ (branches : List DirectedBranch) (position : Position),
      position.next ≤ (afterDirected mode exit branches position).next
  | [], _ => le_rfl
  | .mk _ body :: rest, position =>
      (((Nat.le_succ _).trans (next_le_afterAll mode body (.fresh position.next))).trans
        (Position.next_le_resume _ exit _)).trans (next_le_afterDirected mode _ rest _)

theorem next_le_afterRegions (mode : LoopMode) :
    ∀ (branches : List (List Activity)) (next : State), next ≤ afterRegions mode branches next
  | [], _ => le_rfl
  | branch :: rest, next =>
      (((Nat.le_succ next).trans (next_le_afterAll mode branch (.fresh next))).trans
        (Nat.le_succ _)).trans (next_le_afterRegions mode rest _)

end

def leading? : List Activity → Option Interaction
  | [] => none
  | first :: _ => first.leadingInteraction.toOption

/-- An escape: the state where its body ends and its interrupt is armed, and the interaction that
its handler starts with. -/
structure Escape where
  anchor : State
  lead : Option Interaction

mutual

/-- The escapes of an activity, without those inside of parallel branches, in the order of the
leading interactions of their handlers. -/
def Activity.escapes (mode : LoopMode) : Activity → Position → List Escape
  | .interaction _, _ => []
  | .choice branches, position => escapesOfChoices mode none branches position
  | .directedChoice _ _ branches, position => escapesOfDirected mode none branches position
  | .parallel _, _ => []
  | .loop body, position => escapesOf mode body (position.enterLoop mode)
  | .recursion _ body, position => escapesOf mode body position
  | .call _, _ => []
  | .escape body _ handler, position =>
      let anchored := afterAll mode body position
      escapesOf mode body position ++
        ⟨anchored.cursor, leading? handler⟩ :: escapesOf mode handler anchored
  | .finish, _ => []

def escapesOf (mode : LoopMode) : List Activity → Position → List Escape
  | [], _ => []
  | first :: rest, position =>
      first.escapes mode position ++ escapesOf mode rest (first.after mode position)

def escapesOfChoices (mode : LoopMode) :
    (exit : Option State) → List (List Activity) → Position → List Escape
  | _, [], _ => []
  | exit, branch :: rest, position =>
      let ended := afterAll mode branch position
      escapesOf mode branch position ++
        escapesOfChoices mode (some (ended.exit exit)) rest (ended.resume exit position.cursor)

def escapesOfDirected (mode : LoopMode) :
    (exit : Option State) → List DirectedBranch → Position → List Escape
  | _, [], _ => []
  | exit, .mk _ body :: rest, position =>
      let ended := afterAll mode body (.fresh position.next)
      escapesOf mode body (.fresh position.next) ++
        escapesOfDirected mode (some (ended.exit exit)) rest (ended.resume exit position.cursor)

end

/-- A branch of a directed choice: the state that the choice is entered at, the exchange that
selects the branch and the state that it leads to. -/
structure Selection where
  state : State
  exchange : Interaction
  target : State

namespace Selection

def key (selection : Selection) : DispatchKey :=
  selection.exchange.dispatchKey

def entry (selection : Selection) : DispatchEntry :=
  ⟨selection.key, selection.target⟩

def transition (selection : Selection) : Transition :=
  selection.exchange.transition selection.state selection.target

end Selection

mutual

/-- The branches of the directed choices of an activity, without those inside of parallel
branches. -/
def Activity.selections (mode : LoopMode) : Activity → Position → List Selection
  | .interaction _, _ => []
  | .choice branches, position => selectionsOfChoices mode none branches position
  | .directedChoice _ _ branches, position => selectionsOfDirected mode none branches position
  | .parallel _, _ => []
  | .loop body, position => selectionsOf mode body (position.enterLoop mode)
  | .recursion _ body, position => selectionsOf mode body position
  | .call _, _ => []
  | .escape body _ handler, position =>
      selectionsOf mode body position ++ selectionsOf mode handler (afterAll mode body position)
  | .finish, _ => []

def selectionsOf (mode : LoopMode) : List Activity → Position → List Selection
  | [], _ => []
  | first :: rest, position =>
      first.selections mode position ++ selectionsOf mode rest (first.after mode position)

def selectionsOfChoices (mode : LoopMode) :
    (exit : Option State) → List (List Activity) → Position → List Selection
  | _, [], _ => []
  | exit, branch :: rest, position =>
      let ended := afterAll mode branch position
      selectionsOf mode branch position ++
        selectionsOfChoices mode (some (ended.exit exit)) rest (ended.resume exit position.cursor)

def selectionsOfDirected (mode : LoopMode) :
    (exit : Option State) → List DirectedBranch → Position → List Selection
  | _, [], _ => []
  | exit, .mk exchange body :: rest, position =>
      let ended := afterAll mode body (.fresh position.next)
      ⟨position.cursor, exchange, position.next⟩ ::
        selectionsOf mode body (.fresh position.next) ++
        selectionsOfDirected mode (some (ended.exit exit)) rest (ended.resume exit position.cursor)

end

def Part.after (mode : LoopMode) : Part → Position → Position
  | .activity one, position => one.after mode position
  | .activities list, position => afterAll mode list position
  | .choices exit branches, position => afterChoices mode exit branches position
  | .regions branches, position => ⟨afterRegions mode branches position.next, position.cursor⟩

theorem Lays.after_eq {mode : LoopMode} {starts : Starts} {rest checkpoint : Agenda} {part : Part}
    {next source next' target : State} {piece : Piece}
    (h : Lays mode starts rest checkpoint part next source piece next' target) :
    part.after mode ⟨next, source⟩ = ⟨next', target⟩ := by
  induction h with
  | nil => rfl
  | cons _ _ ih₁ ih₂ =>
      simp only [Part.after, afterAll] at ih₁ ih₂ ⊢
      rw [ih₁, ih₂]
  | interaction => rfl
  | choice _ ih => exact ih
  | directedChoice _ ih =>
      rw [Part.after, afterChoices_activities] at ih
      exact ih
  | choicesEnd => rfl
  | choicesFirst _ _ ih₁ ih₂ =>
      simp only [Part.after, afterChoices] at ih₁ ih₂ ⊢
      rw [ih₁]
      exact ih₂
  | choicesNext _ _ ih₁ ih₂ =>
      simp only [Part.after, afterChoices] at ih₁ ih₂ ⊢
      rw [ih₁]
      exact ih₂
  | parallel _ ih =>
      simp only [Part.after, Position.mk.injEq, and_true] at ih
      rw [Part.after, Activity.after, ih]
  | regionsEnd => rfl
  | regionsNext _ _ _ ih₁ ih₂ =>
      simp only [Part.after, afterRegions] at ih₁ ih₂ ⊢
      rw [Position.fresh, ih₁]
      exact ih₂
  | loopOnce hmode _ ih =>
      subst hmode
      exact ih
  | loop hmode _ ih =>
      subst hmode
      exact ih
  | recursion _ ih => exact ih
  | call _ => rfl
  | escape _ _ ih₁ ih₂ =>
      simp only [Part.after, Activity.after] at ih₁ ih₂ ⊢
      rw [ih₁, ih₂]
  | finish => rfl

end Conversation

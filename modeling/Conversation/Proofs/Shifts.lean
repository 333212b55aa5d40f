import Conversation.Proofs.Renaming

namespace Conversation

variable (distance : State)

namespace Position

def shift (position : Position) : Position :=
  ⟨position.next + distance, position.cursor + distance⟩

theorem shift_fresh (state : State) : (fresh state).shift distance = fresh (state + distance) := by
  rw [shift, fresh, fresh, Nat.add_right_comm]

variable (position : Position)

theorem shift_enterLoop (mode : LoopMode) :
    (position.shift distance).enterLoop mode = (position.enterLoop mode).shift distance := by
  cases mode with
  | once => rfl
  | loop => exact (shift_fresh distance position.next).symm

theorem shift_exit (exit : Option State) :
    (position.shift distance).exit (exit.map (· + distance)) = position.exit exit + distance := by
  cases exit <;> rfl

theorem shift_resume (exit : Option State) (start : State) :
    (position.shift distance).resume (exit.map (· + distance)) (start + distance) =
      (position.resume exit start).shift distance := by
  cases exit with
  | none => exact congrArg (Position.mk · _) (Nat.add_right_comm ..)
  | some exit => rfl

end Position

mutual

theorem Activity.shift_after (mode : LoopMode) : ∀ (one : Activity) (position : Position),
    one.after mode (position.shift distance) = (one.after mode position).shift distance
  | .interaction _, position => (Position.shift_fresh distance position.next).symm
  | .choice branches, position => shift_afterChoices mode none branches position
  | .directedChoice _ _ branches, position => shift_afterDirected mode none branches position
  | .parallel branches, position => by
      have hregions := shift_afterRegions mode branches (position.next + 1)
      rw [Nat.add_right_comm] at hregions
      rw [Activity.after, Position.shift, hregions]
      rfl
  | .loop body, position => by
      rw [Activity.after, Position.shift_enterLoop, shift_afterAll mode body]
      rfl
  | .recursion _ body, position => shift_afterAll mode body position
  | .call _, position => (Position.shift_fresh distance position.next).symm
  | .escape body _ handler, position => by
      rw [Activity.after, shift_afterAll mode body, shift_afterAll mode handler]
      rfl
  | .finish, _ => rfl

theorem shift_afterAll (mode : LoopMode) : ∀ (list : List Activity) (position : Position),
    afterAll mode list (position.shift distance) = (afterAll mode list position).shift distance
  | [], _ => rfl
  | first :: rest, position => by
      rw [afterAll, first.shift_after, shift_afterAll mode rest]
      rfl

theorem shift_afterChoices (mode : LoopMode) : ∀ (exit : Option State)
    (branches : List (List Activity)) (position : Position),
      afterChoices mode (exit.map (· + distance)) branches (position.shift distance) =
        (afterChoices mode exit branches position).shift distance
  | exit, [], position => by cases exit <;> rfl
  | exit, branch :: rest, position => by
      have hrest := shift_afterChoices mode (some ((afterAll mode branch position).exit exit)) rest
        ((afterAll mode branch position).resume exit position.cursor)
      rw [← Position.shift_resume, Option.map_some, ← Position.shift_exit,
        ← shift_afterAll mode branch] at hrest
      exact hrest

theorem shift_afterDirected (mode : LoopMode) : ∀ (exit : Option State)
    (branches : List DirectedBranch) (position : Position),
      afterDirected mode (exit.map (· + distance)) branches (position.shift distance) =
        (afterDirected mode exit branches position).shift distance
  | exit, [], position => by cases exit <;> rfl
  | exit, .mk exchange body :: rest, position => by
      have hrest := shift_afterDirected mode
        (some ((afterAll mode body (.fresh position.next)).exit exit)) rest
        ((afterAll mode body (.fresh position.next)).resume exit position.cursor)
      rw [← Position.shift_resume, Option.map_some, ← Position.shift_exit,
        ← shift_afterAll mode body, Position.shift_fresh] at hrest
      exact hrest

theorem shift_afterRegions (mode : LoopMode) : ∀ (branches : List (List Activity)) (next : State),
    afterRegions mode branches (next + distance) = afterRegions mode branches next + distance
  | [], _ => rfl
  | branch :: rest, next => by
      have hrest := shift_afterRegions mode rest ((afterAll mode branch (.fresh next)).next + 1)
      rw [Nat.add_right_comm] at hrest
      rw [afterRegions, ← Position.shift_fresh, shift_afterAll mode branch]
      exact hrest

end

def Starts.shift (starts : Starts) : Starts :=
  fun label => (starts label).map (· + distance)

theorem Starts.shift_within (starts : Starts) (label : String) (start : State) :
    (starts.within label start).shift distance =
      (starts.shift distance).within label (start + distance) := by
  funext asked
  rw [shift, within, within, shift]
  split_ifs <;> rfl

theorem strictMono_shift : StrictMono fun state : State => state + distance :=
  fun _ _ hlt => Nat.add_lt_add_right hlt distance

theorem Interaction.shift_contribution (exchange : Interaction) (due : Option State)
    (position : Position) :
    exchange.contribution (due.map (· + distance)) (position.shift distance) =
      (exchange.contribution due position).rename (· + distance) :=
  exchange.rename_contribution due rfl rfl

namespace Position

variable (position : Position)

theorem shift_joining (exit : Option State) :
    (position.shift distance).joining (exit.map (· + distance)) =
      (position.joining exit).rename (· + distance) :=
  rename_joining rfl (position.shift_exit distance exit).symm

theorem shift_openingLoop (mode : LoopMode) :
    (position.shift distance).openingLoop mode =
      (position.openingLoop mode).rename (· + distance) := by
  cases mode <;> rfl

theorem shift_closingLoop (head : State) (mode : LoopMode) :
    (position.shift distance).closingLoop (head + distance) mode =
      (position.closingLoop head mode).rename (· + distance) := by
  cases mode <;> rfl

end Position

theorem Contribution.rename_automaton {f : State → State} (hf : StrictMono f)
    (contribution : Contribution) (initial : State) (ended : Position) :
    (contribution.automaton initial ended).rename f =
      ((Automaton.single (f initial)).extend (contribution.rename f)).complete (f ended.cursor)
        (f ended.next) := by
  rw [automaton, Automaton.rename_complete hf, Automaton.rename_extend hf, Automaton.rename_single]

mutual

theorem Activity.shift_contribution (mode : LoopMode) :
    ∀ (starts : Starts) (one : Activity) (due : Option State) (position : Position),
      one.contribution mode (starts.shift distance) (due.map (· + distance))
          (position.shift distance) =
        (one.contribution mode starts due position).rename (· + distance)
  | _, .interaction exchange, due, position => exchange.shift_contribution distance due position
  | starts, .choice branches, _, position =>
      shift_contributionOfChoices mode starts none branches position
  | starts, .directedChoice sender receivers branches, _, position => by
      rw [Activity.contribution, Activity.contribution, Contribution.rename_append,
        ← shift_contributionOfDirected mode starts none branches position]
      rfl
  | starts, .parallel branches, _, position => by
      have hregions := shift_contributionOfRegions mode position.cursor branches (position.next + 1)
      rw [Nat.add_right_comm] at hregions
      rw [Activity.contribution, Activity.contribution, Contribution.rename_append,
        Contribution.rename_append, ← hregions]
      rfl
  | starts, .loop body, due, position => by
      rw [Activity.contribution, Activity.contribution, Contribution.rename_append,
        Contribution.rename_append, ← shift_contributionOf mode starts body due,
        ← Position.shift_openingLoop, ← Position.shift_closingLoop, Position.shift_enterLoop,
        shift_afterAll]
      rfl
  | starts, .recursion label body, due, position => by
      have hbody :=
        shift_contributionOf mode (starts.within label position.cursor) body due position
      rw [Starts.shift_within] at hbody
      exact hbody
  | starts, .call label, _, position => by
      rw [Activity.contribution, Activity.contribution, Contribution.rename_append, Starts.shift]
      cases starts label <;> rfl
  | starts, .escape body role handler, _, position => by
      have hhandler := shift_contributionOf mode starts handler
        (some (afterAll mode body position).cursor) (afterAll mode body position)
      rw [Activity.contribution, Activity.contribution, shift_afterAll, Contribution.rename_append,
        Contribution.rename_append, Contribution.rename_append, ← hhandler,
        ← shift_contributionOf mode starts body none]
      rfl
  | _, .finish, _, _ => rfl

theorem shift_contributionOf (mode : LoopMode) :
    ∀ (starts : Starts) (list : List Activity) (due : Option State) (position : Position),
      contributionOf mode (starts.shift distance) list (due.map (· + distance))
          (position.shift distance) =
        (contributionOf mode starts list due position).rename (· + distance)
  | _, [], _, _ => rfl
  | starts, first :: rest, due, position => by
      rw [contributionOf, contributionOf, Contribution.rename_append, first.shift_contribution,
        ← shift_contributionOf mode starts rest none, first.shift_after]
      rfl

theorem shift_contributionOfChoices (mode : LoopMode) :
    ∀ (starts : Starts) (exit : Option State) (branches : List (List Activity))
      (position : Position),
      contributionOfChoices mode (starts.shift distance) (exit.map (· + distance)) branches
          (position.shift distance) =
        (contributionOfChoices mode starts exit branches position).rename (· + distance)
  | _, _, [], _ => rfl
  | starts, exit, branch :: rest, position => by
      have hrest := shift_contributionOfChoices mode starts
        (some ((afterAll mode branch position).exit exit)) rest
        ((afterAll mode branch position).resume exit position.cursor)
      rw [← Position.shift_resume, Option.map_some, ← Position.shift_exit] at hrest
      rw [contributionOfChoices, contributionOfChoices, Contribution.rename_append,
        Contribution.rename_append, ← hrest, ← Position.shift_joining,
        ← shift_contributionOf mode starts branch none, shift_afterAll]
      rfl

theorem shift_contributionOfDirected (mode : LoopMode) :
    ∀ (starts : Starts) (exit : Option State) (branches : List DirectedBranch)
      (position : Position),
      contributionOfDirected mode (starts.shift distance) (exit.map (· + distance)) branches
          (position.shift distance) =
        (contributionOfDirected mode starts exit branches position).rename (· + distance)
  | _, _, [], _ => rfl
  | starts, exit, .mk exchange body :: rest, position => by
      have hrest := shift_contributionOfDirected mode starts
        (some ((afterAll mode body (.fresh position.next)).exit exit)) rest
        ((afterAll mode body (.fresh position.next)).resume exit position.cursor)
      rw [← Position.shift_resume, Option.map_some, ← Position.shift_exit] at hrest
      have hnext : (position.shift distance).next = position.next + distance := rfl
      rw [contributionOfDirected, contributionOfDirected]
      simp only [Contribution.rename_append, ← hrest, ← Position.shift_joining,
        ← shift_contributionOf mode starts body none, ← exchange.shift_contribution, hnext,
        ← Position.shift_fresh, shift_afterAll]
      rfl

theorem shift_contributionOfRegions (mode : LoopMode) (anchor : State) :
    ∀ (branches : List (List Activity)) (next : State),
      contributionOfRegions mode (anchor + distance) branches (next + distance) =
        (contributionOfRegions mode anchor branches next).rename (· + distance)
  | [], _ => rfl
  | branch :: rest, next => by
      have hrest := shift_contributionOfRegions mode anchor rest
        ((afterAll mode branch (.fresh next)).next + 1)
      rw [Nat.add_right_comm] at hrest
      have hbranch := shift_contributionOf mode (fun _ => none) branch none (.fresh next)
      rw [contributionOfRegions, contributionOfRegions, Contribution.rename_append, ← hrest,
        Contribution.rename_branch, Contribution.rename_automaton (strictMono_shift distance),
        ← hbranch, ← Position.shift_fresh, shift_afterAll]
      rfl

end

end Conversation

import Conversation.Proofs.ContributionsOfRuns
import Mathlib.Data.List.Dedup

/-!
Parallel regions and the states that they hang off. Every region is joined by one silent transition,
and its branches are registered in order under the state that it is entered at. Several regions can
be entered at one state, and then their branches can no longer be told apart; so the regions that an
automaton counts are the states at which some region is entered.
-/

namespace Conversation

/-- A parallel region: the state that it is entered at, the state that it is left at, which is
allocated before its branches, and the branches. -/
structure Region where
  anchor : State
  join : State
  branches : List (List Activity)

/-- The automata of parallel branches, of which the first starts at a state. -/
def branchAutomata (mode : LoopMode) : List (List Activity) → State → List Automaton
  | [], _ => []
  | branch :: rest, next =>
      branchAutomaton mode branch next ::
        branchAutomata mode rest ((afterAll mode branch (.fresh next)).next + 1)

def Region.automata (mode : LoopMode) (region : Region) : List Automaton :=
  branchAutomata mode region.branches (region.join + 1)

theorem Region.length_automata (mode : LoopMode) (region : Region) :
    region.branches.length = (region.automata mode).length := by
  rw [automata]
  generalize region.join + 1 = next
  induction region.branches generalizing next with
  | nil => rfl
  | cons branch rest ih => rw [branchAutomata, List.length_cons, List.length_cons, ih]

mutual

/-- The parallel regions of an activity, with those inside of parallel branches or without. -/
def Activity.regions (mode : LoopMode) (inner : Bool) : Activity → Position → List Region
  | .interaction _, _ => []
  | .choice branches, position => regionsOfChoices mode inner none branches position
  | .directedChoice _ _ branches, position => regionsOfDirected mode inner none branches position
  | .parallel branches, position =>
      ⟨position.cursor, position.next, branches⟩ ::
        if inner then regionsWithin mode branches (position.next + 1) else []
  | .loop body, position => regionsOf mode inner body (position.enterLoop mode)
  | .recursion _ body, position => regionsOf mode inner body position
  | .call _, _ => []
  | .escape body _ handler, position =>
      regionsOf mode inner body position ++
        regionsOf mode inner handler (afterAll mode body position)
  | .finish, _ => []

def regionsOf (mode : LoopMode) (inner : Bool) : List Activity → Position → List Region
  | [], _ => []
  | first :: rest, position =>
      first.regions mode inner position ++ regionsOf mode inner rest (first.after mode position)

def regionsOfChoices (mode : LoopMode) (inner : Bool) :
    (exit : Option State) → List (List Activity) → Position → List Region
  | _, [], _ => []
  | exit, branch :: rest, position =>
      let ended := afterAll mode branch position
      regionsOf mode inner branch position ++
        regionsOfChoices mode inner (some (ended.exit exit)) rest
          (ended.resume exit position.cursor)

def regionsOfDirected (mode : LoopMode) (inner : Bool) :
    (exit : Option State) → List DirectedBranch → Position → List Region
  | _, [], _ => []
  | exit, .mk _ body :: rest, position =>
      let ended := afterAll mode body (.fresh position.next)
      regionsOf mode inner body (.fresh position.next) ++
        regionsOfDirected mode inner (some (ended.exit exit)) rest
          (ended.resume exit position.cursor)

/-- The regions inside of parallel branches, of which the first starts at a state. -/
def regionsWithin (mode : LoopMode) : List (List Activity) → State → List Region
  | [], _ => []
  | branch :: rest, next =>
      regionsOf mode true branch (.fresh next) ++
        regionsWithin mode rest ((afterAll mode branch (.fresh next)).next + 1)

end

/-- The automata of a region with the state that they are registered under. -/
def Region.rows (mode : LoopMode) (region : Region) : List (State × Automaton) :=
  (region.automata mode).map fun automaton => (region.anchor, automaton)

theorem contributionOfRegions_eq (mode : LoopMode) (anchor : State)
    (branches : List (List Activity)) (next : State) :
    contributionOfRegions mode anchor branches next =
      { Contribution.empty with
        branches := (branchAutomata mode branches next).map fun automaton =>
          (anchor, automaton) } := by
  induction branches generalizing next with
  | nil => rfl
  | cons branch rest ih => rw [contributionOfRegions, ih]; rfl

mutual

theorem Activity.contribution_branches (mode : LoopMode) :
    ∀ (starts : Starts) (one : Activity) (due : Option State) (position : Position),
      (one.contribution mode starts due position).branches =
        (one.regions mode false position).flatMap (Region.rows mode)
  | _, .interaction _, _, _ => rfl
  | starts, .choice branches, _, position =>
      contributionOfChoices_branches mode starts none branches position
  | starts, .directedChoice _ _ branches, _, position =>
      contributionOfDirected_branches mode starts none branches position
  | _, .parallel branches, _, position => by
      rw [Activity.contribution, contributionOfRegions_eq, Activity.regions, if_neg (by simp),
        List.flatMap_singleton]
      exact List.append_nil _
  | starts, .loop body, due, position => by
      have hbody := contributionOf_branches mode starts body due (position.enterLoop mode)
      rw [Activity.contribution, Activity.regions, ← hbody]
      cases mode with
      | once => exact List.append_nil _
      | loop => exact List.append_nil _
  | starts, .recursion label body, due, position =>
      contributionOf_branches mode (starts.within label position.cursor) body due position
  | _, .call _, _, _ => rfl
  | starts, .escape body _ handler, _, position => by
      rw [Activity.regions, List.flatMap_append,
        ← contributionOf_branches mode starts body none position,
        ← contributionOf_branches mode starts handler
          (some (afterAll mode body position).cursor) (afterAll mode body position)]
      simp [Activity.contribution, Contribution.name, Contribution.mark, Contribution.empty]
  | _, .finish, _, _ => rfl

theorem contributionOf_branches (mode : LoopMode) :
    ∀ (starts : Starts) (list : List Activity) (due : Option State) (position : Position),
      (contributionOf mode starts list due position).branches =
        (regionsOf mode false list position).flatMap (Region.rows mode)
  | _, [], _, _ => rfl
  | starts, first :: rest, due, position => by
      rw [contributionOf, Contribution.branches_append, regionsOf, List.flatMap_append,
        first.contribution_branches, contributionOf_branches mode starts rest]

theorem contributionOfChoices_branches (mode : LoopMode) :
    ∀ (starts : Starts) (exit : Option State) (branches : List (List Activity))
      (position : Position), (contributionOfChoices mode starts exit branches position).branches =
        (regionsOfChoices mode false exit branches position).flatMap (Region.rows mode)
  | _, _, [], _ => rfl
  | starts, exit, branch :: rest, position => by
      rw [contributionOfChoices, regionsOfChoices, List.flatMap_append,
        Contribution.branches_append, Contribution.branches_append,
        contributionOf_branches mode starts branch,
        contributionOfChoices_branches mode starts _ rest]
      cases exit <;> simp [Position.joining, Contribution.place, Contribution.edge,
        Contribution.empty]

theorem contributionOfDirected_branches (mode : LoopMode) :
    ∀ (starts : Starts) (exit : Option State) (branches : List DirectedBranch)
      (position : Position), (contributionOfDirected mode starts exit branches position).branches =
        (regionsOfDirected mode false exit branches position).flatMap (Region.rows mode)
  | _, _, [], _ => rfl
  | starts, exit, .mk exchange body :: rest, position => by
      rw [contributionOfDirected, regionsOfDirected, List.flatMap_append]
      simp only [Contribution.branches_append, contributionOf_branches mode starts body,
        contributionOfDirected_branches mode starts _ rest]
      cases exit <;> simp [Interaction.contribution, Position.joining, Contribution.place,
        Contribution.edge, Contribution.empty, Contribution.name, Contribution.interrupt,
        Contribution.select]

end

mutual

theorem Activity.flatMap_regions (mode : LoopMode) :
    ∀ (one : Activity) (position : Position),
      (one.regions mode false position).flatMap Region.branches = one.parallelBranches
  | .interaction _, _ => rfl
  | .choice branches, position => flatMap_regionsOfChoices mode none branches position
  | .directedChoice _ _ branches, position => flatMap_regionsOfDirected mode none branches position
  | .parallel branches, _ => List.append_nil branches
  | .loop body, position => flatMap_regionsOf mode body _
  | .recursion _ body, position => flatMap_regionsOf mode body position
  | .call _, _ => rfl
  | .escape body _ handler, position => by
      rw [Activity.regions, List.flatMap_append, flatMap_regionsOf mode body,
        flatMap_regionsOf mode handler]
      rfl
  | .finish, _ => rfl

/-- The regions have the parallel branches, in the same order. -/
theorem flatMap_regionsOf (mode : LoopMode) :
    ∀ (list : List Activity) (position : Position),
      (regionsOf mode false list position).flatMap Region.branches = parallelBranchesOf list
  | [], _ => rfl
  | first :: rest, position => by
      rw [regionsOf, List.flatMap_append, first.flatMap_regions, flatMap_regionsOf mode rest]
      rfl

theorem flatMap_regionsOfChoices (mode : LoopMode) (exit : Option State) :
    ∀ (branches : List (List Activity)) (position : Position),
      (regionsOfChoices mode false exit branches position).flatMap Region.branches =
        parallelBranchesOfAll branches
  | [], _ => rfl
  | branch :: rest, position => by
      rw [regionsOfChoices, List.flatMap_append, flatMap_regionsOf mode branch,
        flatMap_regionsOfChoices mode _ rest]
      rfl

theorem flatMap_regionsOfDirected (mode : LoopMode) (exit : Option State) :
    ∀ (branches : List DirectedBranch) (position : Position),
      (regionsOfDirected mode false exit branches position).flatMap Region.branches =
        parallelBranchesOfDirected branches
  | [], _ => rfl
  | .mk _ body :: rest, position => by
      rw [regionsOfDirected, List.flatMap_append, flatMap_regionsOf mode body,
        flatMap_regionsOfDirected mode _ rest]
      rfl

end

structure Ascending (states : List State) (next next' : State) : Prop where
  ascending : states.Pairwise (· < ·)
  mem_range : ∀ state ∈ states, next ≤ state ∧ state < next'

namespace Ascending

variable {first second : List State} {next middle next' : State}

theorem nil (next next' : State) : Ascending [] next next' := ⟨.nil, by simp⟩

theorem append (h₁ : Ascending first next middle) (h₂ : Ascending second middle next')
    (hle : next ≤ middle) (hle' : middle ≤ next') : Ascending (first ++ second) next next' where
  ascending := List.pairwise_append.mpr ⟨h₁.ascending, h₂.ascending, fun _ hstate _ hother =>
    (h₁.mem_range _ hstate).2.trans_le (h₂.mem_range _ hother).1⟩
  mem_range := by
    intro state hstate
    rcases List.mem_append.mp hstate with hstate | hstate
    · exact ⟨(h₁.mem_range state hstate).1, (h₁.mem_range state hstate).2.trans_le hle'⟩
    · exact ⟨hle.trans (h₂.mem_range state hstate).1, (h₂.mem_range state hstate).2⟩

theorem weaken (h : Ascending first middle next') (hle : next ≤ middle) :
    Ascending first next next' :=
  ⟨h.ascending, fun state hstate =>
    ⟨hle.trans (h.mem_range state hstate).1, (h.mem_range state hstate).2⟩⟩

theorem cons (h : Ascending first (next + 1) next') (hlt : next < next') :
    Ascending (next :: first) next next' where
  ascending :=
    List.pairwise_cons.mpr ⟨fun state hstate => (h.mem_range state hstate).1, h.ascending⟩
  mem_range := by
    intro state hstate
    rcases List.mem_cons.mp hstate with rfl | hstate
    · exact ⟨le_rfl, hlt⟩
    · exact ⟨(Nat.le_succ _).trans (h.mem_range state hstate).1, (h.mem_range state hstate).2⟩

end Ascending

/-- The join of a region and the states at which its branches start. -/
def Region.allocated (mode : LoopMode) (region : Region) : List State :=
  region.join :: (region.automata mode).map Automaton.initial

theorem branchAutomata_ascending (mode : LoopMode) (branches : List (List Activity))
    (next : State) : Ascending ((branchAutomata mode branches next).map Automaton.initial) next
      (afterRegions mode branches next) := by
  induction branches generalizing next with
  | nil => exact .nil _ _
  | cons branch rest ih =>
      have hbranch := next_le_afterAll mode branch (.fresh next)
      have hrest := next_le_afterRegions mode rest ((afterAll mode branch (.fresh next)).next + 1)
      exact ((ih _).weaken (hbranch.trans (Nat.le_succ _))).cons
        ((Nat.lt_of_lt_of_le (Nat.lt_succ_self _) hbranch).trans hrest)

mutual

theorem Activity.regions_ascending (mode : LoopMode) : ∀ (one : Activity) (position : Position),
    Ascending ((one.regions mode false position).flatMap (Region.allocated mode)) position.next
      (one.after mode position).next
  | .interaction _, _ => .nil _ _
  | .choice branches, position => regionsOfChoices_ascending mode none branches position
  | .directedChoice _ _ branches, position =>
      regionsOfDirected_ascending mode none branches position
  | .parallel branches, position => by
      have hle := next_le_afterRegions mode branches (position.next + 1)
      have hall := (branchAutomata_ascending mode branches (position.next + 1)).cons hle
      rwa [Activity.regions, if_neg (by simp), List.flatMap_singleton]
  | .loop body, position =>
      (regionsOf_ascending mode body _).weaken (position.next_le_enterLoop mode)
  | .recursion _ body, position => regionsOf_ascending mode body position
  | .call _, _ => .nil _ _
  | .escape body _ handler, position => by
      rw [Activity.regions, List.flatMap_append]
      exact (regionsOf_ascending mode body position).append (regionsOf_ascending mode handler _)
        (next_le_afterAll mode body position) (next_le_afterAll mode handler _)
  | .finish, _ => .nil _ _

theorem regionsOf_ascending (mode : LoopMode) : ∀ (list : List Activity) (position : Position),
    Ascending ((regionsOf mode false list position).flatMap (Region.allocated mode)) position.next
      (afterAll mode list position).next
  | [], _ => .nil _ _
  | first :: rest, position => by
      rw [regionsOf, List.flatMap_append]
      exact (first.regions_ascending mode position).append (regionsOf_ascending mode rest _)
        (first.next_le_after mode position) (next_le_afterAll mode rest _)

theorem regionsOfChoices_ascending (mode : LoopMode) (exit : Option State) :
    ∀ (branches : List (List Activity)) (position : Position),
      Ascending ((regionsOfChoices mode false exit branches position).flatMap
        (Region.allocated mode)) position.next (afterChoices mode exit branches position).next
  | [], _ => .nil _ _
  | branch :: rest, position => by
      have hresume := Position.next_le_resume (afterAll mode branch position) exit position.cursor
      have hrest := regionsOfChoices_ascending mode
        (some ((afterAll mode branch position).exit exit)) rest
        ((afterAll mode branch position).resume exit position.cursor)
      rw [regionsOfChoices, List.flatMap_append]
      exact (regionsOf_ascending mode branch position).append (hrest.weaken hresume)
        (next_le_afterAll mode branch position)
        (hresume.trans (next_le_afterChoices mode _ rest _))

theorem regionsOfDirected_ascending (mode : LoopMode) (exit : Option State) :
    ∀ (branches : List DirectedBranch) (position : Position),
      Ascending ((regionsOfDirected mode false exit branches position).flatMap
        (Region.allocated mode)) position.next (afterDirected mode exit branches position).next
  | [], _ => .nil _ _
  | .mk _ body :: rest, position => by
      have hbody := next_le_afterAll mode body (.fresh position.next)
      have hresume :=
        Position.next_le_resume (afterAll mode body (.fresh position.next)) exit position.cursor
      have hrest := regionsOfDirected_ascending mode
        (some ((afterAll mode body (.fresh position.next)).exit exit)) rest
        ((afterAll mode body (.fresh position.next)).resume exit position.cursor)
      rw [regionsOfDirected, List.flatMap_append]
      exact ((regionsOf_ascending mode body _).weaken (Nat.le_succ _)).append
        (hrest.weaken hresume) ((Nat.le_succ _).trans hbody)
        (hresume.trans (next_le_afterDirected mode _ rest _))

end

/-- The automata of parallel branches in the order of the protocol. -/
def automataOf (mode : LoopMode) (list : List Activity) (position : Position) : List Automaton :=
  (regionsOf mode false list position).flatMap (Region.automata mode)

theorem automataOf_ascending (mode : LoopMode) (list : List Activity) (position : Position) :
    (automataOf mode list position).Pairwise
      fun first second => first.initial < second.initial := by
  have hsub : ((regionsOf mode false list position).flatMap fun region =>
      (region.automata mode).map Automaton.initial).Sublist
        ((regionsOf mode false list position).flatMap (Region.allocated mode)) := by
    induction regionsOf mode false list position with
    | nil => exact .slnil
    | cons region rest ih => exact (List.sublist_cons_self _ _).append ih
  have hascending := (regionsOf_ascending mode list position).ascending.sublist hsub
  rwa [← List.map_flatMap, List.pairwise_map] at hascending

theorem map_snd_rows (mode : LoopMode) (regions : List Region) :
    (regions.flatMap (Region.rows mode)).map Prod.snd = regions.flatMap (Region.automata mode) := by
  simp [List.map_flatMap, Region.rows, Function.comp_def]

mutual

theorem Activity.sizeOf_lt_of_mem_parallelBranches : ∀ (one : Activity),
    ∀ branch ∈ one.parallelBranches, sizeOf branch < sizeOf one
  | .interaction _, _, h => absurd h List.not_mem_nil
  | .choice branches, branch, h => by
      have := sizeOf_lt_of_mem_parallelBranchesOfAll branches branch h
      simp only [Activity.choice.sizeOf_spec]
      omega
  | .directedChoice _ _ branches, branch, h => by
      have := sizeOf_lt_of_mem_parallelBranchesOfDirected branches branch h
      simp only [Activity.directedChoice.sizeOf_spec]
      omega
  | .parallel branches, branch, h => by
      have : sizeOf branch < sizeOf branches := List.sizeOf_lt_of_mem h
      simp only [Activity.parallel.sizeOf_spec]
      omega
  | .loop body, branch, h => by
      have := sizeOf_lt_of_mem_parallelBranchesOf body branch h
      simp only [Activity.loop.sizeOf_spec]
      omega
  | .recursion _ body, branch, h => by
      have := sizeOf_lt_of_mem_parallelBranchesOf body branch h
      simp only [Activity.recursion.sizeOf_spec]
      omega
  | .call _, _, h => absurd h List.not_mem_nil
  | .escape body _ handler, branch, h => by
      simp only [Activity.escape.sizeOf_spec]
      rcases List.mem_append.mp h with h | h
      · have := sizeOf_lt_of_mem_parallelBranchesOf body branch h
        omega
      · have := sizeOf_lt_of_mem_parallelBranchesOf handler branch h
        omega
  | .finish, _, h => absurd h List.not_mem_nil

theorem sizeOf_lt_of_mem_parallelBranchesOf : ∀ (list : List Activity),
    ∀ branch ∈ parallelBranchesOf list, sizeOf branch < sizeOf list
  | [], _, h => absurd h List.not_mem_nil
  | first :: rest, branch, h => by
      simp only [List.cons.sizeOf_spec]
      rcases List.mem_append.mp h with h | h
      · have := first.sizeOf_lt_of_mem_parallelBranches branch h
        omega
      · have := sizeOf_lt_of_mem_parallelBranchesOf rest branch h
        omega

theorem sizeOf_lt_of_mem_parallelBranchesOfAll : ∀ (branches : List (List Activity)),
    ∀ branch ∈ parallelBranchesOfAll branches, sizeOf branch < sizeOf branches
  | [], _, h => absurd h List.not_mem_nil
  | list :: rest, branch, h => by
      simp only [List.cons.sizeOf_spec]
      rcases List.mem_append.mp h with h | h
      · have := sizeOf_lt_of_mem_parallelBranchesOf list branch h
        omega
      · have := sizeOf_lt_of_mem_parallelBranchesOfAll rest branch h
        omega

theorem sizeOf_lt_of_mem_parallelBranchesOfDirected : ∀ (branches : List DirectedBranch),
    ∀ branch ∈ parallelBranchesOfDirected branches, sizeOf branch < sizeOf branches
  | [], _, h => absurd h List.not_mem_nil
  | .mk _ body :: rest, branch, h => by
      simp only [List.cons.sizeOf_spec, DirectedBranch.mk.sizeOf_spec]
      rcases List.mem_append.mp h with h | h
      · have := sizeOf_lt_of_mem_parallelBranchesOf body branch h
        omega
      · have := sizeOf_lt_of_mem_parallelBranchesOfDirected rest branch h
        omega

end

theorem branchAutomata_forall₂ {mode : LoopMode} {holds : List Activity → Automaton → Prop}
    {branches : List (List Activity)}
    (h : ∀ branch ∈ branches, ∀ initial, holds branch (branchAutomaton mode branch initial))
    (next : State) : List.Forall₂ holds branches (branchAutomata mode branches next) := by
  induction branches generalizing next with
  | nil => exact .nil
  | cons branch rest ih =>
      exact .cons (h branch List.mem_cons_self next)
        (ih (fun other hother => h other (List.mem_cons_of_mem _ hother)) _)

theorem automataOf_forall₂ {mode : LoopMode} {holds : List Activity → Automaton → Prop}
    {list : List Activity}
    (h : ∀ branch ∈ parallelBranchesOf list, ∀ initial,
      holds branch (branchAutomaton mode branch initial)) (position : Position) :
    List.Forall₂ holds (parallelBranchesOf list) (automataOf mode list position) := by
  rw [automataOf, ← flatMap_regionsOf mode list position]
  rw [← flatMap_regionsOf mode list position] at h
  generalize regionsOf mode false list position = regions at h ⊢
  induction regions with
  | nil => exact .nil
  | cons region rest ih =>
      obtain ⟨hregion, hrest⟩ := List.forall_mem_append.mp h
      exact List.rel_append (branchAutomata_forall₂ hregion _) (ih hrest)

theorem branches_perm {mode : LoopMode} {activities : List Activity} {position : Position}
    {automaton : Automaton}
    (hnested : automaton.nested =
      Table.extend [] ((regionsOf mode false activities position).flatMap (Region.rows mode))) :
    automaton.branches.Perm (automataOf mode activities position) := by
  have hperm : ((Table.extend []
      ((regionsOf mode false activities position).flatMap (Region.rows mode))).flatMap
        Prod.snd).Perm
      (((regionsOf mode false activities position).flatMap (Region.rows mode)).map Prod.snd) :=
    Table.appendAll_perm .nil
  rwa [map_snd_rows, ← hnested] at hperm

theorem eachBranch_of_nested {mode : LoopMode} {good : List Activity → Prop}
    {holds : List Activity → Automaton → Prop}
    (hinherit : ∀ {list}, good list → ∀ branch ∈ parallelBranchesOf list, good branch)
    (hholds : ∀ {list}, good list → ∀ initial, holds list (branchAutomaton mode list initial))
    (activities : List Activity) {position : Position} {automaton : Automaton}
    (hgood : good activities)
    (hnested : automaton.nested =
      Table.extend [] ((regionsOf mode false activities position).flatMap (Region.rows mode))) :
    EachBranch holds activities automaton := by
  have heach : ∀ branch ∈ parallelBranchesOf activities, ∀ initial,
      EachBranch holds branch (branchAutomaton mode branch initial) := by
    intro branch hbranch initial
    have := sizeOf_lt_of_mem_parallelBranchesOf activities branch hbranch
    exact eachBranch_of_nested hinherit hholds branch (hinherit hgood branch hbranch)
      (congrArg (Table.extend []) (contributionOf_branches mode _ branch none (.fresh initial)))
  have hbranches : ∀ branch ∈ parallelBranchesOf activities, ∀ initial,
      holds branch (branchAutomaton mode branch initial) :=
    fun branch hbranch => hholds (hinherit hgood branch hbranch)
  exact .intro (automataOf mode activities position) (branches_perm hnested).symm
    (automataOf_ascending mode _ _) (automataOf_forall₂ hbranches _) (automataOf_forall₂ heach _)
termination_by sizeOf activities

/-- The automaton of a parallel branch is determined by the branch and the state where it starts. -/
def IsBranch (mode : LoopMode) (activities : List Activity) (automaton : Automaton) : Prop :=
  automaton = branchAutomaton mode activities automaton.initial

theorem eachBranch_isBranch {mode : LoopMode} {activities : List Activity} {position : Position}
    {automaton : Automaton}
    (hnested : automaton.nested =
      Table.extend [] ((regionsOf mode false activities position).flatMap (Region.rows mode))) :
    EachBranch (IsBranch mode) activities automaton := by
  have hinherit : ∀ {list : List Activity}, True → ∀ branch ∈ parallelBranchesOf list, True :=
    fun _ _ _ => trivial
  exact eachBranch_of_nested hinherit (fun _ _ => rfl) activities trivial hnested

theorem Activity.cursor_le_after (mode : LoopMode) (one : Activity) {position : Position}
    (h : position.cursor < position.next) : position.cursor ≤ (one.after mode position).cursor := by
  have hpassage := one.passage mode position h
  cases hstays : one.stays mode with
  | true => exact (hpassage.cursor_eq hstays).ge
  | false => exact h.le.trans (hpassage.next_le_cursor hstays)

theorem cursor_le_afterAll (mode : LoopMode) (list : List Activity) {position : Position}
    (h : position.cursor < position.next) :
    position.cursor ≤ (afterAll mode list position).cursor := by
  have hpassage := passageAll mode list position h
  cases hstays : staysAll mode list with
  | true => exact (hpassage.cursor_eq hstays).ge
  | false => exact h.le.trans (hpassage.next_le_cursor hstays)

def Starts.UpTo (starts : Starts) (state : State) : Prop :=
  ∀ label start, starts label = some start → start ≤ state

theorem Starts.UpTo.mono {starts : Starts} {state state' : State} (h : starts.UpTo state)
    (hle : state ≤ state') : starts.UpTo state' :=
  fun label start hstart => (h label start hstart).trans hle

theorem Starts.UpTo.within {starts : Starts} {state : State} (h : starts.UpTo state)
    (label : String) : (starts.within label state).UpTo state := by
  intro asked start hstart
  rw [Starts.within] at hstart
  split at hstart
  · exact (Option.some.inj hstart).ge
  · exact h asked start hstart

theorem Position.exit_lt_resume (ended : Position) {exit : Option State} {next : State}
    (hle : next ≤ ended.next) (hexit : ∀ state, exit = some state → state < next) (start : State) :
    ∀ state, some (ended.exit exit) = some state → state < (ended.resume exit start).next := by
  rintro state heq
  obtain rfl := Option.some.inj heq
  cases exit with
  | none => exact Nat.lt_succ_self _
  | some state => exact (hexit state rfl).trans_le hle

/-- Transitions that lead forward lead into a range, or to the exit of the open choice; the joins of
the regions lie in the range, and each is reached from its region by one of the transitions. -/
structure Joins (transitions : List Transition) (regions : List Region) (exit : Option State)
    (next next' : State) : Prop where
  forward : ∀ transition ∈ transitions, transition.source < transition.target →
    exit = some transition.target ∨ next ≤ transition.target ∧ transition.target < next'
  once : ∀ region ∈ regions, (region.anchor < region.join ∧ next ≤ region.join ∧
    region.join < next') ∧ transitions.count (.silent region.anchor region.join) = 1

namespace Joins

variable {transitions transitions' : List Transition} {regions regions' : List Region}
  {exit : Option State} {next middle next' : State}

theorem nil (exit : Option State) (next next' : State) : Joins [] [] exit next next' :=
  ⟨by simp, by simp⟩

theorem edge {transition : Transition}
    (h : transition.source < transition.target →
      exit = some transition.target ∨ next ≤ transition.target ∧ transition.target < next') :
    Joins [transition] [] exit next next' :=
  ⟨by simpa using h, by simp⟩

theorem weaken {lower upper : State} (h : Joins transitions regions none lower upper)
    (hlower : next ≤ lower) (hupper : upper ≤ next') :
    Joins transitions regions exit next next' where
  forward := by
    intro transition htransition hlt
    rcases h.forward transition htransition hlt with hexit | hrange
    · cases hexit
    · exact .inr ⟨hlower.trans hrange.1, hrange.2.trans_le hupper⟩
  once := by
    intro region hregion
    obtain ⟨⟨hlt, hrange⟩, hcount⟩ := h.once region hregion
    exact ⟨⟨hlt, hlower.trans hrange.1, hrange.2.trans_le hupper⟩, hcount⟩

theorem count_eq_zero (h : Joins transitions regions exit next next') {anchor join : State}
    (hlt : anchor < join) (hexit : exit ≠ some join) (hrange : join < next ∨ next' ≤ join) :
    transitions.count (.silent anchor join) = 0 := by
  refine List.count_eq_zero.mpr fun hmem => ?_
  rcases h.forward _ hmem hlt with heq | hmem
  · exact hexit heq
  · rcases hrange with hrange | hrange
    · exact absurd hmem.1 (not_le.mpr hrange)
    · exact absurd hmem.2 (not_lt.mpr hrange)

theorem append (h₁ : Joins transitions regions exit next middle)
    (h₂ : Joins transitions' regions' exit middle next') (hle : next ≤ middle)
    (hle' : middle ≤ next') (hexit : ∀ state, exit = some state → state < next) :
    Joins (transitions ++ transitions') (regions ++ regions') exit next next' where
  forward := by
    intro transition htransition hlt
    rcases List.mem_append.mp htransition with htransition | htransition
    · exact (h₁.forward transition htransition hlt).imp_right fun hrange =>
        ⟨hrange.1, hrange.2.trans_le hle'⟩
    · exact (h₂.forward transition htransition hlt).imp_right fun hrange =>
        ⟨hle.trans hrange.1, hrange.2⟩
  once := by
    intro region hregion
    rcases List.mem_append.mp hregion with hregion | hregion
    · obtain ⟨⟨hlt, hrange⟩, hcount⟩ := h₁.once region hregion
      have hzero := h₂.count_eq_zero hlt
        (fun heq => absurd (hexit _ heq) (not_lt.mpr hrange.1)) (.inl hrange.2)
      refine ⟨⟨hlt, hrange.1, hrange.2.trans_le hle'⟩, ?_⟩
      rw [List.count_append, hcount, hzero]
    · obtain ⟨⟨hlt, hrange⟩, hcount⟩ := h₂.once region hregion
      have hzero := h₁.count_eq_zero hlt
        (fun heq => absurd (hexit _ heq) (not_lt.mpr (hle.trans hrange.1))) (.inr hrange.1)
      refine ⟨⟨hlt, hle.trans hrange.1, hrange.2⟩, ?_⟩
      rw [List.count_append, hcount, hzero]

/-- A branch of a choice leads to the exit, which the first one allocates. -/
theorem joining {ended : Position} {start : State}
    (h : Joins transitions regions (some (ended.exit exit)) (ended.resume exit start).next next')
    (hle : (ended.resume exit start).next ≤ next')
    (hexit : ∀ state, exit = some state → state < ended.next) :
    Joins ((ended.joining exit).transitions ++ transitions) regions exit ended.next next' := by
  have hresume := Position.next_le_resume ended exit start
  have hexits : exit = some (ended.exit exit) ∨
      ended.next ≤ ended.exit exit ∧ ended.exit exit < (ended.resume exit start).next := by
    cases exit with
    | none => exact .inr ⟨le_rfl, Nat.lt_succ_self _⟩
    | some state => exact .inl rfl
  have hlt : ended.exit exit < (ended.resume exit start).next := by
    rcases hexits with heq | hrange
    · exact (hexit _ heq).trans_le hresume
    · exact hrange.2
  have hjoining : (ended.joining exit).transitions =
      [.silent ended.cursor (ended.exit exit)] := by
    cases exit <;> rfl
  rw [hjoining]
  constructor
  · intro transition htransition hforward
    rcases List.mem_cons.mp htransition with rfl | htransition
    · exact hexits.imp_right fun hrange => ⟨hrange.1, hrange.2.trans_le hle⟩
    · rcases h.forward transition htransition hforward with heq | hrange
      · rw [← Option.some.inj heq]
        exact hexits.imp_right fun hrange => ⟨hrange.1, hrange.2.trans_le hle⟩
      · exact .inr ⟨hresume.trans hrange.1, hrange.2⟩
  · intro region hregion
    obtain ⟨⟨hanchor, hrange⟩, hcount⟩ := h.once region hregion
    refine ⟨⟨hanchor, hresume.trans hrange.1, hrange.2⟩, ?_⟩
    rw [List.singleton_append, List.count_cons_of_ne, hcount]
    intro heq
    have htarget : ended.exit exit = region.join := congrArg Transition.target heq
    exact absurd hlt (not_lt.mpr (htarget ▸ hrange.1))

end Joins

mutual

theorem Activity.joins (mode : LoopMode) :
    ∀ (starts : Starts) (one : Activity) (due : Option State) (position : Position),
      position.cursor < position.next → starts.UpTo position.cursor →
        Joins (one.contribution mode starts due position).transitions
          (one.regions mode false position) none position.next (one.after mode position).next
  | _, .interaction exchange, due, position, _, _ =>
      .edge fun _ => .inr ⟨le_rfl, Nat.lt_succ_self _⟩
  | starts, .choice branches, _, position, h, hstarts =>
      joinsOfChoices mode starts none branches position h hstarts (by simp)
  | starts, .directedChoice _ _ branches, _, position, h, hstarts =>
      joinsOfDirected mode starts none branches position h hstarts (by simp)
  | starts, .parallel branches, due, position, h, _ => by
      have hlt : position.next < (Activity.after mode (.parallel branches) position).next :=
        next_le_afterRegions mode branches (position.next + 1)
      have htransitions : (Activity.contribution mode starts (.parallel branches) due
          position).transitions = [.silent position.cursor position.next] := by
        rw [Activity.contribution, contributionOfRegions_eq]
        rfl
      rw [htransitions, Activity.regions, if_neg (by simp)]
      refine ⟨?_, ?_⟩
      · rintro transition htransition -
        obtain rfl := List.mem_singleton.mp htransition
        exact .inr ⟨le_rfl, hlt⟩
      · intro region hregion
        obtain rfl := List.mem_singleton.mp hregion
        exact ⟨⟨h, le_rfl, hlt⟩, List.count_singleton_self⟩
  | starts, .loop body, due, position, h, hstarts => by
      cases mode with
      | once =>
          have hbody := joinsOf .once starts body due position h hstarts
          rw [Activity.contribution, Position.openingLoop, Position.closingLoop,
            Contribution.append_empty]
          exact hbody
      | loop =>
          have hhead : (Position.fresh position.next).cursor <
              (Position.fresh position.next).next := Nat.lt_succ_self _
          have hopening : Joins [.silent position.cursor position.next] [] none position.next
              (position.next + 1) := .edge fun _ => .inr ⟨le_rfl, Nat.lt_succ_self _⟩
          have hbody := joinsOf .loop starts body due (.fresh position.next) hhead
            (hstarts.mono h.le)
          -- The body ends at its head or behind it, so the back edge does not lead forward.
          have hback := not_lt.mpr (cursor_le_afterAll .loop body hhead)
          have hclosing : Joins
              [.silent (afterAll .loop body (.fresh position.next)).cursor position.next] [] none
              (afterAll .loop body (.fresh position.next)).next
              (afterAll .loop body (.fresh position.next)).next :=
            .edge fun hforward => absurd hforward hback
          have hle := next_le_afterAll .loop body (.fresh position.next)
          have hall := hopening.append (hbody.append hclosing hle le_rfl (by simp)) (Nat.le_succ _)
            hle (by simp)
          rw [List.append_nil, List.nil_append] at hall
          simpa [Activity.contribution, Activity.regions, Activity.after, Position.openingLoop,
            Position.closingLoop, Position.enterLoop, Position.fresh, Contribution.place,
            Contribution.edge, Contribution.empty] using hall
  | starts, .recursion label body, due, position, h, hstarts =>
      joinsOf mode (starts.within label position.cursor) body due position h (hstarts.within label)
  | starts, .call label, due, position, h, hstarts => by
      have hback : (starts label).getD position.cursor ≤ position.cursor := by
        cases hstart : starts label with
        | none => exact le_rfl
        | some start => exact hstarts label start hstart
      exact .edge fun hforward => absurd hforward (not_lt.mpr hback)
  | starts, .escape body role handler, due, position, h, hstarts => by
      have hbody := joinsOf mode starts body none position h hstarts
      have hhandler := joinsOf mode starts handler (some (afterAll mode body position).cursor)
        (afterAll mode body position) (passageAll mode body position h).cursor_lt
        (hstarts.mono (cursor_le_afterAll mode body h))
      have hall := hbody.append hhandler (next_le_afterAll mode body position)
        (next_le_afterAll mode handler _) (by simp)
      simpa [Activity.contribution, Activity.regions, Activity.after, Contribution.name,
        Contribution.mark, Contribution.empty] using hall
  | _, .finish, _, _, _, _ => .nil _ _ _

theorem joinsOf (mode : LoopMode) :
    ∀ (starts : Starts) (list : List Activity) (due : Option State) (position : Position),
      position.cursor < position.next → starts.UpTo position.cursor →
        Joins (contributionOf mode starts list due position).transitions
          (regionsOf mode false list position) none position.next (afterAll mode list position).next
  | _, [], _, _, _, _ => .nil _ _ _
  | starts, first :: rest, due, position, h, hstarts => by
      have hfirst := first.joins mode starts due position h hstarts
      have hrest := joinsOf mode starts rest none (first.after mode position)
        (first.passage mode position h).cursor_lt (hstarts.mono (first.cursor_le_after mode h))
      exact hfirst.append hrest (first.next_le_after mode position) (next_le_afterAll mode rest _)
        (by simp)

theorem joinsOfChoices (mode : LoopMode) :
    ∀ (starts : Starts) (exit : Option State) (branches : List (List Activity))
      (position : Position), position.cursor < position.next → starts.UpTo position.cursor →
        (∀ state, exit = some state → state < position.next) →
          Joins (contributionOfChoices mode starts exit branches position).transitions
            (regionsOfChoices mode false exit branches position) exit position.next
            (afterChoices mode exit branches position).next
  | _, _, [], _, _, _, _ => .nil _ _ _
  | starts, exit, branch :: rest, position, h, hstarts, hexit => by
      have hle := next_le_afterAll mode branch position
      have hbranch := joinsOf mode starts branch none position h hstarts
      have hnext := hle.trans (Position.next_le_resume (afterAll mode branch position) exit
        position.cursor)
      have hrest := joinsOfChoices mode starts (some ((afterAll mode branch position).exit exit))
        rest ((afterAll mode branch position).resume exit position.cursor) (h.trans_le hnext)
        hstarts ((afterAll mode branch position).exit_lt_resume hle hexit position.cursor)
      have hjoined := hrest.joining (next_le_afterChoices mode _ rest _)
        fun state hstate => (hexit state hstate).trans_le hle
      rw [contributionOfChoices, Contribution.transitions_append, Contribution.transitions_append,
        List.append_assoc]
      exact (hbranch.weaken le_rfl le_rfl).append hjoined hle
        ((Position.next_le_resume _ exit _).trans (next_le_afterChoices mode _ rest _)) hexit

theorem joinsOfDirected (mode : LoopMode) :
    ∀ (starts : Starts) (exit : Option State) (branches : List DirectedBranch)
      (position : Position), position.cursor < position.next → starts.UpTo position.cursor →
        (∀ state, exit = some state → state < position.next) →
          Joins (contributionOfDirected mode starts exit branches position).transitions
            (regionsOfDirected mode false exit branches position) exit position.next
            (afterDirected mode exit branches position).next
  | _, _, [], _, _, _, _ => .nil _ _ _
  | starts, exit, .mk exchange body :: rest, position, h, hstarts, hexit => by
      have hbody_le := next_le_afterAll mode body (.fresh position.next)
      have hle := (Nat.le_succ _).trans hbody_le
      have hselect : Joins [exchange.transition position.cursor position.next] [] exit position.next
          (position.next + 1) := .edge fun _ => .inr ⟨le_rfl, Nat.lt_succ_self _⟩
      have hbody := joinsOf mode starts body none (.fresh position.next) (Nat.lt_succ_self _)
        (hstarts.mono h.le)
      have hnext := hle.trans (Position.next_le_resume (afterAll mode body (.fresh position.next))
        exit position.cursor)
      have hrest := joinsOfDirected mode starts
        (some ((afterAll mode body (.fresh position.next)).exit exit)) rest
        ((afterAll mode body (.fresh position.next)).resume exit position.cursor)
        (h.trans_le hnext) hstarts
        ((afterAll mode body (.fresh position.next)).exit_lt_resume hle hexit position.cursor)
      have hjoined := hrest.joining (next_le_afterDirected mode _ rest _)
        fun state hstate => (hexit state hstate).trans_le hle
      have hselected := hselect.append (hbody.weaken le_rfl le_rfl) (Nat.le_succ _)
        hbody_le hexit
      have hall := hselected.append hjoined hle
        ((Position.next_le_resume _ exit _).trans (next_le_afterDirected mode _ rest _)) hexit
      simpa [contributionOfDirected, regionsOfDirected, afterDirected, Interaction.contribution,
        Contribution.place, Contribution.edge, Contribution.name, Contribution.interrupt,
        Contribution.select, Contribution.empty] using hall

end

end Conversation

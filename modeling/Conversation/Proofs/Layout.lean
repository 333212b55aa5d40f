import Conversation.Compiler
import Conversation.Proofs.Agenda

namespace Conversation

def Interaction.transition (exchange : Interaction) (source target : State) : Transition where
  source := source
  label := .message exchange.message
  target := target
  guard := exchange.assertion
  payload := if exchange.payload.isEmpty then none else some exchange.payload

def Transition.completion (source target : State) : Transition :=
  { source, label := .parallelEnd, target, guard := none, payload := none }

/-- What a part of a protocol contributes to the automaton under construction. -/
structure Piece where
  transitions : List Transition
  finals : List State
  placed : List (State × Agenda)
  /-- The automata of parallel branches, with the states that their regions hang off. -/
  branches : List (State × Automaton)

namespace Piece

def empty : Piece := ⟨[], [], [], []⟩

def append (first second : Piece) : Piece where
  transitions := first.transitions ++ second.transitions
  finals := first.finals ++ second.finals
  placed := first.placed ++ second.placed
  branches := first.branches ++ second.branches

instance : Append Piece := ⟨append⟩

def edge (transition : Transition) : Piece := ⟨[transition], [], [], []⟩

def mark (state : State) : Piece := ⟨[], [state], [], []⟩

def place (state : State) (agenda : Agenda) : Piece := ⟨[], [], [(state, agenda)], []⟩

def branch (anchor : State) (automaton : Automaton) : Piece := ⟨[], [], [], [(anchor, automaton)]⟩

@[simp] theorem empty_append (piece : Piece) : empty ++ piece = piece := rfl

@[simp] theorem append_empty (piece : Piece) : piece ++ empty = piece := by
  change append piece empty = piece
  simp [append, empty]

@[simp] theorem transitions_append (first second : Piece) :
    (first ++ second).transitions = first.transitions ++ second.transitions := rfl

@[simp] theorem finals_append (first second : Piece) :
    (first ++ second).finals = first.finals ++ second.finals := rfl

@[simp] theorem placed_append (first second : Piece) :
    (first ++ second).placed = first.placed ++ second.placed := rfl

@[simp] theorem branches_append (first second : Piece) :
    (first ++ second).branches = first.branches ++ second.branches := rfl

end Piece

def Table.appendAll (table : Table (List Automaton)) (branches : List (State × Automaton)) :
    Table (List Automaton) :=
  branches.foldl (fun table branch => Table.append branch.1 branch.2 table) table

/-- The automaton of a parallel branch as it is built from a piece that ends at `last`. -/
structure Automaton.Completed (automaton : Automaton) (initial : State) (piece : Piece)
    (last done : State) : Prop where
  initial_eq : automaton.initial = initial
  transitions_eq :
    automaton.transitions = piece.transitions ++ [Transition.completion last done]
  mem_finals_iff : ∀ state, state ∈ automaton.finals ↔ state ∈ piece.finals ∨ state = done
  nested_eq : automaton.nested = Table.appendAll [] piece.branches

/-- What can be laid out: an activity, a list of activities, the remaining branches of a choice,
whose exit may be allocated already, or the remaining branches of a parallel region. -/
inductive Part
  | activity (activity : Activity)
  | activities (activities : List Activity)
  | choices (exit : Option State) (branches : List (List Activity))
  | regions (branches : List (List Activity))

def Part.checkpointAfter (mode : LoopMode) (rest checkpoint : Agenda) : Part → Agenda
  | .activity one => Conversation.checkpointAfter mode rest checkpoint one
  | .activities list => checkpointAfterAll mode rest checkpoint list
  | .choices _ _ => rest
  | .regions _ => checkpoint

/-- The states at which the enclosing recursions of the same automaton start. -/
abbrev Starts := String → Option State

def Starts.within (starts : Starts) (label : String) (start : State) : Starts :=
  fun asked => if asked = label then some start else starts asked

/-- A part of a protocol is laid out. It is followed by `rest`, the checkpoint before it is
`checkpoint`, the next free state and the state where it starts are `next` and `source`; after it
they are `next'` and `target`. -/
inductive Lays (mode : LoopMode) :
    Starts → (rest checkpoint : Agenda) → Part → (next source : State) → Piece →
      (next' target : State) → Prop
  | nil {starts : Starts} {rest checkpoint : Agenda} {next source : State} :
      Lays mode starts rest checkpoint (.activities []) next source .empty next source
  | cons {starts : Starts} {rest checkpoint : Agenda} {first : Activity} {others : List Activity}
      {next source next₁ between next₂ target : State} {piece₁ piece₂ : Piece} :
      Lays mode starts (agendaOf others ++ rest) checkpoint (.activity first) next source piece₁
        next₁ between →
      Lays mode starts rest (checkpointAfter mode (agendaOf others ++ rest) checkpoint first)
        (.activities others) next₁ between piece₂ next₂ target →
      Lays mode starts rest checkpoint (.activities (first :: others)) next source
        (piece₁ ++ piece₂) next₂ target
  | interaction {starts : Starts} {rest checkpoint : Agenda} {exchange : Interaction}
      {next source : State} :
      Lays mode starts rest checkpoint (.activity (.interaction exchange)) next source
        (.place next rest ++ .edge (exchange.transition source next)) (next + 1) next
  | choice {starts : Starts} {rest checkpoint : Agenda} {branches : List (List Activity)}
      {next source next' target : State} {piece : Piece} :
      Lays mode starts rest checkpoint (.choices none branches) next source piece next' target →
      Lays mode starts rest checkpoint (.activity (.choice branches)) next source piece next' target
  | directedChoice {starts : Starts} {rest checkpoint : Agenda} {sender : Role}
      {receivers : List Role} {branches : List DirectedBranch} {next source next' target : State}
      {piece : Piece} :
      Lays mode starts rest checkpoint (.choices none (branches.map DirectedBranch.activities)) next
        source piece next' target →
      Lays mode starts rest checkpoint (.activity (.directedChoice sender receivers branches)) next
        source piece next' target
  | choicesEnd {starts : Starts} {rest checkpoint : Agenda} {next source exit : State} :
      Lays mode starts rest checkpoint (.choices (some exit) []) next source .empty next exit
  | choicesFirst {starts : Starts} {rest checkpoint : Agenda} {branch : List Activity}
      {others : List (List Activity)} {next source exit last next' target : State}
      {piece₁ piece₂ : Piece} :
      Lays mode starts (.join :: rest) checkpoint (.activities branch) next source piece₁ exit last →
      Lays mode starts rest checkpoint (.choices (some exit) others) (exit + 1) source piece₂ next'
        target →
      Lays mode starts rest checkpoint (.choices none (branch :: others)) next source
        (piece₁ ++ .place exit rest ++ .edge (.silent last exit) ++ piece₂) next' target
  | choicesNext {starts : Starts} {rest checkpoint : Agenda} {branch : List Activity}
      {others : List (List Activity)} {next source exit next₁ last next' target : State}
      {piece₁ piece₂ : Piece} :
      Lays mode starts (.join :: rest) checkpoint (.activities branch) next source piece₁ next₁
        last →
      Lays mode starts rest checkpoint (.choices (some exit) others) next₁ source piece₂ next'
        target →
      Lays mode starts rest checkpoint (.choices (some exit) (branch :: others)) next source
        (piece₁ ++ .edge (.silent last exit) ++ piece₂) next' target
  | parallel {starts : Starts} {rest checkpoint : Agenda} {branches : List (List Activity)}
      {join source next' : State} {piece : Piece} :
      Lays mode starts rest checkpoint (.regions branches) (join + 1) source piece next' source →
      Lays mode starts rest checkpoint (.activity (.parallel branches)) join source
        (.place join rest ++ piece ++ .edge (.silent source join)) next' join
  | regionsEnd {starts : Starts} {rest checkpoint : Agenda} {next source : State} :
      Lays mode starts rest checkpoint (.regions []) next source .empty next source
  | regionsNext {starts : Starts} {rest checkpoint : Agenda} {branch : List Activity}
      {others : List (List Activity)} {initial source done last next' : State}
      {automaton : Automaton} {inner piece : Piece} :
      Lays mode (fun _ => none) [] (agendaOf branch) (.activities branch) (initial + 1) initial inner
        done last →
      automaton.Completed initial inner last done →
      Lays mode starts rest checkpoint (.regions others) (done + 1) source piece next' source →
      Lays mode starts rest checkpoint (.regions (branch :: others)) initial source
        (.branch source automaton ++ piece) next' source
  | loopOnce {starts : Starts} {rest checkpoint : Agenda} {body : List Activity}
      {next source next' target : State} {piece : Piece} :
      mode = .once →
      Lays mode starts rest checkpoint (.activities body) next source piece next' target →
      Lays mode starts rest checkpoint (.activity (.loop body)) next source piece next' target
  | loop {starts : Starts} {rest checkpoint : Agenda} {body : List Activity}
      {head source next' target : State} {piece : Piece} :
      mode = .loop →
      Lays mode starts (.again body :: rest) (agendaOf body ++ .again body :: rest)
        (.activities body) (head + 1) head piece next' target →
      Lays mode starts rest checkpoint (.activity (.loop body)) head source
        (.place head (agendaOf body ++ .again body :: rest) ++ .edge (.silent source head) ++ piece
          ++ .edge (.silent target head))
        next' target
  | recursion {starts : Starts} {rest checkpoint : Agenda} {label : String}
      {body : List Activity} {next source next' target : State} {piece : Piece} :
      Lays mode (starts.within label source) (.leave label checkpoint :: rest) checkpoint
        (.activities body) next source piece next' target →
      Lays mode starts rest checkpoint (.activity (.recursion label body)) next source piece next'
        target
  | call {starts : Starts} {rest checkpoint : Agenda} {label : String} {next source start : State} :
      starts label = some start →
      Lays mode starts rest checkpoint (.activity (.call label)) next source
        (.edge (.silent source start) ++ .place next rest) (next + 1) next
  | escape {starts : Starts} {rest checkpoint : Agenda} {body handler : List Activity} {role : Role}
      {next source next₁ anchor next₂ target : State} {piece₁ piece₂ : Piece} :
      Lays mode starts (.handle handler :: rest) checkpoint (.activities body) next source piece₁
        next₁ anchor →
      Lays mode starts rest (checkpointAfterAll mode (.handle handler :: rest) checkpoint body)
        (.activities handler) next₁ anchor piece₂ next₂ target →
      Lays mode starts rest checkpoint (.activity (.escape body role handler)) next source
        (piece₁ ++ .mark anchor ++ piece₂) next₂ target
  | finish {starts : Starts} {rest checkpoint : Agenda} {next source : State} :
      Lays mode starts rest checkpoint (.activity .finish) next source (.mark source) next source

/-- The states that a piece allocates, and those at which its nested automata start, are ascending
and lie in a range. -/
structure Piece.Fits (piece : Piece) (next next' : State) : Prop where
  le : next ≤ next'
  placed_ascending : (piece.placed.map Prod.fst).Pairwise (· < ·)
  placed_mem : ∀ entry ∈ piece.placed, next ≤ entry.1 ∧ entry.1 < next'
  branches_ascending : (piece.branches.map fun branch => branch.2.initial).Pairwise (· < ·)
  branches_mem : ∀ branch ∈ piece.branches, next ≤ branch.2.initial ∧ branch.2.initial < next'

namespace Piece

theorem fits_empty (next : State) : empty.Fits next next where
  le := le_rfl
  placed_ascending := .nil
  placed_mem := by simp [empty]
  branches_ascending := .nil
  branches_mem := by simp [empty]

theorem fits_edge (transition : Transition) (next : State) : (edge transition).Fits next next where
  le := le_rfl
  placed_ascending := .nil
  placed_mem := by simp [edge]
  branches_ascending := .nil
  branches_mem := by simp [edge]

theorem fits_mark (state next : State) : (mark state).Fits next next where
  le := le_rfl
  placed_ascending := .nil
  placed_mem := by simp [mark]
  branches_ascending := .nil
  branches_mem := by simp [mark]

theorem fits_place (next : State) (agenda : Agenda) : (place next agenda).Fits next (next + 1) where
  le := Nat.le_succ next
  placed_ascending := List.pairwise_singleton _ _
  placed_mem := by simp [place]
  branches_ascending := .nil
  branches_mem := by simp [place]

theorem fits_branch {anchor initial next' : State} {automaton : Automaton}
    (hinitial : automaton.initial = initial) (h : initial < next') :
    (branch anchor automaton).Fits initial next' where
  le := le_of_lt h
  placed_ascending := .nil
  placed_mem := by simp [branch]
  branches_ascending := List.pairwise_singleton _ _
  branches_mem := by simpa [branch, hinitial] using h

section Ranges

variable {α : Type} {key : α → State} {first second : List α} {next middle next' : State}

theorem range_append (hnext : next ≤ middle) (hnext' : middle ≤ next')
    (h₁ : ∀ entry ∈ first, next ≤ key entry ∧ key entry < middle)
    (h₂ : ∀ entry ∈ second, middle ≤ key entry ∧ key entry < next') :
    ∀ entry ∈ first ++ second, next ≤ key entry ∧ key entry < next' := by
  intro entry hentry
  rcases List.mem_append.mp hentry with hentry | hentry
  · obtain ⟨hlower, hupper⟩ := h₁ entry hentry
    exact ⟨hlower, lt_of_lt_of_le hupper hnext'⟩
  · obtain ⟨hlower, hupper⟩ := h₂ entry hentry
    exact ⟨hnext.trans hlower, hupper⟩

theorem ascending_append (hfirst : (first.map key).Pairwise (· < ·))
    (hsecond : (second.map key).Pairwise (· < ·))
    (h₁ : ∀ entry ∈ first, next ≤ key entry ∧ key entry < middle)
    (h₂ : ∀ entry ∈ second, middle ≤ key entry ∧ key entry < next') :
    ((first ++ second).map key).Pairwise (· < ·) := by
  rw [List.map_append, List.pairwise_append]
  refine ⟨hfirst, hsecond, ?_⟩
  intro state hstate other hother
  obtain ⟨entry, hentry, rfl⟩ := List.mem_map.mp hstate
  obtain ⟨entry', hentry', rfl⟩ := List.mem_map.mp hother
  exact lt_of_lt_of_le (h₁ entry hentry).2 (h₂ entry' hentry').1

end Ranges

theorem Fits.append {first second : Piece} {next next₁ next₂ : State} (h₁ : first.Fits next next₁)
    (h₂ : second.Fits next₁ next₂) : (first ++ second).Fits next next₂ where
  le := h₁.le.trans h₂.le
  placed_ascending :=
    ascending_append h₁.placed_ascending h₂.placed_ascending h₁.placed_mem h₂.placed_mem
  placed_mem := range_append h₁.le h₂.le h₁.placed_mem h₂.placed_mem
  branches_ascending :=
    ascending_append h₁.branches_ascending h₂.branches_ascending h₁.branches_mem h₂.branches_mem
  branches_mem := range_append h₁.le h₂.le h₁.branches_mem h₂.branches_mem

def TargetsBelow (piece : Piece) (bound : State) : Prop :=
  ∀ transition ∈ piece.transitions, transition.target < bound

theorem targetsBelow_empty (bound : State) : empty.TargetsBelow bound := by
  simp [TargetsBelow, empty]

theorem targetsBelow_edge {transition : Transition} {bound : State}
    (h : transition.target < bound) : (edge transition).TargetsBelow bound := by
  simpa [TargetsBelow, edge] using h

theorem targetsBelow_mark (state bound : State) : (mark state).TargetsBelow bound := by
  simp [TargetsBelow, mark]

theorem targetsBelow_place (state : State) (agenda : Agenda) (bound : State) :
    (place state agenda).TargetsBelow bound := by
  simp [TargetsBelow, place]

theorem targetsBelow_branch (anchor : State) (automaton : Automaton) (bound : State) :
    (branch anchor automaton).TargetsBelow bound := by
  simp [TargetsBelow, branch]

theorem TargetsBelow.append {first second : Piece} {bound : State}
    (h₁ : first.TargetsBelow bound) (h₂ : second.TargetsBelow bound) :
    (first ++ second).TargetsBelow bound := by
  intro transition htransition
  rw [transitions_append, List.mem_append] at htransition
  rcases htransition with htransition | htransition
  · exact h₁ transition htransition
  · exact h₂ transition htransition

theorem TargetsBelow.mono {piece : Piece} {bound bound' : State} (h : piece.TargetsBelow bound)
    (hle : bound ≤ bound') : piece.TargetsBelow bound' := by
  intro transition htransition
  exact lt_of_lt_of_le (h transition htransition) hle

end Piece

def Part.ExitBelow (bound : State) : Part → Prop
  | .choices (some exit) _ => exit < bound
  | _ => True

namespace Lays

variable {mode : LoopMode} {starts : Starts} {rest checkpoint : Agenda} {part : Part}
  {next source next' target : State} {piece : Piece}

theorem fits (h : Lays mode starts rest checkpoint part next source piece next' target) :
    piece.Fits next next' := by
  induction h with
  | nil => exact Piece.fits_empty _
  | cons _ _ ih₁ ih₂ => exact ih₁.append ih₂
  | interaction => exact (Piece.fits_place _ _).append (Piece.fits_edge _ _)
  | choice _ ih => exact ih
  | directedChoice _ ih => exact ih
  | choicesEnd => exact Piece.fits_empty _
  | choicesFirst _ _ ih₁ ih₂ =>
      exact ((ih₁.append (Piece.fits_place _ _)).append (Piece.fits_edge _ _)).append ih₂
  | choicesNext _ _ ih₁ ih₂ => exact (ih₁.append (Piece.fits_edge _ _)).append ih₂
  | parallel _ ih => exact ((Piece.fits_place _ _).append ih).append (Piece.fits_edge _ _)
  | regionsEnd => exact Piece.fits_empty _
  | regionsNext _ hcompleted _ ih₁ ih₂ =>
      exact (Piece.fits_branch hcompleted.initial_eq (Nat.lt_succ_of_lt ih₁.le)).append ih₂
  | loopOnce _ _ ih => exact ih
  | loop _ _ ih =>
      exact (((Piece.fits_place _ _).append (Piece.fits_edge _ _)).append ih).append
        (Piece.fits_edge _ _)
  | recursion _ ih => exact ih
  | call _ => exact (Piece.fits_edge _ _).append (Piece.fits_place _ _)
  | escape _ _ ih₁ ih₂ => exact (ih₁.append (Piece.fits_mark _ _)).append ih₂
  | finish => exact Piece.fits_mark _ _

theorem label_ne (h : Lays mode starts rest checkpoint part next source piece next' target) :
    ∀ transition ∈ piece.transitions, transition.label ≠ .parallelEnd := by
  have hsilent : ∀ a b, (Transition.silent a b).label ≠ .parallelEnd := by
    intro a b hlabel
    cases hlabel
  induction h with
  | nil => simp [Piece.empty]
  | cons _ _ ih₁ ih₂ => simpa [or_imp, forall_and] using ⟨ih₁, ih₂⟩
  | interaction => simp [Piece.place, Piece.edge, Interaction.transition]
  | choice _ ih => exact ih
  | directedChoice _ ih => exact ih
  | choicesEnd => simp [Piece.empty]
  | choicesFirst _ _ ih₁ ih₂ =>
      simpa [Piece.place, Piece.edge, or_imp, forall_and, hsilent] using ⟨ih₁, ih₂⟩
  | choicesNext _ _ ih₁ ih₂ =>
      simpa [Piece.edge, or_imp, forall_and, hsilent] using ⟨ih₁, ih₂⟩
  | parallel _ ih => simpa [Piece.place, Piece.edge, or_imp, forall_and, hsilent] using ih
  | regionsEnd => simp [Piece.empty]
  | regionsNext _ _ _ _ ih => simpa [Piece.branch] using ih
  | loopOnce _ _ ih => exact ih
  | loop _ _ ih => simpa [Piece.place, Piece.edge, or_imp, forall_and, hsilent] using ih
  | recursion _ ih => exact ih
  | call _ => simp [Piece.place, Piece.edge, hsilent]
  | escape _ _ ih₁ ih₂ => simpa [Piece.mark, or_imp, forall_and] using ⟨ih₁, ih₂⟩
  | finish => simp [Piece.mark]

theorem targets_lt (h : Lays mode starts rest checkpoint part next source piece next' target)
    (hsource : source < next) (hstarts : ∀ label start, starts label = some start → start < next)
    (hexit : part.ExitBelow next) : target < next' ∧ piece.TargetsBelow next' := by
  induction h with
  | nil => exact ⟨hsource, Piece.targetsBelow_empty _⟩
  | @cons _ _ _ _ _ _ _ next₁ _ next₂ _ _ _ h₁ h₂ ih₁ ih₂ =>
      obtain ⟨hbetween, hpiece₁⟩ := ih₁ hsource hstarts trivial
      obtain ⟨htarget, hpiece₂⟩ := ih₂ hbetween
        (fun label start hstart => lt_of_lt_of_le (hstarts label start hstart) h₁.fits.le) trivial
      exact ⟨htarget, (hpiece₁.mono h₂.fits.le).append hpiece₂⟩
  | interaction =>
      refine ⟨Nat.lt_succ_self _, (Piece.targetsBelow_place _ _ _).append ?_⟩
      exact Piece.targetsBelow_edge (Nat.lt_succ_self _)
  | choice _ ih => exact ih hsource hstarts trivial
  | directedChoice _ ih => exact ih hsource hstarts trivial
  | choicesEnd => exact ⟨hexit, Piece.targetsBelow_empty _⟩
  | @choicesFirst _ _ _ _ _ next _ exit _ next' _ _ _ h₁ h₂ ih₁ ih₂ =>
      obtain ⟨-, hpiece₁⟩ := ih₁ hsource hstarts trivial
      have hle : next ≤ exit + 1 := h₁.fits.le.trans (Nat.le_succ _)
      obtain ⟨htarget, hpiece₂⟩ := ih₂ (lt_of_lt_of_le hsource hle)
        (fun label start hstart => lt_of_lt_of_le (hstarts label start hstart) hle)
        (Nat.lt_succ_self _)
      have hexit' : exit < next' := lt_of_lt_of_le (Nat.lt_succ_self _) h₂.fits.le
      exact ⟨htarget, (((hpiece₁.mono hexit'.le).append (Piece.targetsBelow_place _ _ _)).append
        (Piece.targetsBelow_edge hexit')).append hpiece₂⟩
  | @choicesNext _ _ _ _ _ next _ exit _ _ next' _ _ _ h₁ h₂ ih₁ ih₂ =>
      obtain ⟨-, hpiece₁⟩ := ih₁ hsource hstarts trivial
      obtain ⟨htarget, hpiece₂⟩ := ih₂ (lt_of_lt_of_le hsource h₁.fits.le)
        (fun label start hstart => lt_of_lt_of_le (hstarts label start hstart) h₁.fits.le)
        (lt_of_lt_of_le hexit h₁.fits.le)
      have hexit' : exit < next' :=
        lt_of_lt_of_le hexit (h₁.fits.le.trans h₂.fits.le)
      exact ⟨htarget, ((hpiece₁.mono h₂.fits.le).append
        (Piece.targetsBelow_edge hexit')).append hpiece₂⟩
  | @parallel _ _ _ _ join _ next' _ h ih =>
      have hjoin : join < next' := lt_of_lt_of_le (Nat.lt_succ_self _) h.fits.le
      obtain ⟨-, hpiece⟩ := ih (Nat.lt_succ_of_lt hsource)
        (fun label start hstart => Nat.lt_succ_of_lt (hstarts label start hstart)) trivial
      exact ⟨hjoin, ((Piece.targetsBelow_place _ _ _).append hpiece).append
        (Piece.targetsBelow_edge hjoin)⟩
  | regionsEnd => exact ⟨hsource, Piece.targetsBelow_empty _⟩
  | @regionsNext _ _ _ _ _ initial _ done _ _ _ _ _ h₁ _ _ _ ih₂ =>
      have hle : initial ≤ done + 1 :=
        (Nat.le_succ initial).trans (h₁.fits.le.trans (Nat.le_succ done))
      obtain ⟨htarget, hpiece⟩ := ih₂ (lt_of_lt_of_le hsource hle)
        (fun label start hstart => lt_of_lt_of_le (hstarts label start hstart) hle) trivial
      exact ⟨htarget, (Piece.targetsBelow_branch _ _ _).append hpiece⟩
  | loopOnce _ _ ih => exact ih hsource hstarts trivial
  | @loop _ _ _ _ head _ next' _ _ _ h ih =>
      have hhead : head < next' := lt_of_lt_of_le (Nat.lt_succ_self _) h.fits.le
      obtain ⟨htarget, hpiece⟩ := ih (Nat.lt_succ_self _)
        (fun label start hstart => Nat.lt_succ_of_lt (hstarts label start hstart)) trivial
      exact ⟨htarget, (((Piece.targetsBelow_place _ _ _).append
        (Piece.targetsBelow_edge hhead)).append hpiece).append (Piece.targetsBelow_edge hhead)⟩
  | @recursion starts _ _ label _ next source _ _ _ _ ih =>
      refine ih hsource ?_ trivial
      intro asked start hstart
      rw [Starts.within] at hstart
      split at hstart
      · cases hstart
        exact hsource
      · exact hstarts asked start hstart
  | call hstart =>
      refine ⟨Nat.lt_succ_self _, Piece.TargetsBelow.append ?_ (Piece.targetsBelow_place _ _ _)⟩
      exact Piece.targetsBelow_edge (Nat.lt_succ_of_lt (hstarts _ _ hstart))
  | escape h₁ h₂ ih₁ ih₂ =>
      obtain ⟨hanchor, hpiece₁⟩ := ih₁ hsource hstarts trivial
      obtain ⟨htarget, hpiece₂⟩ := ih₂ hanchor
        (fun label start hstart => lt_of_lt_of_le (hstarts label start hstart) h₁.fits.le) trivial
      exact ⟨htarget, ((hpiece₁.mono h₂.fits.le).append (Piece.targetsBelow_mark _ _)).append
        hpiece₂⟩
  | finish => exact ⟨hsource, Piece.targetsBelow_mark _ _⟩

end Lays

end Conversation

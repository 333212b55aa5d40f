import Conversation.Proofs.FaultsInContext
import Conversation.Proofs.RegionsApart
import Conversation.Proofs.Renaming
import Conversation.Proofs.Rounds

/-!
Loops folded into the states at which they are entered. With loops as such a protocol compiles to
the automaton that it compiles to when they run once, but for the head and the silent transitions of
every loop: a map of the states that takes each head to where its loop is entered, and keeps the
order of all other states, takes what is left of the one automaton to the other.
-/

namespace Conversation

/-- The rows are the branches of an automaton with the states that they hang off, in the order in
which they are allocated. -/
structure Automaton.ListsBranches (automaton : Automaton) (rows : List (State × Automaton)) :
    Prop where
  ascending : rows.Pairwise fun first second => first.2.initial < second.2.initial
  branchesAt_eq : ∀ state,
    automaton.branchesAt state = (rows.filter fun row => row.1 = state).map Prod.snd

/-- One level of an automaton with loops is folded into one without. -/
structure FoldsLevel (image : State → State) (activities : List Activity)
    (looped once : Automaton) : Prop where
  initial_eq : once.initial = image looped.initial
  states : ∃ kept,
    Drops ((roundsOf false activities (.fresh looped.initial)).map Round.head) looped.states kept ∧
      once.states = kept.map image
  transitions : ∃ kept,
    Drops ((roundsOf false activities (.fresh looped.initial)).flatMap Round.wiring)
      looped.transitions kept ∧ once.transitions = kept.map (Transition.rename image)
  mem_finals_iff : ∀ state, state ∈ once.finals ↔ ∃ final ∈ looped.finals, image final = state
  interrupts_eq : once.interrupts = looped.interrupts.map (Interrupt.rename image)
  roles_eq : once.roles = looped.roles

/-- An automaton with loops is folded into one without, at every depth: the branches correspond in
the order in which they are allocated, and hang off corresponding states. -/
inductive FoldsTo (image : State → State) : List Activity → Automaton → Automaton → Prop
  | intro {activities : List Activity} {looped once : Automaton}
      (rows : List ((State × Automaton) × (State × Automaton))) :
      FoldsLevel image activities looped once →
      looped.ListsBranches (rows.map Prod.fst) →
      once.ListsBranches (rows.map Prod.snd) →
      (∀ row ∈ rows, row.2.1 = image row.1.1) →
      List.Forall₂ (fun branch row => FoldsTo image branch row.1.2 row.2.2)
        (parallelBranchesOf activities) rows →
      FoldsTo image activities looped once

/-- What a part of a protocol contributes with loops is folded into what it contributes without. -/
structure Contribution.FoldsTo (image : State → State) (rounds : List Round)
    (branches : List (List Activity)) (looped once : Contribution) : Prop where
  states : ∃ kept, Drops (rounds.map Round.head) looped.states kept ∧ once.states = kept.map image
  transitions : ∃ kept, Drops (rounds.flatMap Round.wiring) looped.transitions kept ∧
    once.transitions = kept.map (Transition.rename image)
  finals_eq : once.finals = looped.finals.map image
  interrupts_eq : once.interrupts = looped.interrupts.map (Interrupt.rename image)
  roles_eq : once.roles = looped.roles
  rows : ∃ rows : List ((State × Automaton) × (State × Automaton)),
    looped.branches = rows.map Prod.fst ∧ once.branches = rows.map Prod.snd ∧
      (∀ row ∈ rows, row.2.1 = image row.1.1) ∧
      List.Forall₂ (fun branch row => Conversation.FoldsTo image branch row.1.2 row.2.2)
        branches rows

namespace Contribution.FoldsTo

variable {image : State → State} {rounds rounds' : List Round}
  {branches branches' : List (List Activity)} {looped once looped' once' : Contribution}

theorem renamed (contribution : Contribution) (h : contribution.branches = []) :
    FoldsTo image [] [] contribution (contribution.rename image) where
  states := ⟨_, .none _, rfl⟩
  transitions := ⟨_, .none _, rfl⟩
  finals_eq := rfl
  interrupts_eq := rfl
  roles_eq := rfl
  rows := ⟨[], h, by rw [rename, h]; rfl, by simp, .nil⟩

theorem append (h : FoldsTo image rounds branches looped once)
    (h' : FoldsTo image rounds' branches' looped' once') :
    FoldsTo image (rounds ++ rounds') (branches ++ branches') (looped ++ looped')
      (once ++ once') where
  states := by
    obtain ⟨kept, hdrops, heq⟩ := h.states
    obtain ⟨kept', hdrops', heq'⟩ := h'.states
    refine ⟨kept ++ kept', ?_, ?_⟩
    · rw [List.map_append]
      exact hdrops.append hdrops'
    · rw [states_append, heq, heq', List.map_append]
  transitions := by
    obtain ⟨kept, hdrops, heq⟩ := h.transitions
    obtain ⟨kept', hdrops', heq'⟩ := h'.transitions
    refine ⟨kept ++ kept', ?_, ?_⟩
    · rw [List.flatMap_append]
      exact hdrops.append hdrops'
    · rw [transitions_append, heq, heq', List.map_append]
  finals_eq := by rw [finals_append, finals_append, h.finals_eq, h'.finals_eq, List.map_append]
  interrupts_eq := by
    rw [interrupts_append, interrupts_append, h.interrupts_eq, h'.interrupts_eq, List.map_append]
  roles_eq := by rw [roles_append, roles_append, h.roles_eq, h'.roles_eq]
  rows := by
    obtain ⟨rows, hlooped, honce, hanchors, hfolds⟩ := h.rows
    obtain ⟨rows', hlooped', honce', hanchors', hfolds'⟩ := h'.rows
    refine ⟨rows ++ rows', ?_, ?_, List.forall_mem_append.mpr ⟨hanchors, hanchors'⟩,
      List.rel_append hfolds hfolds'⟩
    · rw [branches_append, hlooped, hlooped', List.map_append]
    · rw [branches_append, honce, honce', List.map_append]

theorem loop (h : FoldsTo image rounds branches looped once) (round : Round) :
    FoldsTo image (round :: rounds) branches
      (place round.head ++ edge (.silent round.entry round.head) ++ looped ++
        edge (.silent round.last round.head)) once where
  states := by
    obtain ⟨kept, hdrops, heq⟩ := h.states
    have hhead := (Drops.all [round.head]).append hdrops
    refine ⟨kept, ?_, heq⟩
    simpa [place, edge, empty] using hhead
  transitions := by
    obtain ⟨kept, hdrops, heq⟩ := h.transitions
    refine ⟨kept, ⟨?_, ?_⟩, heq⟩
    · have hsub := hdrops.sublist.trans (List.sublist_append_left looped.transitions
        [.silent round.last round.head])
      simpa [place, edge, empty] using hsub.cons (.silent round.entry round.head)
    · have hedges : (kept ++ (round.wiring ++ rounds.flatMap Round.wiring)).Perm
          (Transition.silent round.entry round.head ::
            (looped.transitions ++ [Transition.silent round.last round.head])) := by
        refine (List.perm_append_comm_assoc ..).trans (.cons _ ?_)
        exact (hdrops.perm.cons _).trans (List.perm_append_singleton ..).symm
      simpa [place, edge, empty, Round.wiring] using hedges
  finals_eq := by simpa [place, edge, empty] using h.finals_eq
  interrupts_eq := by simpa [place, edge, empty] using h.interrupts_eq
  roles_eq := by simpa [place, edge, empty] using h.roles_eq
  rows := by simpa [place, edge, empty] using h.rows

theorem branch {branch : List Activity} {anchor : State} {automaton automaton' : Automaton}
    (h : Conversation.FoldsTo image branch automaton automaton') :
    FoldsTo image [] [branch] (.branch anchor automaton) (.branch (image anchor) automaton') where
  states := ⟨[], .none _, rfl⟩
  transitions := ⟨[], .none _, rfl⟩
  finals_eq := rfl
  interrupts_eq := rfl
  roles_eq := rfl
  rows := ⟨[((anchor, automaton), (image anchor, automaton'))], rfl, rfl, by simp,
    .cons h .nil⟩

end Contribution.FoldsTo

/-- An automaton is built from nothing by a contribution, but for its roles. -/
structure Automaton.Consists (automaton : Automaton) (contribution : Contribution) : Prop where
  states_eq : automaton.states = automaton.initial :: contribution.states
  transitions_eq : automaton.transitions = contribution.transitions
  finals_eq : automaton.finals =
    contribution.finals.foldl (fun set state => StateSet.insert state set) []
  interrupts_eq : automaton.interrupts = contribution.interrupts
  nested_eq : automaton.nested = Table.extend [] contribution.branches
  ascending : contribution.branches.Pairwise fun first second => first.2.initial < second.2.initial

theorem Automaton.Consists.listsBranches {automaton : Automaton} {contribution : Contribution}
    (h : automaton.Consists contribution) : automaton.ListsBranches contribution.branches := by
  refine ⟨h.ascending, fun state => ?_⟩
  rw [branchesAt, h.nested_eq, Table.listAt_extend]
  rfl

/-- Automata are folded if the contributions that they are built from are. -/
theorem Contribution.FoldsTo.automata {image : State → State} {activities : List Activity}
    {looped once : Automaton} {contribution contribution' : Contribution}
    (h : Contribution.FoldsTo image (roundsOf false activities (.fresh looped.initial))
      (parallelBranchesOf activities) contribution contribution')
    (hinitial : once.initial = image looped.initial) (hroles : once.roles = looped.roles)
    (hlooped : looped.Consists contribution) (honce : once.Consists contribution') :
    Conversation.FoldsTo image activities looped once := by
  obtain ⟨rows, hrows, hrows', hanchors, hfolds⟩ := h.rows
  refine .intro rows ?_ (hrows ▸ hlooped.listsBranches) (hrows' ▸ honce.listsBranches) hanchors
    hfolds
  refine ⟨hinitial, ?_, ?_, ?_, ?_, hroles⟩
  · obtain ⟨kept, hdrops, heq⟩ := h.states
    refine ⟨looped.initial :: kept, ?_, ?_⟩
    · rw [hlooped.states_eq]
      exact (Drops.none [looped.initial]).append hdrops
    · rw [honce.states_eq, heq, hinitial, List.map_cons]
  · obtain ⟨kept, hdrops, heq⟩ := h.transitions
    exact ⟨kept, hlooped.transitions_eq ▸ hdrops, honce.transitions_eq.trans heq⟩
  · intro state
    rw [honce.finals_eq, hlooped.finals_eq, h.finals_eq, mem_foldl_insert]
    simp [mem_foldl_insert]
  · rw [honce.interrupts_eq, hlooped.interrupts_eq, h.interrupts_eq]

theorem Automaton.consists_extend (initial : State) {contribution : Contribution}
    (h : contribution.branches.Pairwise fun first second => first.2.initial < second.2.initial) :
    ((single initial).extend contribution).Consists contribution :=
  ⟨rfl, rfl, rfl, rfl, rfl, h⟩

def Position.completing (ended : Position) : Contribution :=
  .place ended.next ++ .edge (.completion ended.cursor ended.next) ++ .mark ended.next

theorem Automaton.extend_completing (automaton : Automaton) (ended : Position) :
    automaton.extend ended.completing = automaton.complete ended.cursor ended.next := by
  rw [Position.completing, extend_append, extend_append, extend_place, extend_edge, extend_mark,
    complete]

section Built

variable (mode : LoopMode) (starts : Starts) (list : List Activity) (due : Option State)
  (position : Position)

/-- The branches of a list of activities are allocated in order, and nothing is nested in what is
added where they end. -/
theorem contributionOf_ascending {added : Contribution} (h : added.branches = []) :
    (contributionOf mode starts list due position ++ added).branches.Pairwise
      fun first second => first.2.initial < second.2.initial := by
  have hascending := automataOf_ascending mode list position
  rw [automataOf, ← map_snd_rows, ← contributionOf_branches mode starts list due,
    List.pairwise_map] at hascending
  rwa [Contribution.branches_append, h, List.append_nil]

theorem branchAutomaton_consists (initial : State) :
    (branchAutomaton mode list initial).Consists
      (contributionOf mode (fun _ => none) list none (.fresh initial) ++
        (afterAll mode list (.fresh initial)).completing) := by
  rw [branchAutomaton, Contribution.automaton, ← Automaton.extend_completing,
    ← Automaton.extend_append]
  exact Automaton.consists_extend initial
    (contributionOf_ascending mode (fun _ => none) list none (.fresh initial) rfl)

end Built

/-- What is folded along with a part of a protocol that ends at the two positions: its cursor, the
heads of its loops at all depths, and what it contributes. -/
structure Folding (image : State → State) (own deep : List Round)
    (branches : List (List Activity)) (looped once : Contribution) (ended ended' : Position) :
    Prop where
  cursor_eq : image ended.cursor = ended'.cursor
  heads_eq : ∀ round ∈ deep, image round.head = image round.entry
  contribution : looped.FoldsTo image own branches once

def Interaction.selecting (exchange : Interaction) (position : Position) : Contribution :=
  exchange.contribution none position ++
    .select position.cursor ⟨exchange.dispatchKey, position.next⟩

section Pieces

variable {image : State → State}

theorem Interaction.rename_selecting (exchange : Interaction) {position once : Position}
    (hcursor : image position.cursor = once.cursor) (hnext : image position.next = once.next) :
    exchange.selecting once = (exchange.selecting position).rename image := by
  have hrenamed := exchange.rename_contribution none hcursor hnext
  rw [Option.map_none] at hrenamed
  rw [selecting, selecting, Contribution.rename_append, Contribution.rename_select, hrenamed,
    ← hcursor, ← hnext]
  rfl

theorem Position.rename_completing {ended once : Position}
    (hcursor : image ended.cursor = once.cursor) (hnext : image ended.next = once.next) :
    once.completing = ended.completing.rename image := by
  simp [Position.completing, Transition.rename, Transition.completion, hcursor, hnext]

theorem Position.image_exit {ended once : Position} {exit : Option State}
    (hpairs : ∀ pair ∈ ended.exitPairs once exit, image pair.1 = pair.2) :
    image (ended.exit exit) = once.exit (exit.map image) := by
  cases exit with
  | none => exact hpairs _ (List.mem_singleton_self _)
  | some state => rfl

end Pieces

mutual

theorem Activity.folding {image : State → State} : ∀ (one : Activity) (due : Option State)
    {starts starts' : Starts} {position once : Position},
      (∀ label, starts' label = (starts label).map image) →
      image position.cursor = once.cursor →
      (∀ pair ∈ one.pairs position once, image pair.1 = pair.2) →
        Folding image (one.rounds false position) (one.rounds true position) one.parallelBranches
          (one.contribution .loop starts due position)
          (one.contribution .once starts' (due.map image) once) (one.after .loop position)
          (one.after .once once)
  | .interaction exchange, due, _, _, position, once, _, hcursor, hpairs => by
      have hnext : image position.next = once.next := hpairs _ (List.mem_singleton_self _)
      refine ⟨hnext, by simp [Activity.rounds], ?_⟩
      rw [Activity.contribution, Activity.contribution,
        exchange.rename_contribution due hcursor hnext]
      exact .renamed _ (by cases due <;> rfl)
  | .choice branches, _, _, _, _, _, hstarts, hcursor, hpairs =>
      folding_choices none branches hstarts hcursor hpairs
  | .directedChoice sender receivers branches, _, _, _, _, _, hstarts, hcursor, hpairs => by
      have hbranches := folding_directed none branches hstarts hcursor hpairs
      have hnames : Contribution.FoldsTo image [] [] (.name (sender :: receivers))
          (.name (sender :: receivers)) := .renamed _ rfl
      exact ⟨hbranches.cursor_eq, hbranches.heads_eq, hnames.append hbranches.contribution⟩
  | .parallel branches, due, starts, starts', position, once, _, hcursor, hpairs => by
      obtain ⟨hnext, hpairs⟩ := List.forall_mem_cons.mp hpairs
      have hnext : image position.next = once.next := hnext
      obtain ⟨hheads, hregions⟩ := folding_regions position.cursor branches hpairs
      refine ⟨hnext, hheads, ?_⟩
      have hall := ((Contribution.FoldsTo.renamed (.place position.next) rfl).append
        hregions).append (.renamed (.edge (.silent position.cursor position.next)) rfl)
      rw [Contribution.rename_place, Contribution.rename_edge, Transition.rename_silent, hcursor,
        hnext, List.nil_append branches, List.append_nil branches] at hall
      exact hall
  | .loop body, due, starts, starts', position, once, hstarts, hcursor, hpairs => by
      -- Without loops the body starts where the loop is entered, which is what its head is sent to.
      obtain ⟨hhead, hpairs⟩ := List.forall_mem_cons.mp hpairs
      have hhead : image (Position.fresh position.next).cursor = once.cursor := hhead
      have hbody := folding_all body due hstarts hhead hpairs
      refine ⟨hbody.cursor_eq, List.forall_mem_cons.mpr ⟨hhead.trans hcursor.symm, hbody.heads_eq⟩,
        ?_⟩
      rw [Activity.contribution, Activity.contribution, Position.openingLoop, Position.closingLoop,
        Contribution.empty_append, Contribution.append_empty]
      exact hbody.contribution.loop _
  | .recursion label body, due, _, _, position, once, hstarts, hcursor, hpairs => by
      refine folding_all body due (fun asked => ?_) hcursor hpairs
      rw [Starts.within, Starts.within]
      split_ifs
      · rw [Option.map_some, hcursor]
      · exact hstarts asked
  | .call label, _, starts, starts', position, once, hstarts, hcursor, hpairs => by
      have hnext : image position.next = once.next := hpairs _ (List.mem_singleton_self _)
      refine ⟨hnext, by simp [Activity.rounds], ?_⟩
      rw [Activity.contribution, Activity.contribution, hstarts, ← hcursor, ← hnext]
      cases starts label with
      | none =>
          exact .renamed
            (.edge (.silent position.cursor position.cursor) ++ .place position.next) rfl
      | some start =>
          exact .renamed (.edge (.silent position.cursor start) ++ .place position.next) rfl
  | .escape body role handler, _, starts, starts', position, once, hstarts, hcursor, hpairs => by
      obtain ⟨hpairs, hpairs'⟩ := List.forall_mem_append.mp hpairs
      have hbody := folding_all body none hstarts hcursor hpairs
      have hhandler := folding_all handler (some (afterAll .loop body position).cursor) hstarts
        hbody.cursor_eq hpairs'
      refine ⟨hhandler.cursor_eq,
        List.forall_mem_append.mpr ⟨hbody.heads_eq, hhandler.heads_eq⟩, ?_⟩
      have hall := (((Contribution.FoldsTo.renamed (.name [role]) rfl).append
        hbody.contribution).append (.renamed (.mark (afterAll .loop body position).cursor)
          rfl)).append hhandler.contribution
      rw [List.append_nil, List.append_nil, Option.map_some, Contribution.rename_mark,
        hbody.cursor_eq] at hall
      exact hall
  | .finish, _, _, _, position, once, _, hcursor, _ => by
      refine ⟨hcursor, by simp [Activity.rounds], ?_⟩
      rw [Activity.contribution, Activity.contribution, ← hcursor]
      exact .renamed (.mark position.cursor) rfl

/-- A map that sends every state to its counterpart folds what a list of activities contributes.
Nothing else needs to be known of the map, so it can be the same for all parts of a protocol. -/
theorem folding_all {image : State → State} : ∀ (list : List Activity) (due : Option State)
    {starts starts' : Starts} {position once : Position},
      (∀ label, starts' label = (starts label).map image) →
      image position.cursor = once.cursor →
      (∀ pair ∈ pairsOf list position once, image pair.1 = pair.2) →
        Folding image (roundsOf false list position) (roundsOf true list position)
          (parallelBranchesOf list) (contributionOf .loop starts list due position)
          (contributionOf .once starts' list (due.map image) once) (afterAll .loop list position)
          (afterAll .once list once)
  | [], _, _, _, _, _, _, hcursor, _ =>
      ⟨hcursor, by simp [roundsOf], .renamed .empty rfl⟩
  | first :: rest, due, _, _, _, _, hstarts, hcursor, hpairs => by
      obtain ⟨hpairs, hpairs'⟩ := List.forall_mem_append.mp hpairs
      have hfirst := first.folding due hstarts hcursor hpairs
      have hrest := folding_all rest none hstarts hfirst.cursor_eq hpairs'
      exact ⟨hrest.cursor_eq, List.forall_mem_append.mpr ⟨hfirst.heads_eq, hrest.heads_eq⟩,
        hfirst.contribution.append hrest.contribution⟩

theorem folding_choices {image : State → State} : ∀ (exit : Option State)
    (branches : List (List Activity)) {starts starts' : Starts} {position once : Position},
      (∀ label, starts' label = (starts label).map image) →
      image position.cursor = once.cursor →
      (∀ pair ∈ pairsOfChoices exit (exit.map image) branches position once,
        image pair.1 = pair.2) →
        Folding image (roundsOfChoices false exit branches position)
          (roundsOfChoices true exit branches position) (parallelBranchesOfAll branches)
          (contributionOfChoices .loop starts exit branches position)
          (contributionOfChoices .once starts' (exit.map image) branches once)
          (afterChoices .loop exit branches position)
          (afterChoices .once (exit.map image) branches once)
  | exit, [], _, _, _, _, _, hcursor, _ => by
      refine ⟨?_, by simp [roundsOfChoices], .renamed .empty rfl⟩
      cases exit with
      | none => exact hcursor
      | some state => rfl
  | exit, branch :: rest, starts, starts', position, once, hstarts, hcursor, hpairs => by
      obtain ⟨hpairs, hpairs'⟩ := List.forall_mem_append.mp hpairs
      obtain ⟨hpairs, hexits⟩ := List.forall_mem_append.mp hpairs
      have hbranch := folding_all branch none hstarts hcursor hpairs
      have hexit := Position.image_exit hexits
      have hrest := @folding_choices image (some ((afterAll .loop branch position).exit exit)) rest
        starts starts' ((afterAll .loop branch position).resume exit position.cursor)
        ((afterAll .once branch once).resume (exit.map image) once.cursor) hstarts
        (by cases exit <;> exact hcursor) (by rw [Option.map_some, hexit]; exact hpairs')
      have hjoining := Position.rename_joining hbranch.cursor_eq hexit
      have hjoined := hbranch.contribution.append
        (.renamed ((afterAll .loop branch position).joining exit) (by cases exit <;> rfl))
      rw [← hjoining, List.append_nil, List.append_nil] at hjoined
      rw [Option.map_some, hexit] at hrest
      exact ⟨hrest.cursor_eq, List.forall_mem_append.mpr ⟨hbranch.heads_eq, hrest.heads_eq⟩,
        hjoined.append hrest.contribution⟩

theorem folding_directed {image : State → State} : ∀ (exit : Option State)
    (branches : List DirectedBranch) {starts starts' : Starts} {position once : Position},
      (∀ label, starts' label = (starts label).map image) →
      image position.cursor = once.cursor →
      (∀ pair ∈ pairsOfDirected exit (exit.map image) branches position once,
        image pair.1 = pair.2) →
        Folding image (roundsOfDirected false exit branches position)
          (roundsOfDirected true exit branches position) (parallelBranchesOfDirected branches)
          (contributionOfDirected .loop starts exit branches position)
          (contributionOfDirected .once starts' (exit.map image) branches once)
          (afterDirected .loop exit branches position)
          (afterDirected .once (exit.map image) branches once)
  | exit, [], _, _, _, _, _, hcursor, _ => by
      refine ⟨?_, by simp [roundsOfDirected], .renamed .empty rfl⟩
      cases exit with
      | none => exact hcursor
      | some state => rfl
  | exit, .mk exchange body :: rest, starts, starts', position, once, hstarts, hcursor, hpairs => by
      obtain ⟨hpairs, hpairs'⟩ := List.forall_mem_append.mp hpairs
      obtain ⟨hpairs, hexits⟩ := List.forall_mem_append.mp hpairs
      obtain ⟨hnext, hpairs⟩ := List.forall_mem_cons.mp hpairs
      have hnext : image position.next = once.next := hnext
      have hbody := @folding_all image body none starts starts' (.fresh position.next)
        (.fresh once.next) hstarts hnext hpairs
      have hexit := Position.image_exit hexits
      have hrest := @folding_directed image
        (some ((afterAll .loop body (.fresh position.next)).exit exit)) rest starts starts'
        ((afterAll .loop body (.fresh position.next)).resume exit position.cursor)
        ((afterAll .once body (.fresh once.next)).resume (exit.map image) once.cursor) hstarts
        (by cases exit <;> exact hcursor) (by rw [Option.map_some, hexit]; exact hpairs')
      have hjoining := Position.rename_joining hbody.cursor_eq hexit
      have hselecting := exchange.rename_selecting hcursor hnext
      have hmessage : Contribution.FoldsTo image [] [] (exchange.selecting position)
          (exchange.selecting once) := hselecting ▸ .renamed (exchange.selecting position) rfl
      have hjoined := (hmessage.append hbody.contribution).append
        (.renamed ((afterAll .loop body (.fresh position.next)).joining exit)
          (by cases exit <;> rfl))
      rw [← hjoining, List.nil_append, List.nil_append, List.append_nil, List.append_nil] at hjoined
      rw [Option.map_some, hexit] at hrest
      exact ⟨hrest.cursor_eq, List.forall_mem_append.mpr ⟨hbody.heads_eq, hrest.heads_eq⟩,
        hjoined.append hrest.contribution⟩

theorem folding_regions {image : State → State} (anchor : State) :
    ∀ (branches : List (List Activity)) {next once : State},
      (∀ pair ∈ pairsOfRegions branches next once, image pair.1 = pair.2) →
        (∀ round ∈ roundsWithin branches next, image round.head = image round.entry) ∧
        (contributionOfRegions .loop anchor branches next).FoldsTo image [] branches
          (contributionOfRegions .once (image anchor) branches once)
  | [], _, _, _ => ⟨by simp [roundsWithin], .renamed .empty rfl⟩
  | branch :: rest, next, once, hpairs => by
      obtain ⟨hpairs, hpairs'⟩ := List.forall_mem_append.mp hpairs
      obtain ⟨hpairs, hdone⟩ := List.forall_mem_append.mp hpairs
      obtain ⟨hinitial, hpairs⟩ := List.forall_mem_cons.mp hpairs
      have hbranch := @folding_all image branch none (fun _ => none) (fun _ => none) (.fresh next)
        (.fresh once) (fun _ => rfl) hinitial hpairs
      obtain ⟨hheads, hrest⟩ := folding_regions anchor rest hpairs'
      refine ⟨List.forall_mem_append.mpr ⟨hbranch.heads_eq, hheads⟩, ?_⟩
      have hcompleting := Position.rename_completing hbranch.cursor_eq
        (hdone _ (List.mem_singleton_self _))
      have hcompleted := hbranch.contribution.append
        (.renamed (afterAll .loop branch (.fresh next)).completing rfl)
      rw [← hcompleting, List.append_nil, List.append_nil] at hcompleted
      have hroles : (branchAutomaton .once branch once).roles =
          (branchAutomaton .loop branch next).roles :=
        congrArg (List.foldl appendNew []) hbranch.contribution.roles_eq
      have hautomata := hcompleted.automata hinitial.symm hroles
        (branchAutomaton_consists .loop branch next) (branchAutomaton_consists .once branch once)
      exact (Contribution.FoldsTo.branch hautomata).append hrest

end

namespace Protocol

def rounds (protocol : Protocol) : List Round :=
  roundsOf true protocol.activities (.fresh 0)

/-- The states of a protocol with loops, each with its counterpart without. -/
def pairs (protocol : Protocol) : List (State × State) :=
  (0, 0) :: pairsOf protocol.activities (.fresh 0) (.fresh 0)

/-- A map of the states folds an automaton with loops into one without: all states of the one go to
all states of the other, each head goes to where its loop is entered, and the other states stay in
their order. -/
structure Folds (protocol : Protocol) (image : State → State) (looped once : Automaton) :
    Prop where
  mapsTo : ∀ state ∈ looped.allStates, image state ∈ once.allStates
  onto : ∀ state ∈ once.allStates, ∃ state' ∈ looped.allStates, image state' = state
  heads_eq : ∀ round ∈ protocol.rounds, image round.head = image round.entry
  increasing : StrictMonoOn image
    {state | state ∈ looped.allStates ∧ state ∉ protocol.rounds.map Round.head}
  foldsTo : FoldsTo image protocol.activities looped once

variable {protocol : Protocol} {options : CompileOptions} {automaton : Automaton}

theorem pairing (protocol : Protocol) :
    Pairing (protocol.rounds.map Round.head) protocol.pairs 0
      (afterAll .loop protocol.activities (.fresh 0)).next 0
      (afterAll .once protocol.activities (.fresh 0)).next :=
  (Pairing.single 0 0).append
    (pairing_all protocol.activities (.fresh 0) (.fresh 0) (Nat.lt_succ_self 0))

theorem consists_of_compile (h : protocol.compile options = .ok automaton) :
    automaton.initial = 0 ∧
      automaton.roles =
        (referencesOf true protocol.activities).foldl appendNew protocol.opening.roles ∧
      automaton.Consists
        (contributionOf options.loops (fun _ => none) protocol.activities none (.fresh 0) ++
          .mark (afterAll options.loops protocol.activities (.fresh 0)).cursor) := by
  obtain ⟨ended, -, hposition, hended, hroles, hautomaton⟩ := eq_of_compile h
  obtain ⟨roles, hopening⟩ := protocol.fresh_opening.automaton_eq
  have hcursor : ended.scopes.cursor =
      (afterAll options.loops protocol.activities (.fresh 0)).cursor :=
    congrArg Position.cursor hposition
  have hnone : (Contribution.mark (afterAll options.loops protocol.activities
      (.fresh 0)).cursor).branches = [] := rfl
  have hconsists := Automaton.consists_extend 0 (contributionOf_ascending options.loops
    (fun _ => none) protocol.activities none (.fresh 0) hnone)
  rw [hended, hcursor, ← Automaton.extend_mark, ← Automaton.extend_append, hopening] at hautomaton
  rw [hautomaton]
  exact ⟨rfl, hroles, hconsists.states_eq, hconsists.transitions_eq, hconsists.finals_eq,
    hconsists.interrupts_eq, hconsists.nested_eq, hconsists.ascending⟩

theorem branches_consist_of_compile (h : protocol.compile options = .ok automaton) :
    EachBranch
      (fun activities branch => Builds options.loops activities branch ∧
        branch.Consists
          (contributionOf options.loops (fun _ => none) activities none (.fresh branch.initial) ++
            (afterAll options.loops activities (.fresh branch.initial)).completing))
      protocol.activities automaton := by
  obtain ⟨-, -, hnested⟩ := outermost_of_compile h
  refine ((eachBranch_builds h).and (eachBranch_isBranch hnested)).imp ?_
  rintro activities branch ⟨hbuilds, hbranch⟩
  have hconsists := branchAutomaton_consists options.loops activities branch.initial
  rw [← hbranch] at hconsists
  exact ⟨hbuilds, hconsists⟩

/-- A protocol that compiles when its loops run once also compiles with loops as such, and but for
the loops the automata are the same: folding each loop into the state at which it is entered takes
the one to the other. -/
theorem loops_fold {once : Automaton} (h : protocol.compile ⟨.once⟩ = .ok once) :
    ∃ looped, protocol.compile ⟨.loop⟩ = .ok looped ∧
      ∃ image, protocol.Folds image looped once := by
  have hfaultless : Faultless (CompileOptions.mk .loop).loops protocol.activities :=
    (faultless_of_compile h).of_once .loop
  obtain ⟨looped, hlooped⟩ := exists_compile_of_faultless hfaultless
  have hpairing := protocol.pairing
  have himage : ∀ pair ∈ protocol.pairs, counterpart protocol.pairs pair.1 = pair.2 :=
    fun pair hpair => hpairing.counterpart_eq hpair
  obtain ⟨hzero, himage'⟩ := List.forall_mem_cons.mp himage
  have hfolding := @folding_all (counterpart protocol.pairs) protocol.activities none
    (fun _ => none) (fun _ => none) (.fresh 0) (.fresh 0) (fun _ => rfl) hzero himage'
  have hstates : ∀ state, state ∈ looped.allStates ↔
      state < (afterAll .loop protocol.activities (.fresh 0)).next :=
    fun state => (allStates_of_compile hlooped).mem_iff.trans List.mem_range
  have hstates' : ∀ state, state ∈ once.allStates ↔
      state < (afterAll .once protocol.activities (.fresh 0)).next :=
    fun state => (allStates_of_compile h).mem_iff.trans List.mem_range
  refine ⟨looped, hlooped, counterpart protocol.pairs, ?_, ?_, hfolding.heads_eq, ?_, ?_⟩
  · intro state hstate
    exact (hstates' _).mpr (hpairing.counterpart_lt (Nat.zero_le _) ((hstates _).mp hstate))
  · intro state hstate
    obtain ⟨state', -, hlt, heq⟩ :=
      hpairing.exists_counterpart_eq (Nat.zero_le _) ((hstates' _).mp hstate)
    exact ⟨state', (hstates _).mpr hlt, heq⟩
  · rintro first ⟨-, hfirst⟩ second ⟨hmem, hsecond⟩ hlt
    exact hpairing.counterpart_lt_counterpart (Nat.zero_le _) hfirst hsecond hlt
      ((hstates _).mp hmem)
  · obtain ⟨hinitial, hroles, hconsists⟩ := consists_of_compile hlooped
    obtain ⟨hinitial', hroles', hconsists'⟩ := consists_of_compile h
    have hmarked := hfolding.contribution.append (.renamed
      (.mark (afterAll .loop protocol.activities (.fresh 0)).cursor) rfl)
    have hrounds : roundsOf false protocol.activities (.fresh looped.initial) =
        roundsOf false protocol.activities (.fresh 0) := by
      rw [hinitial]
    rw [List.append_nil, List.append_nil, Contribution.rename_mark, hfolding.cursor_eq,
      ← hrounds] at hmarked
    refine hmarked.automata ?_ (hroles'.trans hroles.symm) hconsists hconsists'
    rw [hinitial, hinitial']
    exact hzero.symm

end Protocol

/-- The parallel activities of the two branches are entered at two states with loops, at the head of
the loop and where the choice is made, and at one state without. -/
def roundabout : Protocol :=
  .bare "Roundabout"
    [.choice
      [[.loop [.parallel [[.interaction (.bare .receive (some "a") ⟨"B"⟩)]]]],
        [.parallel [[.interaction (.bare .receive (some "b") ⟨"B"⟩)]]]]]

theorem roundabout_folds : ∃ once, roundabout.compile ⟨.once⟩ = .ok once ∧
    ∃ looped, roundabout.compile ⟨.loop⟩ = .ok looped ∧
      ∃ image, roundabout.Folds image looped once := by
  have hok : (roundabout.compile ⟨.once⟩).isOk = true := by decide +kernel
  obtain ⟨once, hcompile⟩ := Protocol.exists_eq_ok hok
  exact ⟨once, hcompile, Protocol.loops_fold hcompile⟩

end Conversation

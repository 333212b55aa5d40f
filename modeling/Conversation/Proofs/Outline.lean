import Conversation.Proofs.AutomatonPaths
import Conversation.Proofs.LayoutOfRuns

namespace Conversation

mutual

/-- The branches of the parallel regions of an activity, without those inside of such branches. -/
def Activity.parallelBranches : Activity → List (List Activity)
  | .interaction _ => []
  | .choice branches => parallelBranchesOfAll branches
  | .directedChoice _ _ branches => parallelBranchesOfDirected branches
  | .parallel branches => branches
  | .loop body => parallelBranchesOf body
  | .recursion _ body => parallelBranchesOf body
  | .call _ => []
  | .escape body _ handler => parallelBranchesOf body ++ parallelBranchesOf handler
  | .finish => []

def parallelBranchesOf : List Activity → List (List Activity)
  | [] => []
  | first :: rest => first.parallelBranches ++ parallelBranchesOf rest

def parallelBranchesOfAll : List (List Activity) → List (List Activity)
  | [] => []
  | list :: rest => parallelBranchesOf list ++ parallelBranchesOfAll rest

def parallelBranchesOfDirected : List DirectedBranch → List (List Activity)
  | [] => []
  | .mk _ body :: rest => parallelBranchesOf body ++ parallelBranchesOfDirected rest

end

theorem parallelBranchesOf_append (first second : List Activity) :
    parallelBranchesOf (first ++ second) = parallelBranchesOf first ++ parallelBranchesOf second := by
  induction first with
  | nil => rfl
  | cons activity rest ih => simp [parallelBranchesOf, ih]

theorem parallelBranchesOfAll_activities (branches : List DirectedBranch) :
    parallelBranchesOfAll (branches.map DirectedBranch.activities) =
      parallelBranchesOfDirected branches := by
  induction branches with
  | nil => rfl
  | cons branch rest ih =>
      obtain ⟨exchange, body⟩ := branch
      simp [parallelBranchesOfAll, parallelBranchesOfDirected, DirectedBranch.activities,
        DirectedBranch.body, parallelBranchesOf, Activity.parallelBranches, ih]

def Automaton.branches (automaton : Automaton) : List Automaton :=
  automaton.nested.flatMap Prod.snd

/-- A property holds of every parallel branch, at any depth, and its automaton. -/
inductive EachBranch (holds : List Activity → Automaton → Prop) :
    List Activity → Automaton → Prop
  | intro {activities : List Activity} {automaton : Automaton} (branches : List Automaton) :
      branches.Perm automaton.branches →
      branches.Pairwise (fun first second => first.initial < second.initial) →
      List.Forall₂ holds (parallelBranchesOf activities) branches →
      List.Forall₂ (EachBranch holds) (parallelBranchesOf activities) branches →
      EachBranch holds activities automaton

namespace Table

variable {α : Type}

theorem mem_keys_insert {state key : State} {value : α} {table : Table α}
    (h : key ∈ (insert state value table).map Prod.fst) :
    key = state ∨ key ∈ table.map Prod.fst := by
  induction table with
  | nil => simpa [insert] using h
  | cons entry rest ih =>
      obtain ⟨first, old⟩ := entry
      rw [insert] at h
      split at h
      · simpa using h
      · split at h
        · simp only [List.map_cons, List.mem_cons] at h ⊢
          rcases h with h | h
          · exact .inl h
          · exact .inr (.inr h)
        · simp only [List.map_cons, List.mem_cons] at h ⊢
          rcases h with h | h
          · exact .inr (.inl h)
          · rcases ih h with h | h
            · exact .inl h
            · exact .inr (.inr h)

theorem pairwise_insert {state : State} {value : α} {table : Table α}
    (h : (table.map Prod.fst).Pairwise (· < ·)) :
    ((insert state value table).map Prod.fst).Pairwise (· < ·) := by
  induction table with
  | nil => simp [insert]
  | cons entry rest ih =>
      obtain ⟨key, old⟩ := entry
      obtain ⟨hhead, htail⟩ := List.pairwise_cons.mp h
      rw [insert]
      split
      · next hlt =>
          refine List.pairwise_cons.mpr ⟨?_, h⟩
          intro other hother
          rcases List.mem_cons.mp hother with rfl | hother
          · exact hlt
          · exact lt_trans hlt (hhead other hother)
      · split
        · next heq =>
            subst heq
            exact List.pairwise_cons.mpr ⟨hhead, htail⟩
        · next hlt hne =>
            refine List.pairwise_cons.mpr ⟨?_, ih htail⟩
            intro other hother
            rcases mem_keys_insert hother with rfl | hother
            · exact lt_of_le_of_ne (not_lt.mp hlt) (Ne.symm hne)
            · exact hhead other hother

theorem listAt_eq_nil {state : State} {table : Table (List α)}
    (h : state ∉ table.map Prod.fst) : listAt state table = [] := by
  induction table with
  | nil => rfl
  | cons entry rest ih =>
      obtain ⟨key, old⟩ := entry
      rw [List.map_cons, List.mem_cons, not_or] at h
      rw [listAt, find?, if_neg (Ne.symm h.1)]
      exact ih h.2

theorem append_perm {state : State} {value : α} {table : Table (List α)}
    (h : (table.map Prod.fst).Pairwise (· < ·)) :
    ((append state value table).flatMap Prod.snd).Perm (table.flatMap Prod.snd ++ [value]) := by
  induction table with
  | nil => simp [append, insert, listAt, find?]
  | cons entry rest ih =>
      obtain ⟨key, old⟩ := entry
      obtain ⟨hhead, htail⟩ := List.pairwise_cons.mp h
      rcases lt_trichotomy state key with hlt | rfl | hgt
      · have hnone : listAt state ((key, old) :: rest) = [] := by
          refine listAt_eq_nil fun hmem => ?_
          rcases List.mem_cons.mp hmem with rfl | hmem
          · exact lt_irrefl _ hlt
          · exact lt_irrefl _ (lt_trans hlt (hhead state hmem))
        rw [append, hnone, insert, if_pos hlt, List.nil_append, List.flatMap_cons]
        exact List.perm_append_comm
      · rw [append, listAt, find?, if_pos rfl, insert, if_neg (lt_irrefl _), if_pos rfl]
        simp only [Option.getD_some, List.flatMap_cons, List.append_assoc]
        exact List.Perm.append_left old List.perm_append_comm
      · have happend : append state value ((key, old) :: rest) =
            (key, old) :: append state value rest := by
          rw [append, listAt, find?, if_neg (ne_of_lt hgt), insert, if_neg (lt_asymm hgt),
            if_neg (ne_of_gt hgt)]
          rfl
        rw [happend, List.flatMap_cons, List.flatMap_cons, List.append_assoc]
        exact List.Perm.append_left old (ih htail)

theorem appendAll_perm {branches : List (State × Automaton)} {table : Table (List Automaton)}
    (h : (table.map Prod.fst).Pairwise (· < ·)) :
    ((appendAll table branches).flatMap Prod.snd).Perm
      (table.flatMap Prod.snd ++ branches.map Prod.snd) := by
  induction branches generalizing table with
  | nil => simp [appendAll]
  | cons branch rest ih =>
      obtain ⟨anchor, automaton⟩ := branch
      refine (ih (pairwise_insert h)).trans ?_
      have hperm : ((append anchor automaton table).flatMap Prod.snd ++ rest.map Prod.snd).Perm
          (table.flatMap Prod.snd ++ [automaton] ++ rest.map Prod.snd) :=
        (append_perm h).append_right _
      rw [List.append_assoc] at hperm
      exact hperm

end Table

/-- The outline of the automaton of an activity list: the list is laid out from the initial state
on, a branch is completed from where the list ends, and final marks beyond those of the list are
on states that no transition of the list leads to. -/
structure Outline (mode : LoopMode) (activities : List Activity) (automaton : Automaton)
    (piece : Piece) (last : State) : Prop where
  laid : ∃ next, Lays mode (fun _ => none) [] (agendaOf activities) (.activities activities)
    (automaton.initial + 1) automaton.initial piece next last
  transitions : ∃ ends, automaton.transitions = piece.transitions ++ ends ∧
    ∀ transition ∈ ends, transition.label = .parallelEnd ∧ transition.source = last
  finals : ∀ state ∈ piece.finals, state ∈ automaton.finals
  only_finals : ∀ state ∈ automaton.finals, state ∈ piece.finals ∨
    state ≠ automaton.initial ∧ ∀ transition ∈ piece.transitions, transition.target ≠ state
  nested_eq : automaton.nested = Table.appendAll [] piece.branches

namespace Outline

variable {mode : LoopMode} {activities : List Activity} {automaton : Automaton} {piece : Piece}
  {last : State}

theorem of_completed {initial done : State}
    (h : Lays mode (fun _ => none) [] (agendaOf activities) (.activities activities) (initial + 1)
      initial piece done last)
    (hcompleted : automaton.Completed initial piece last done) :
    Outline mode activities automaton piece last where
  laid := by
    rw [hcompleted.initial_eq]
    exact ⟨done, h⟩
  transitions := by
    refine ⟨[.completion last done], hcompleted.transitions_eq, ?_⟩
    intro transition htransition
    obtain rfl := List.mem_singleton.mp htransition
    exact ⟨rfl, rfl⟩
  finals := by
    intro state hstate
    exact (hcompleted.mem_finals_iff state).mpr (.inl hstate)
  only_finals := by
    intro state hstate
    rcases (hcompleted.mem_finals_iff state).mp hstate with hstate | rfl
    · exact .inl hstate
    · obtain ⟨-, htargets⟩ := h.targets_lt (Nat.lt_succ_self _) (by simp) trivial
      refine .inr ⟨?_, ?_⟩
      · rw [hcompleted.initial_eq]
        exact ne_of_gt (lt_of_lt_of_le (Nat.lt_succ_self _) h.fits.le)
      · intro transition htransition
        exact ne_of_lt (htargets transition htransition)
  nested_eq := hcompleted.nested_eq

theorem mem_piece_of_edge (h : Outline mode activities automaton piece last)
    {transition : Transition} (htransition : transition ∈ automaton.transitions)
    (hlabel : transition.label ≠ .parallelEnd) : transition ∈ piece.transitions := by
  obtain ⟨ends, htransitions, hends⟩ := h.transitions
  rw [htransitions, List.mem_append] at htransition
  rcases htransition with htransition | htransition
  · exact htransition
  · exact absurd (hends transition htransition).1 hlabel

theorem completes_iff (h : Outline mode activities automaton piece last) {initial done : State}
    (hcompleted : automaton.Completed initial piece last done) {word : List Message} :
    automaton.Completes word ↔ Emits automaton.Edge automaton.initial word last := by
  rw [Automaton.completes_iff]
  constructor
  · rintro ⟨transition, htransition, hlabel, hemits⟩
    obtain ⟨ends, htransitions, hends⟩ := h.transitions
    rw [htransitions, List.mem_append] at htransition
    rcases htransition with htransition | htransition
    · obtain ⟨next, hlays⟩ := h.laid
      exact absurd hlabel (hlays.label_ne transition htransition)
    · rwa [(hends transition htransition).2] at hemits
  · intro hemits
    refine ⟨.completion last done, ?_, rfl, hemits⟩
    rw [hcompleted.transitions_eq]
    exact List.mem_append_right _ (List.mem_singleton_self _)

end Outline

def Part.parallelBranches : Part → List (List Activity)
  | .activity one => one.parallelBranches
  | .activities list => parallelBranchesOf list
  | .choices _ branches => parallelBranchesOfAll branches
  | .regions branches => branches

theorem EachBranch.of_piece {holds : List Activity → Automaton → Prop} {activities : List Activity}
    {automaton : Automaton} {piece : Piece} {next next' : State} (hfits : piece.Fits next next')
    (hnested : automaton.nested = Table.appendAll [] piece.branches)
    (h : List.Forall₂ (fun branch nested => holds branch nested ∧ EachBranch holds branch nested)
      (parallelBranchesOf activities) (piece.branches.map Prod.snd)) :
    EachBranch holds activities automaton := by
  refine .intro (piece.branches.map Prod.snd) ?_ ?_ (h.imp fun _ _ hboth => hboth.1)
    (h.imp fun _ _ hboth => hboth.2)
  · rw [Automaton.branches, hnested]
    have hperm : ((Table.appendAll [] piece.branches).flatMap Prod.snd).Perm
        (piece.branches.map Prod.snd) := Table.appendAll_perm .nil
    exact hperm.symm
  · have hascending := hfits.branches_ascending
    rw [List.pairwise_map] at hascending ⊢
    exact hascending

namespace Lays

variable {mode : LoopMode} {starts : Starts} {rest checkpoint : Agenda} {part : Part}
  {next source next' target : State} {piece : Piece}

/-- The parallel branches of a part and the automata that it nests correspond to each other, in
their order. A property `good` of the branches may be used that they hand on to those inside of
them. -/
theorem eachBranch {good : List Activity → Prop} {holds : List Activity → Automaton → Prop}
    (hinherit : ∀ {activities}, good activities →
      ∀ branch ∈ parallelBranchesOf activities, good branch)
    (hholds : ∀ {activities automaton piece initial last done}, good activities →
      Outline mode activities automaton piece last →
      automaton.Completed initial piece last done → holds activities automaton)
    (h : Lays mode starts rest checkpoint part next source piece next' target)
    (hgood : ∀ branch ∈ part.parallelBranches, good branch) :
    List.Forall₂ (fun branch nested => holds branch nested ∧ EachBranch holds branch nested)
      part.parallelBranches (piece.branches.map Prod.snd) := by
  induction h with
  | nil => exact .nil
  | cons _ _ ih₁ ih₂ =>
      obtain ⟨hgood₁, hgood₂⟩ := List.forall_mem_append.mp hgood
      rw [Piece.branches_append, List.map_append]
      exact List.rel_append (ih₁ hgood₁) (ih₂ hgood₂)
  | interaction => exact .nil
  | choice _ ih => exact ih hgood
  | directedChoice _ ih =>
      rw [Part.parallelBranches, parallelBranchesOfAll_activities] at ih
      exact ih hgood
  | choicesEnd => exact .nil
  | choicesFirst _ _ ih₁ ih₂ =>
      obtain ⟨hgood₁, hgood₂⟩ := List.forall_mem_append.mp hgood
      simp only [Piece.branches_append, Piece.place, Piece.edge, List.append_nil, List.map_append]
      exact List.rel_append (ih₁ hgood₁) (ih₂ hgood₂)
  | choicesNext _ _ ih₁ ih₂ =>
      obtain ⟨hgood₁, hgood₂⟩ := List.forall_mem_append.mp hgood
      simp only [Piece.branches_append, Piece.edge, List.append_nil, List.map_append]
      exact List.rel_append (ih₁ hgood₁) (ih₂ hgood₂)
  | parallel _ ih =>
      simp only [Piece.branches_append, Piece.place, Piece.edge, List.append_nil, List.nil_append]
      exact ih hgood
  | regionsEnd => exact .nil
  | regionsNext hlays hcompleted _ ih₁ ih₂ =>
      obtain ⟨hbranch, hothers⟩ := List.forall_mem_cons.mp hgood
      refine .cons ⟨hholds hbranch (.of_completed hlays hcompleted) hcompleted, ?_⟩ (ih₂ hothers)
      exact .of_piece hlays.fits hcompleted.nested_eq (ih₁ (hinherit hbranch))
  | loopOnce _ _ ih => exact ih hgood
  | loop _ _ ih =>
      simp only [Piece.branches_append, Piece.place, Piece.edge, List.append_nil, List.nil_append]
      exact ih hgood
  | recursion _ ih => exact ih hgood
  | call _ => exact .nil
  | escape _ _ ih₁ ih₂ =>
      obtain ⟨hgood₁, hgood₂⟩ := List.forall_mem_append.mp hgood
      simp only [Piece.branches_append, Piece.mark, List.append_nil, List.map_append]
      exact List.rel_append (ih₁ hgood₁) (ih₂ hgood₂)
  | finish => exact .nil

end Lays

theorem Runs.snoc {mode : LoopMode} {activities : List Activity} {last : Activity}
    {build between final : Build} (h : Runs mode (.activities activities) build between)
    (hlast : Runs mode (.activity last) between final) :
    Runs mode (.activities (activities ++ [last])) build final := by
  induction activities generalizing build with
  | nil =>
      cases h with
      | nil => exact .cons hlast .nil
  | cons first rest ih =>
      cases h with
      | cons hfirst hrest => exact .cons hfirst (ih hrest)

namespace Protocol

variable {protocol : Protocol} {options : CompileOptions} {automaton : Automaton}

theorem exists_eq_ok (h : (protocol.compile options).isOk = true) :
    ∃ automaton, protocol.compile options = .ok automaton := by
  cases hcompile : protocol.compile options with
  | error error =>
      rw [hcompile] at h
      cases h
  | ok automaton => exact ⟨automaton, rfl⟩

theorem runs_of_compile (h : protocol.compile options = .ok automaton) :
    ∃ build final, (Build.start false).Grows .empty 1 0 [] build ∧
      Runs options.loops (.activities (protocol.activities ++ [.finish])) build final ∧
      automaton = final.finished protocol := by
  rw [compile, compileRecording] at h
  split at h
  · next final hrun =>
      simp only [Except.ok.injEq] at h
      simp only [Compiler.protocol, EStateM.run, Builder.bind_eq_ok_iff] at hrun
      obtain ⟨_, recorded, hrecord, _, _, hlist, _, named, hroles, _, ended, hactivities, _, _,
        hcursor, hmark⟩ := hrun
      obtain ⟨-, rfl⟩ := Compiler.requireNonempty_eq_ok hlist
      cases hrecord
      cases hcursor
      cases hmark
      exact ⟨named, _, ((Build.start false).grows_refl.record _).addRoles hroles,
        (Compiler.runs_of_activities _ hactivities).snoc .finish, h.symm⟩
  · cases h

theorem outline_of_compile (h : protocol.compile options = .ok automaton) :
    ∃ piece last, Outline options.loops (protocol.activities ++ [.finish]) automaton piece last := by
  obtain ⟨build, final, hbuild, hruns, rfl⟩ := runs_of_compile h
  have hstart : (Build.start false).Suits fun _ => none := by
    refine ⟨rfl, ?_⟩
    intro label start hresolve
    cases hresolve
  obtain ⟨piece, next, last, hlays, hgrows⟩ :=
    hruns.laysOut (fun _ => none) [] protocol.agenda (hstart.grows hbuild)
  rw [hbuild.next_eq, hbuild.cursor_eq] at hlays
  have hgrowth := (hbuild.trans hgrows).automaton_grows
  have hroot : (final.finished protocol).transitions = final.scopes.automaton.transitions ∧
      (final.finished protocol).finals = final.scopes.automaton.finals ∧
      (final.finished protocol).nested = final.scopes.automaton.nested ∧
      (final.finished protocol).initial = 0 := by
    have hscopes : final.scopes.root = final.scopes.automaton := by
      rw [ScopeStack.root, (hbuild.trans hgrows).suspended_eq]
      rfl
    rw [Build.finished, hscopes]
    exact ⟨rfl, rfl, rfl, hgrowth.initial_eq⟩
  obtain ⟨htransitions, hfinals, hnested, hinitial⟩ := hroot
  have hmem : ∀ state, state ∈ final.scopes.automaton.finals ↔ state ∈ piece.finals := by
    intro state
    rw [hgrowth.mem_finals_iff, Piece.empty_append]
    exact or_iff_right (List.not_mem_nil (a := state))
  refine ⟨piece, last, ⟨?_, ⟨[], ?_, by simp⟩, ?_, ?_, ?_⟩⟩
  · rw [hinitial]
    exact ⟨next, hlays⟩
  · rw [htransitions, hgrowth.transitions_eq, List.append_nil]
    rfl
  · intro state hstate
    rw [hfinals]
    exact (hmem state).mpr hstate
  · intro state hstate
    rw [hfinals] at hstate
    exact .inl ((hmem state).mp hstate)
  · rw [hnested, hgrowth.nested_eq]
    rfl

/-- What holds of every outline of a parallel branch holds of every branch of a compiled
protocol. -/
theorem eachBranch_of_compile {good : List Activity → Prop}
    {holds : List Activity → Automaton → Prop}
    (hinherit : ∀ {activities}, good activities →
      ∀ branch ∈ parallelBranchesOf activities, good branch)
    (hholds : ∀ {activities automaton piece initial last done}, good activities →
      Outline options.loops activities automaton piece last →
      automaton.Completed initial piece last done → holds activities automaton)
    (h : protocol.compile options = .ok automaton) (hgood : good protocol.activities) :
    EachBranch holds protocol.activities automaton := by
  obtain ⟨piece, last, houtline⟩ := outline_of_compile h
  obtain ⟨next, hlays⟩ := houtline.laid
  have hbranches : parallelBranchesOf (protocol.activities ++ [.finish]) =
      parallelBranchesOf protocol.activities := by
    simp [parallelBranchesOf_append, parallelBranchesOf, Activity.parallelBranches]
  have heach := hlays.eachBranch hinherit hholds
  rw [Part.parallelBranches, hbranches] at heach
  exact .of_piece hlays.fits houtline.nested_eq (heach (hinherit hgood))

end Protocol

end Conversation

import Conversation.Proofs.FaultsInContext
import Conversation.Proofs.RegionsApart
import Conversation.Proofs.Shifts

namespace Conversation

mutual

theorem Activity.contribution_roles (mode : LoopMode) :
    ∀ (starts : Starts) (one : Activity) (due : Option State) (position : Position),
      (one.contribution mode starts due position).roles = one.references false
  | _, .interaction exchange, due, position => rfl
  | starts, .choice branches, _, position =>
      contributionOfChoices_roles mode starts none branches position
  | starts, .directedChoice sender receivers branches, _, position => by
      rw [Activity.contribution, Contribution.roles_append, contributionOfDirected_roles,
        Activity.references]
      rfl
  | _, .parallel branches, _, position => by
      rw [Activity.contribution, contributionOfRegions_eq]
      rfl
  | starts, .loop body, due, position => by
      have hbody := contributionOf_roles mode starts body due (position.enterLoop mode)
      rw [Activity.references, ← hbody]
      cases mode with
      | once => exact List.append_nil _
      | loop => exact List.append_nil _
  | starts, .recursion label body, due, position =>
      contributionOf_roles mode (starts.within label position.cursor) body due position
  | _, .call _, _, _ => rfl
  | starts, .escape body role handler, _, position => by
      rw [Activity.contribution, Contribution.roles_append, Contribution.roles_append,
        Contribution.roles_append, contributionOf_roles, contributionOf_roles, Activity.references]
      simp [Contribution.name, Contribution.mark, Contribution.empty]
  | _, .finish, _, _ => rfl

theorem contributionOf_roles (mode : LoopMode) :
    ∀ (starts : Starts) (list : List Activity) (due : Option State) (position : Position),
      (contributionOf mode starts list due position).roles = referencesOf false list
  | _, [], _, _ => rfl
  | starts, first :: rest, due, position => by
      rw [contributionOf, Contribution.roles_append, first.contribution_roles,
        contributionOf_roles mode starts rest, referencesOf]

theorem contributionOfChoices_roles (mode : LoopMode) :
    ∀ (starts : Starts) (exit : Option State) (branches : List (List Activity))
      (position : Position), (contributionOfChoices mode starts exit branches position).roles =
        referencesOfBranches false branches
  | _, _, [], _ => rfl
  | starts, exit, branch :: rest, position => by
      rw [contributionOfChoices, Contribution.roles_append, Contribution.roles_append,
        contributionOf_roles mode starts branch, contributionOfChoices_roles mode starts _ rest,
        referencesOfBranches]
      cases exit <;> simp [Position.joining, Contribution.place, Contribution.edge,
        Contribution.empty]

theorem contributionOfDirected_roles (mode : LoopMode) :
    ∀ (starts : Starts) (exit : Option State) (branches : List DirectedBranch)
      (position : Position), (contributionOfDirected mode starts exit branches position).roles =
        referencesOfDirected false branches
  | _, _, [], _ => rfl
  | starts, exit, .mk exchange body :: rest, position => by
      rw [contributionOfDirected]
      simp only [Contribution.roles_append, contributionOf_roles mode starts body,
        contributionOfDirected_roles mode starts _ rest, referencesOfDirected]
      cases exit <;> simp [Interaction.contribution, Position.joining, Contribution.place,
        Contribution.edge, Contribution.empty, Contribution.name, Contribution.interrupt,
        Contribution.select]

end

/-- A list of activities has a parallel branch, which may be nested in another. -/
inductive Nests : List Activity → List Activity → Prop
  | branch {list branch : List Activity} : branch ∈ parallelBranchesOf list → Nests list branch
  | inner {list outer branch : List Activity} :
      outer ∈ parallelBranchesOf list → Nests outer branch → Nests list branch

theorem Faultless.of_nests {mode : LoopMode} {list branch : List Activity}
    (hlist : Faultless mode list) (h : Nests list branch) : Faultless mode branch := by
  induction h with
  | branch hmem => exact faultless_of_mem_parallelBranchesOf _ hlist.faults_eq_nil hmem
  | inner hmem _ ih => exact ih (faultless_of_mem_parallelBranchesOf _ hlist.faults_eq_nil hmem)

namespace Automaton

/-- The automaton of a parallel branch is what the protocol compiles to, with these differences: its
states are shifted, it has no name, no checksum and no anchors, and of the roles only those to which
its own level refers; and where the activities end it is completed instead of marked as final. -/
def StandsFor (branch : Automaton) (alone : Protocol) (options : CompileOptions) : Prop :=
  ∃ result ended, alone.compile options = .ok result ∧
    Compiler.activities options.loops alone.activities alone.opening = .ok () ended ∧
    result = { ended.scopes.automaton.markFinal ended.scopes.cursor with
      name := some alone.name
      checksum := some alone.checksum
      roles := ended.roles
      anchors := ended.arena.anchors } ∧
    branch = { ended.scopes.automaton.rename (· + branch.initial) with
      name := none
      checksum := none
      roles := (referencesOf false alone.activities).foldl appendNew []
      anchors := [] }.complete (ended.scopes.cursor + branch.initial)
        (result.totalStateCount + branch.initial)

end Automaton

namespace Protocol

variable {protocol : Protocol} {options : CompileOptions} {automaton : Automaton}

theorem branchAutomaton_eq {ended : Build}
    (hposition : ended.position = afterAll options.loops protocol.activities (.fresh 0))
    (hended : ended.scopes.automaton = protocol.opening.scopes.automaton.extend
      (contributionOf options.loops (fun _ => none) protocol.activities none (.fresh 0)))
    (initial : State) :
    branchAutomaton options.loops protocol.activities initial =
      { ended.scopes.automaton.rename (· + initial) with
        name := none
        checksum := none
        roles := (referencesOf false protocol.activities).foldl appendNew []
        anchors := [] }.complete (ended.scopes.cursor + initial) (ended.arena.next + initial) := by
  have hfresh : Position.fresh initial = (Position.fresh 0).shift initial := by
    rw [Position.shift_fresh, Nat.zero_add]
  have hcontribution : contributionOf options.loops (fun _ => none) protocol.activities none
      ((Position.fresh 0).shift initial) =
        (contributionOf options.loops (fun _ => none) protocol.activities none (.fresh 0)).rename
          (· + initial) :=
    shift_contributionOf initial options.loops (fun _ => none) protocol.activities none (.fresh 0)
  have hroles := contributionOf_roles options.loops (fun _ => none) protocol.activities none
    (.fresh 0)
  obtain ⟨roles, hopening⟩ := protocol.fresh_opening.automaton_eq
  rw [hended, hopening, Automaton.rename_extend (strictMono_shift initial), ← hroles,
    branchAutomaton, hfresh, shift_afterAll, ← hposition, hcontribution, Contribution.automaton]
  refine congrArg (Automaton.complete · _ _) ?_
  simp [Automaton.extend, Automaton.rename, Automaton.single, renameRegions, Contribution.rename]

theorem standsFor_of_faultless {alone : Protocol}
    (h : Faultless options.loops alone.activities) (initial : State) :
    (branchAutomaton options.loops alone.activities initial).StandsFor alone options := by
  obtain ⟨result, hcompile⟩ := exists_compile_of_faultless h
  obtain ⟨ended, hactivities, hposition, hended, -, hresult⟩ := eq_of_compile hcompile
  have hnext : ended.arena.next = result.totalStateCount := by
    rw [← Automaton.length_allStates, (allStates_of_compile hcompile).length_eq, List.length_range,
      ← hposition]
    rfl
  refine ⟨result, ended, hcompile, hactivities, hresult, ?_⟩
  rw [← hnext]
  exact branchAutomaton_eq hposition hended initial

/-- Every parallel branch of a protocol that compiles also compiles on its own, and its automaton is
the one it compiles to then, shifted; so a protocol with a branch that does not compile does not
compile either. -/
theorem branches_stand_alone (protocol : Protocol) (options : CompileOptions) :
    (∀ automaton, protocol.compile options = .ok automaton →
      EachBranch (fun activities branch => ∀ alone : Protocol, alone.activities = activities →
        branch.StandsFor alone options) protocol.activities automaton) ∧
    ∀ alone : Protocol, Nests protocol.activities alone.activities →
      (∃ error, alone.compile options = .error error) →
        ∃ error, protocol.compile options = .error error := by
  constructor
  · intro automaton h
    obtain ⟨-, -, hnested⟩ := outermost_of_compile h
    refine @eachBranch_of_nested _ (Faultless options.loops) _ ?_ ?_ protocol.activities _ _
      (faultless_of_compile h) hnested
    · exact fun hlist branch => faultless_of_mem_parallelBranchesOf _ hlist.faults_eq_nil
    · rintro list hlist initial alone rfl
      exact standsFor_of_faultless hlist initial
  · rintro alone hnests ⟨error, halone⟩
    cases hcompile : protocol.compile options with
    | error found => exact ⟨found, rfl⟩
    | ok automaton =>
        obtain ⟨result, hresult⟩ :=
          exists_compile_of_faultless ((faultless_of_compile hcompile).of_nests hnests)
        rw [halone] at hresult
        cases hresult

end Protocol

/-- A call in a parallel branch does not reach the recursion around the region. -/
def stray : Protocol :=
  .bare "Stray" [.recursion "again" [.parallel [[.call "again"]]]]

theorem auction_branches :
    (∃ automaton, auction.compile ⟨.loop⟩ = .ok automaton ∧
      EachBranch (fun activities branch => ∀ alone : Protocol, alone.activities = activities →
        branch.StandsFor alone ⟨.loop⟩) auction.activities automaton) ∧
    ∃ error, stray.compile ⟨.loop⟩ = .error error := by
  constructor
  · have hok : (auction.compile ⟨.loop⟩).isOk = true := by decide +kernel
    obtain ⟨automaton, hcompile⟩ := Protocol.exists_eq_ok hok
    exact ⟨automaton, hcompile,
      (Protocol.branches_stand_alone auction ⟨.loop⟩).1 automaton hcompile⟩
  · have hnests : Nests stray.activities (Protocol.bare "Alone" [.call "again"]).activities :=
      .branch (List.mem_singleton_self _)
    exact (Protocol.branches_stand_alone stray ⟨.loop⟩).2 _ hnests ⟨.undefinedLabel "again", rfl⟩

end Conversation

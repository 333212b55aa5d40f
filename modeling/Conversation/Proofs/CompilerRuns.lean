import Mathlib.Tactic
import Conversation.Compiler

namespace Conversation

namespace Builder

variable {α β : Type}

theorem bind_eq_ok_iff {action : Builder α} {next : α → Builder β} {build final : Build}
    {result : β} :
    (action >>= next) build = .ok result final ↔
      ∃ value between, action build = .ok value between ∧ next value between = .ok result final := by
  simp only [bind, EStateM.bind]
  cases action build with
  | ok value between => simp
  | error error between => simp

theorem pure_eq_ok_iff {value result : α} {build final : Build} :
    (pure value : Builder α) build = .ok result final ↔ value = result ∧ build = final := by
  simp [pure, EStateM.pure]

theorem throw_ne_ok {error : BuildError} {result : α} {build final : Build} :
    (throw error : Builder α) build ≠ .ok result final := by
  intro h
  cases h

end Builder

/-- What the compiler can be asked to do: to compile an activity, a list of activities, or the
remaining branches of a construct. -/
inductive Work
  | activity (activity : Activity)
  | activities (activities : List Activity)
  | choiceBranches (start : State) (index : Nat) (branches : List (List Activity))
  | directedBranches (start : State) (index : Nat) (branches : List DirectedBranch)
  | parallelBranches (anchor : State) (index : Nat) (branches : List (List Activity))

open Compiler in
/-- The compiler does some work and gets from one state of the compilation to another. There is one
rule for each construct, with the actions before, between and after its parts; what every run
preserves is proved by induction on the rules. -/
inductive Runs (mode : LoopMode) : Work → Build → Build → Prop
  | nil {build : Build} : Runs mode (.activities []) build build
  | cons {first : Activity} {rest : List Activity} {build between final : Build} :
      Runs mode (.activity first) build between →
      Runs mode (.activities rest) between final →
      Runs mode (.activities (first :: rest)) build final
  | interaction {exchange : Interaction} {build final : Build} :
      Compiler.interaction exchange build = .ok () final →
      Runs mode (.activity (.interaction exchange)) build final
  | choice {branches : List (List Activity)} {start : State} {build opened closing final : Build} :
      branches ≠ [] → (∀ branch ∈ branches, branch ≠ []) →
      openChoice branches.length build = .ok start opened →
      Runs mode (.choiceBranches start 0 branches) opened closing →
      closeChoice start closing = .ok () final →
      Runs mode (.activity (.choice branches)) build final
  | directedChoice {sender : Role} {receivers : List Role} {branches : List DirectedBranch}
      {start : State} {build named₁ named₂ opened closing final : Build} :
      branches ≠ [] →
      firstRepeated [] (branches.map fun branch => branch.exchange.dispatchKey) = none →
      addRole sender build = .ok () named₁ →
      addRoles receivers named₁ = .ok () named₂ →
      openChoice branches.length named₂ = .ok start opened →
      Runs mode (.directedBranches start 0 branches) opened closing →
      closeChoice start closing = .ok () final →
      Runs mode (.activity (.directedChoice sender receivers branches)) build final
  | parallel {branches : List (List Activity)} {anchor join : State}
      {build opened closing final : Build} :
      branches ≠ [] → (∀ branch ∈ branches, branch ≠ []) →
      openParallel branches.length build = .ok (anchor, join) opened →
      Runs mode (.parallelBranches anchor 0 branches) opened closing →
      closeParallel anchor join closing = .ok () final →
      Runs mode (.activity (.parallel branches)) build final
  | loop {body : List Activity} {head : State} {build opened closing final : Build} :
      body ≠ [] →
      openLoop mode build = .ok head opened →
      Runs mode (.activities body) opened closing →
      closeLoop mode head closing = .ok () final →
      Runs mode (.activity (.loop body)) build final
  | recursion {label : String} {body : List Activity} {build opened closing final : Build} :
      body ≠ [] →
      openRecursion label build = .ok () opened →
      Runs mode (.activities body) opened closing →
      closeRecursion label closing = .ok () final →
      Runs mode (.activity (.recursion label body)) build final
  | call {label : String} {build final : Build} :
      Compiler.call label build = .ok () final →
      Runs mode (.activity (.call label)) build final
  | escape {body handler : List Activity} {role : Role}
      {build named anchored armed handled final : Build} :
      body ≠ [] → handler ≠ [] →
      requireLeading handler build = .ok () build →
      addRole role build = .ok () named →
      Runs mode (.activities body) named anchored →
      armInterrupt role anchored = .ok () armed →
      Runs mode (.activities handler) armed handled →
      disarmInterrupt handled = .ok () final →
      Runs mode (.activity (.escape body role handler)) build final
  | finish {build : Build} :
      Runs mode (.activity .finish) build (build.markFinal build.scopes.cursor)
  | choiceBranchesNil {start : State} {index : Nat} {build : Build} :
      Runs mode (.choiceBranches start index []) build build
  | choiceBranchesCons {start : State} {index : Nat} {branch : List Activity}
      {rest : List (List Activity)} {build entered ended converged final : Build} :
      enterChoiceBranch index start build = .ok () entered →
      Runs mode (.activities branch) entered ended →
      converge ended = .ok () converged →
      Runs mode (.choiceBranches start (index + 1) rest) converged final →
      Runs mode (.choiceBranches start index (branch :: rest)) build final
  | directedBranchesNil {start : State} {index : Nat} {build : Build} :
      Runs mode (.directedBranches start index []) build build
  | directedBranchesCons {start : State} {index : Nat} {exchange : Interaction}
      {body : List Activity} {rest : List DirectedBranch}
      {build entered selected registered ended converged final : Build} :
      enterChoiceBranch index start build = .ok () entered →
      Compiler.interaction exchange entered = .ok () selected →
      registerDispatch start exchange.dispatchKey selected = .ok () registered →
      Runs mode (.activities body) registered ended →
      converge ended = .ok () converged →
      Runs mode (.directedBranches start (index + 1) rest) converged final →
      Runs mode (.directedBranches start index (.mk exchange body :: rest)) build final
  | parallelBranchesNil {anchor : State} {index : Nat} {build : Build} :
      Runs mode (.parallelBranches anchor index []) build build
  | parallelBranchesCons {anchor : State} {index : Nat} {branch : List Activity}
      {rest : List (List Activity)} {build entered ended left final : Build} :
      enterParallelBranch anchor build = .ok () entered →
      Runs mode (.activities branch) entered ended →
      leaveParallelBranch index anchor ended = .ok () left →
      Runs mode (.parallelBranches anchor (index + 1) rest) left final →
      Runs mode (.parallelBranches anchor index (branch :: rest)) build final

namespace Compiler

theorem requireNonempty_eq_ok {α : Type} {which : RequiredList} {list : List α}
    {build final : Build} (h : requireNonempty which list build = .ok () final) :
    list ≠ [] ∧ final = build := by
  cases list with
  | nil => exact absurd h Builder.throw_ne_ok
  | cons first rest =>
      simp only [requireNonempty, Builder.pure_eq_ok_iff] at h
      exact ⟨by simp, h.2.symm⟩

theorem requireAllNonempty_eq_ok {α : Type} {which : RequiredList} {lists : List (List α)}
    {build final : Build} (h : requireAllNonempty which lists build = .ok () final) :
    (∀ list ∈ lists, list ≠ []) ∧ final = build := by
  induction lists generalizing build with
  | nil =>
      simp only [requireAllNonempty, Builder.pure_eq_ok_iff] at h
      exact ⟨by simp, h.2.symm⟩
  | cons list rest ih =>
      simp only [requireAllNonempty, Builder.bind_eq_ok_iff] at h
      obtain ⟨_, between, hlist, hrest⟩ := h
      obtain ⟨hne, rfl⟩ := requireNonempty_eq_ok hlist
      obtain ⟨hall, rfl⟩ := ih hrest
      refine ⟨?_, rfl⟩
      intro other hother
      rcases List.mem_cons.mp hother with rfl | hother
      · exact hne
      · exact hall other hother

theorem requireDistinctKeys_eq_ok {branches : List DirectedBranch} {build final : Build}
    (h : requireDistinctKeys branches build = .ok () final) :
    firstRepeated [] (branches.map fun branch => branch.exchange.dispatchKey) = none ∧
      final = build := by
  cases hkeys : firstRepeated [] (branches.map fun branch => branch.exchange.dispatchKey) with
  | some key =>
      rw [requireDistinctKeys, hkeys] at h
      exact absurd h Builder.throw_ne_ok
  | none =>
      rw [requireDistinctKeys, hkeys] at h
      exact ⟨rfl, (Builder.pure_eq_ok_iff.mp h).2.symm⟩

theorem requireLeading_eq_ok {handler : List Activity} {build final : Build}
    (h : requireLeading handler build = .ok () final) : final = build := by
  cases handler with
  | nil => exact (Builder.pure_eq_ok_iff.mp h).2.symm
  | cons first rest =>
      cases hleading : first.leadingInteraction with
      | ok exchange =>
          simp only [requireLeading, hleading] at h
          exact (Builder.pure_eq_ok_iff.mp h).2.symm
      | error found =>
          simp only [requireLeading, hleading] at h
          exact absurd h Builder.throw_ne_ok

mutual

theorem runs_of_activity {mode : LoopMode} : ∀ (work : Activity) {build final : Build},
    activity mode work build = .ok () final → Runs mode (.activity work) build final
  | .interaction _, _, _, h => .interaction h
  | .choice branches, build, final, h => by
      simp only [activity, Builder.bind_eq_ok_iff] at h
      obtain ⟨_, _, hlist, _, _, hlists, start, opened, hopen, _, closing, hbranches, hclose⟩ := h
      obtain ⟨hne, rfl⟩ := requireNonempty_eq_ok hlist
      obtain ⟨hall, rfl⟩ := requireAllNonempty_eq_ok hlists
      exact .choice hne hall hopen (runs_of_choiceBranches branches hbranches) hclose
  | .directedChoice sender receivers branches, build, final, h => by
      simp only [activity, Builder.bind_eq_ok_iff] at h
      obtain ⟨_, _, hlist, _, _, hdistinct, _, named₁, hsender, _, named₂, hreceivers, start, opened,
        hopen, _, closing, hbranches, hclose⟩ := h
      obtain ⟨hne, rfl⟩ := requireNonempty_eq_ok hlist
      obtain ⟨hkeys, rfl⟩ := requireDistinctKeys_eq_ok hdistinct
      exact .directedChoice hne hkeys hsender hreceivers hopen
        (runs_of_directedBranches branches hbranches) hclose
  | .parallel branches, build, final, h => by
      simp only [activity, Builder.bind_eq_ok_iff] at h
      obtain ⟨_, _, hlist, _, _, hlists, ⟨anchor, join⟩, opened, hopen, _, closing, hbranches,
        hclose⟩ := h
      obtain ⟨hne, rfl⟩ := requireNonempty_eq_ok hlist
      obtain ⟨hall, rfl⟩ := requireAllNonempty_eq_ok hlists
      exact .parallel hne hall hopen (runs_of_parallelBranches branches hbranches) hclose
  | .loop body, build, final, h => by
      simp only [activity, Builder.bind_eq_ok_iff] at h
      obtain ⟨_, _, hlist, head, opened, hopen, _, closing, hbody, hclose⟩ := h
      obtain ⟨hne, rfl⟩ := requireNonempty_eq_ok hlist
      exact .loop hne hopen (runs_of_activities body hbody) hclose
  | .recursion label body, build, final, h => by
      simp only [activity, Builder.bind_eq_ok_iff] at h
      obtain ⟨_, _, hlist, _, opened, hopen, _, closing, hbody, hclose⟩ := h
      obtain ⟨hne, rfl⟩ := requireNonempty_eq_ok hlist
      exact .recursion hne hopen (runs_of_activities body hbody) hclose
  | .call _, _, _, h => .call h
  | .escape body role handler, build, final, h => by
      simp only [activity, Builder.bind_eq_ok_iff] at h
      obtain ⟨_, _, hlist, _, _, hlist', _, _, hleading, _, named, hrole, _, anchored, hruns,
        _, armed, harm, _, handled, hhandled, hdisarm⟩ := h
      obtain ⟨hbody, rfl⟩ := requireNonempty_eq_ok hlist
      obtain ⟨hhandler, rfl⟩ := requireNonempty_eq_ok hlist'
      obtain rfl := requireLeading_eq_ok hleading
      exact .escape hbody hhandler hleading hrole (runs_of_activities body hruns) harm
        (runs_of_activities handler hhandled) hdisarm
  | .finish, build, final, h => by
      simp only [activity, Builder.bind_eq_ok_iff] at h
      obtain ⟨state, _, hcursor, hmark⟩ := h
      cases hcursor
      cases hmark
      exact .finish

theorem runs_of_activities {mode : LoopMode} : ∀ (list : List Activity) {build final : Build},
    activities mode list build = .ok () final → Runs mode (.activities list) build final
  | [], build, final, h => by
      simp only [activities, Builder.pure_eq_ok_iff, true_and] at h
      subst h
      exact .nil
  | first :: rest, build, final, h => by
      simp only [activities, Builder.bind_eq_ok_iff] at h
      obtain ⟨_, between, hfirst, hrest⟩ := h
      exact .cons (runs_of_activity first hfirst) (runs_of_activities rest hrest)

theorem runs_of_choiceBranches {mode : LoopMode} {start : State} :
    ∀ (branches : List (List Activity)) {index : Nat} {build final : Build},
      choiceBranches mode start index branches build = .ok () final →
        Runs mode (.choiceBranches start index branches) build final
  | [], index, build, final, h => by
      simp only [choiceBranches, Builder.pure_eq_ok_iff, true_and] at h
      subst h
      exact .choiceBranchesNil
  | branch :: rest, index, build, final, h => by
      simp only [choiceBranches, Builder.bind_eq_ok_iff] at h
      obtain ⟨_, entered, henter, _, ended, hbranch, _, converged, hconverge, hrest⟩ := h
      exact .choiceBranchesCons henter (runs_of_activities branch hbranch) hconverge
        (runs_of_choiceBranches rest hrest)

theorem runs_of_directedBranches {mode : LoopMode} {start : State} :
    ∀ (branches : List DirectedBranch) {index : Nat} {build final : Build},
      directedBranches mode start index branches build = .ok () final →
        Runs mode (.directedBranches start index branches) build final
  | [], index, build, final, h => by
      simp only [directedBranches, Builder.pure_eq_ok_iff, true_and] at h
      subst h
      exact .directedBranchesNil
  | .mk exchange body :: rest, index, build, final, h => by
      simp only [directedBranches, Builder.bind_eq_ok_iff] at h
      obtain ⟨_, entered, henter, _, selected, hselect, _, registered, hregister, _, ended, hbody,
        _, converged, hconverge, hrest⟩ := h
      exact .directedBranchesCons henter hselect hregister (runs_of_activities body hbody)
        hconverge (runs_of_directedBranches rest hrest)

theorem runs_of_parallelBranches {mode : LoopMode} {anchor : State} :
    ∀ (branches : List (List Activity)) {index : Nat} {build final : Build},
      parallelBranches mode anchor index branches build = .ok () final →
        Runs mode (.parallelBranches anchor index branches) build final
  | [], index, build, final, h => by
      simp only [parallelBranches, Builder.pure_eq_ok_iff, true_and] at h
      subst h
      exact .parallelBranchesNil
  | branch :: rest, index, build, final, h => by
      simp only [parallelBranches, Builder.bind_eq_ok_iff] at h
      obtain ⟨_, entered, henter, _, ended, hbranch, _, left, hleave, hrest⟩ := h
      exact .parallelBranchesCons henter (runs_of_activities branch hbranch) hleave
        (runs_of_parallelBranches rest hrest)

end

end Compiler

end Conversation

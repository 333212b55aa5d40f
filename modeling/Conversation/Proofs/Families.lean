import Conversation.Proofs.Registrations

namespace Conversation

namespace Automaton

theorem familyOfBranches_eq (branches : List Automaton) :
    familyOfBranches branches = branches.flatMap family := by
  induction branches with
  | nil => rfl
  | cons branch rest ih => rw [familyOfBranches, List.flatMap_cons, ih]

theorem familyOfRegions_eq (regions : List (State × List Automaton)) :
    familyOfRegions regions = (regions.flatMap Prod.snd).flatMap family := by
  induction regions with
  | nil => rfl
  | cons region rest ih =>
      obtain ⟨anchor, branches⟩ := region
      rw [familyOfRegions, familyOfBranches_eq, List.flatMap_cons, List.flatMap_append, ih]

theorem family_eq (automaton : Automaton) :
    automaton.family = automaton :: automaton.branches.flatMap family := by
  cases automaton
  rw [family, familyOfRegions_eq]
  rfl

theorem sizeOf_lt_of_mem_branches {automaton branch : Automaton}
    (h : branch ∈ automaton.branches) : sizeOf branch < sizeOf automaton := by
  obtain ⟨region, hregion, hbranch⟩ := List.mem_flatMap.mp h
  have hbranches := List.sizeOf_lt_of_mem hbranch
  have hregions := List.sizeOf_lt_of_mem hregion
  obtain ⟨anchor, branches⟩ := region
  cases automaton
  simp only [Prod.mk.sizeOf_spec, Automaton.mk.sizeOf_spec] at *
  omega

theorem self_mem_family (automaton : Automaton) : automaton ∈ automaton.family := by
  rw [family_eq]
  exact List.mem_cons_self ..

theorem branch_family_subset {automaton branch : Automaton} (h : branch ∈ automaton.branches) :
    branch.family ⊆ automaton.family := by
  rw [automaton.family_eq]
  intro member hmember
  exact List.mem_cons_of_mem _ (List.mem_flatMap.mpr ⟨branch, h, hmember⟩)

theorem family_subset {automaton member : Automaton} (h : member ∈ automaton.family) :
    member.family ⊆ automaton.family := by
  rw [automaton.family_eq, List.mem_cons] at h
  rcases h with rfl | h
  · exact List.Subset.refl _
  · obtain ⟨branch, hbranch, hmember⟩ := List.mem_flatMap.mp h
    have := sizeOf_lt_of_mem_branches hbranch
    exact List.Subset.trans (family_subset hmember) (branch_family_subset hbranch)
termination_by sizeOf automaton

end Automaton

theorem forall₂_imp_of_mem {α β : Type} {related related' : α → β → Prop} {as : List α}
    {bs : List β} (himp : ∀ a, ∀ b ∈ bs, related a b → related' a b) (h : List.Forall₂ related as bs) :
    List.Forall₂ related' as bs := by
  induction h with
  | nil => exact .nil
  | cons hhead _ ih =>
      refine .cons (himp _ _ (List.mem_cons_self ..) hhead) (ih ?_)
      intro a b hb
      exact himp a b (List.mem_cons_of_mem _ hb)

theorem exists_of_forall₂ {α β : Type} {related : α → β → Prop} {as : List α} {bs : List β}
    (h : List.Forall₂ related as bs) {b : β} (hb : b ∈ bs) : ∃ a, related a b := by
  induction h with
  | nil => exact absurd hb (List.not_mem_nil)
  | cons hhead _ ih =>
      rcases List.mem_cons.mp hb with rfl | hb
      · exact ⟨_, hhead⟩
      · exact ih hb

namespace EachBranch

variable {holds : List Activity → Automaton → Prop}

theorem imp {holds' : List Activity → Automaton → Prop}
    (himp : ∀ {activities automaton}, holds activities automaton → holds' activities automaton)
    {activities : List Activity} {automaton : Automaton}
    (h : EachBranch holds activities automaton) : EachBranch holds' activities automaton := by
  obtain ⟨branches, hperm, hascending, hholds, heach⟩ := h
  refine .intro branches hperm hascending (hholds.imp fun _ _ => himp) ?_
  refine forall₂_imp_of_mem ?_ heach
  intro branch nested hnested hbranch
  have := Automaton.sizeOf_lt_of_mem_branches (hperm.mem_iff.mp hnested)
  exact hbranch.imp himp
termination_by sizeOf automaton

theorem forall_family {good : Automaton → Prop}
    (hgood : ∀ {activities automaton}, holds activities automaton → good automaton)
    {activities : List Activity} {automaton : Automaton}
    (h : EachBranch holds activities automaton) :
    ∀ member ∈ automaton.branches.flatMap Automaton.family, good member := by
  obtain ⟨branches, hperm, -, hholds, heach⟩ := h
  intro member hmember
  obtain ⟨branch, hbranch, hmember⟩ := List.mem_flatMap.mp hmember
  have hlt := Automaton.sizeOf_lt_of_mem_branches hbranch
  obtain ⟨list, hlist⟩ := exists_of_forall₂ hholds (hperm.mem_iff.mpr hbranch)
  obtain ⟨list', hlist'⟩ := exists_of_forall₂ heach (hperm.mem_iff.mpr hbranch)
  rw [Automaton.family_eq, List.mem_cons] at hmember
  rcases hmember with rfl | hmember
  · exact hgood hlist
  · exact hlist'.forall_family hgood member hmember
termination_by sizeOf automaton

end EachBranch

theorem Build.Fresh.addRole {build : Build} {initial : State} (h : build.Fresh initial)
    (role : Role) : (build.addRole role).Fresh initial where
  automaton_eq := by
    obtain ⟨roles, heq⟩ := h.automaton_eq
    exact ⟨appendNew roles role, congrArg (Automaton.addRole · role) heq⟩
  position_eq := h.position_eq
  choices_eq := h.choices_eq
  pending_eq := h.pending_eq
  level := h.level
  resolveRecursion_eq := h.resolveRecursion_eq

theorem Build.Fresh.addRoles {build : Build} {initial : State} (h : build.Fresh initial)
    (roles : List Role) : (roles.foldl Build.addRole build).Fresh initial := by
  induction roles generalizing build with
  | nil => exact h
  | cons role rest ih => exact ih (h.addRole role)

namespace Protocol

variable {protocol : Protocol} {options : CompileOptions}

/-- The state in which the compilation of the activities of a protocol starts. -/
def opening (protocol : Protocol) : Build :=
  (protocol.viewpoint.toList ++ protocol.roles).foldl Build.addRole (Build.start false)

def openingRecording (protocol : Protocol) (recording : Bool) : Build :=
  (protocol.viewpoint.toList ++ protocol.roles).foldl Build.addRole
    ((Build.start recording).record (.protocolEntered protocol.name))

theorem fresh_openingRecording (protocol : Protocol) (recording : Bool) :
    (protocol.openingRecording recording).Fresh 0 := by
  apply Build.Fresh.addRoles
  cases recording <;> exact ⟨⟨[], rfl⟩, rfl, rfl, rfl, rfl, fun _ => rfl⟩

theorem fresh_opening (protocol : Protocol) : protocol.opening.Fresh 0 :=
  protocol.fresh_openingRecording false

theorem activities_ne_nil_of_compile {automaton : Automaton}
    (h : protocol.compile options = .ok automaton) : protocol.activities ≠ [] := by
  intro hempty
  rw [compile, compileRecording, EStateM.run, Compiler.protocol, hempty] at h
  cases h

/-- A compilation that succeeds runs through the activities and marks as final where they end; what
it has recorded then is complete but for the end of the protocol. -/
theorem activities_of_compileRecording {recording : Bool} {automaton : Automaton}
    (h : (protocol.compileRecording options recording).1 = .ok automaton) :
    ∃ ended,
      Compiler.activities options.loops protocol.activities (protocol.openingRecording recording) =
        .ok () ended ∧
      automaton = { ended.scopes.automaton.markFinal ended.scopes.cursor with
        name := some protocol.name
        checksum := some protocol.checksum
        roles := ended.roles
        anchors := ended.arena.anchors } ∧
      (protocol.compileRecording options recording).2 =
        ((ended.markFinal ended.scopes.cursor).record (.protocolLeft automaton.totalStateCount
          automaton.transitions.length)).events.reverse := by
  unfold compileRecording at h ⊢
  split at h
  · next final hrun =>
      simp only [Except.ok.injEq] at h
      simp only [Compiler.protocol, EStateM.run, Builder.bind_eq_ok_iff, Compiler.addRoles_eq]
        at hrun
      obtain ⟨_, _, hrecord, _, _, hlist, _, _, hroles, _, ended, hactivities, _, _, hcursor,
        hmark⟩ := hrun
      obtain ⟨-, rfl⟩ := Compiler.requireNonempty_eq_ok hlist
      cases hrecord
      cases hroles
      cases hcursor
      cases hmark
      have hruns : Runs options.loops (.activities protocol.activities)
          (protocol.openingRecording recording) ended :=
        Compiler.runs_of_activities _ hactivities
      obtain ⟨piece, hgrows⟩ :=
        hruns.grows_of_activities (protocol.fresh_openingRecording recording).level
      have hopening : (protocol.openingRecording recording).scopes.suspended = [] :=
        (((Build.start recording).grows_refl.record (.protocolEntered protocol.name)).addRoles
          (Compiler.addRoles_eq _ _)).suspended_eq
      have hsuspended : ended.scopes.suspended = [] := hgrows.suspended_eq.trans hopening
      have hnames : (ended.markFinal ended.scopes.cursor).roles = ended.roles := by
        rw [Build.markFinal, Build.record]
        split <;> rfl
      have hautomaton := h.symm
      simp only [Build.finished, ScopeStack.root, Build.scopes_markFinal, hsuspended, hnames,
        ScopeStack.modifyAutomaton, Build.arena_markFinal, List.getLast?_nil, Option.getD_none]
        at hautomaton
      exact ⟨ended, hactivities, hautomaton, by rw [← h]⟩
  · cases h

/-- A compiled automaton is what compiling the activities from the opening has built, with a final
mark where they end. -/
theorem activities_of_compile {automaton : Automaton}
    (h : protocol.compile options = .ok automaton) :
    ∃ ended,
      Compiler.activities options.loops protocol.activities protocol.opening = .ok () ended ∧
      automaton = { ended.scopes.automaton.markFinal ended.scopes.cursor with
        name := some protocol.name
        checksum := some protocol.checksum
        roles := ended.roles
        anchors := ended.arena.anchors } := by
  obtain ⟨ended, hactivities, hautomaton, -⟩ := activities_of_compileRecording h
  exact ⟨ended, hactivities, hautomaton⟩

theorem exists_run_of_compile {automaton : Automaton}
    (h : protocol.compile options = .ok automaton) :
    ∃ ended, Runs options.loops (.activities protocol.activities) protocol.opening ended ∧
      automaton.initial = 0 ∧
      automaton = { ended.scopes.automaton.markFinal ended.scopes.cursor with
        name := some protocol.name
        checksum := some protocol.checksum
        roles := ended.roles
        anchors := ended.arena.anchors } := by
  obtain ⟨ended, hactivities, hautomaton⟩ := activities_of_compile h
  have hruns := Compiler.runs_of_activities _ hactivities
  obtain ⟨piece, hgrows⟩ := hruns.grows_of_activities protocol.fresh_opening.level
  refine ⟨ended, hruns, ?_, hautomaton⟩
  obtain ⟨roles, hopening⟩ := protocol.fresh_opening.automaton_eq
  rw [hautomaton]
  change ended.scopes.automaton.initial = 0
  rw [hgrows.automaton_grows.initial_eq, hopening]
  rfl

/-- A compilation fails because there is nothing to compile, or while it compiles the activities. -/
theorem compile_eq_error {error : BuildError} (h : protocol.compile options = .error error) :
    protocol.activities = [] ∧ error = .emptyList .protocol ∨
      protocol.activities ≠ [] ∧ ∃ failed,
        Compiler.activities options.loops protocol.activities protocol.opening =
          .error error failed := by
  rw [compile, compileRecording] at h
  split at h
  · cases h
  · next found final hrun =>
      simp only [Except.error.injEq] at h
      subst h
      have hrecord : Compiler.record (.protocolEntered protocol.name) (Build.start false) =
          .ok ⟨⟩ (Build.start false) := rfl
      rw [EStateM.run, Compiler.protocol, Builder.bind_of_ok hrecord] at hrun
      cases hactivities : protocol.activities with
      | nil =>
          rw [hactivities] at hrun
          cases hrun
          exact .inl ⟨rfl, rfl⟩
      | cons first rest =>
          have hlist : Compiler.requireNonempty .protocol protocol.activities (Build.start false) =
              .ok () (Build.start false) := by
            rw [hactivities]
            rfl
          rw [Builder.bind_of_ok hlist, Builder.bind_of_ok (Compiler.addRoles_eq _ _),
            Builder.bind_eq_error_iff] at hrun
          rcases hrun with hrun | ⟨_, ended, -, hrun⟩
          · refine .inr ⟨by simp, final, ?_⟩
            rw [← hactivities]
            exact hrun
          · cases hrun

theorem ready_opening (protocol : Protocol) (list : List Activity) :
    protocol.opening.Ready (.activities list) :=
  .of_idle protocol.fresh_opening.level protocol.fresh_opening.pending_eq trivial

/-- Every automaton of a parallel branch, at any depth, is built from that branch. -/
theorem eachBranch_builds {automaton : Automaton} (h : protocol.compile options = .ok automaton) :
    EachBranch (Builds options.loops) protocol.activities automaton := by
  obtain ⟨ended, hruns, -, rfl⟩ := exists_run_of_compile h
  obtain ⟨-, hregisters⟩ := hruns.registers (protocol.ready_opening _)
  obtain ⟨piece, hfits, hnested, hbuilt⟩ := hregisters.nested
  obtain ⟨roles, hautomaton⟩ := protocol.fresh_opening.automaton_eq
  rw [hautomaton] at hnested
  exact .of_piece hfits hnested hbuilt

end Protocol

end Conversation

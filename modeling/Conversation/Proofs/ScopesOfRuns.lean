import Conversation.Proofs.Faults

namespace Conversation

def Build.Tracks (build : Build) (scopes : List OpenScope) : Prop :=
  Conversation.Tracks build.scopes.suspended.length build.scopes.frames scopes

def Work.labels : Work → List String
  | .activity one => one.labels
  | .activities list => labelsOf list
  | .choiceBranches _ _ branches => labelsOfChoices branches
  | .directedBranches _ _ branches => labelsOfDirected branches
  | .parallelBranches .. => []

theorem Build.Tracks.level {build : Build} {scopes : List OpenScope} (h : build.Tracks scopes) :
    build.Level :=
  Conversation.Tracks.owner_eq h

/-- The form of all actions that neither open nor close a frame. -/
theorem Build.Tracks.of_current {build build' : Build} {scopes : List OpenScope}
    (h : build.Tracks scopes) (hkind : build'.scopes.current.kind = build.scopes.current.kind)
    (howner : build'.scopes.current.owner = build.scopes.current.owner)
    (hrecursions : build'.scopes.current.recursions = build.scopes.current.recursions)
    (hsuspended : build'.scopes.suspended = build.scopes.suspended)
    (henclosing : build'.scopes.enclosing = build.scopes.enclosing) : build'.Tracks scopes := by
  rw [Tracks, ScopeStack.frames, hsuspended, henclosing]
  exact Conversation.Tracks.congr_head h hkind howner hrecursions

namespace Build.Tracks

variable {mode : LoopMode} {build build' : Build} {scopes : List OpenScope}

theorem congr (h : build.Tracks scopes) (hscopes : build'.scopes = build.scopes) :
    build'.Tracks scopes := by
  rwa [Tracks, hscopes]

theorem connect (h : build.Tracks scopes) (transition : Transition) :
    (build.connect transition).Tracks scopes := by
  apply h.of_current <;> simp [ScopeStack.modifyAutomaton]

theorem markFinal (h : build.Tracks scopes) (state : State) :
    (build.markFinal state).Tracks scopes := by
  apply h.of_current <;> simp [ScopeStack.modifyAutomaton]

theorem setCursor (h : build.Tracks scopes) (state : State) :
    (build.modifyScopes fun scopes => scopes.setCursor state).Tracks scopes := by
  apply h.of_current <;> simp [ScopeStack.setCursor]

theorem record (h : build.Tracks scopes) (event : Event) : (build.record event).Tracks scopes :=
  h.congr (Build.scopes_record _ _)

theorem newState (h : build.Tracks scopes) : build.newState.2.Tracks scopes := by
  apply h.of_current <;> rfl

theorem addRole (h : build.Tracks scopes) (role : Role) : (build.addRole role).Tracks scopes := by
  apply h.of_current <;> rfl

theorem addRoles (h : build.Tracks scopes) (roles : List Role) :
    (roles.foldl Build.addRole build).Tracks scopes := by
  induction roles generalizing build with
  | nil => exact h
  | cons role rest ih => exact ih (h.addRole role)

theorem interaction (h : build.Tracks scopes) {exchange : Interaction}
    (hrun : Compiler.interaction exchange build = .ok () build') : build'.Tracks scopes := by
  obtain ⟨registered, hregister, rfl⟩ := Compiler.interaction_eq_ok_iff.mp hrun
  refine Tracks.setCursor (Tracks.connect ?_ _) _
  have hnamed := h.newState.addRole exchange.partner
  rcases Compiler.registerInterrupt_eq_ok_iff.mp hregister with ⟨-, rfl⟩ | ⟨anchor, -, -, rfl⟩
  · exact hnamed
  · refine Tracks.record ?_ _
    exact hnamed.of_current rfl rfl rfl rfl rfl

theorem converge (h : build.Tracks scopes) (hrun : Compiler.converge build = .ok () build') :
    build'.Tracks scopes := by
  cases hexit : build.exit? with
  | none =>
      rw [Compiler.converge_of_none hexit] at hrun
      cases hrun
      refine Tracks.connect ?_ _
      refine h.newState.of_current ?_ ?_ ?_ ?_ ?_ <;>
        simp only [Build.scopes_modifyScopes, ScopeStack.setChoiceExit] <;> split <;> rfl
  | some exit =>
      rw [Compiler.converge_of_some hexit] at hrun
      cases hrun
      exact h.connect _

theorem openRecursion (h : build.Tracks scopes) {label : String}
    (hrun : Compiler.openRecursion label build = .ok () build') :
    build'.Tracks (⟨.recursion label build.scopes.cursor, []⟩ :: scopes) := by
  obtain ⟨-, hscopes⟩ := Compiler.openRecursion_eq_ok hrun
  rw [Tracks, hscopes]
  exact ScopeStack.tracks_apply h (.enterRecursion label build.scopes.cursor)

theorem enterParallelBranch (h : build.Tracks scopes) {anchor : State}
    (hrun : Compiler.enterParallelBranch anchor build = .ok () build') :
    build'.Tracks (⟨.branch, []⟩ :: scopes) := by
  obtain ⟨-, hscopes⟩ := Compiler.enterParallelBranch_eq_ok hrun
  rw [Tracks, hscopes]
  exact ScopeStack.tracks_apply h (.enterBranch anchor _)

theorem openChoice (h : build.Tracks scopes) {branches : Nat} {start : State}
    (hrun : Compiler.openChoice branches build = .ok start build') : build'.Tracks scopes := by
  rw [Compiler.openChoice_eq] at hrun
  cases hrun
  apply (h.record _).of_current <;> rfl

theorem enterChoiceBranch (h : build.Tracks scopes) {index : Nat} {start : State}
    (hrun : Compiler.enterChoiceBranch index start build = .ok () build') :
    build'.Tracks scopes := by
  rw [Compiler.enterChoiceBranch_eq] at hrun
  cases hrun
  exact (h.setCursor start).record _

theorem closeChoice (h : build.Tracks scopes) {start : State}
    (hrun : Compiler.closeChoice start build = .ok () build') : build'.Tracks scopes := by
  rw [Compiler.closeChoice_eq] at hrun
  cases hrun
  refine Tracks.record ?_ _
  apply h.of_current <;> rfl

theorem registerDispatch (h : build.Tracks scopes) {state : State} {key : DispatchKey}
    (hrun : Compiler.registerDispatch state key build = .ok () build') : build'.Tracks scopes := by
  rw [Compiler.registerDispatch_eq] at hrun
  cases hrun
  refine Tracks.record ?_ _
  apply h.of_current <;> rfl

theorem openLoop (h : build.Tracks scopes) {head : State}
    (hrun : Compiler.openLoop mode build = .ok head build') : build'.Tracks scopes := by
  cases mode with
  | once =>
      rw [Compiler.openLoop_once_eq] at hrun
      cases hrun
      exact h.record _
  | loop =>
      rw [Compiler.openLoop_loop_eq] at hrun
      cases hrun
      exact ((h.newState.connect _).setCursor _).record _

theorem closeLoop (h : build.Tracks scopes) {head : State}
    (hrun : Compiler.closeLoop mode head build = .ok () build') : build'.Tracks scopes := by
  cases mode with
  | once =>
      rw [Compiler.closeLoop_once_eq] at hrun
      cases hrun
      exact h.record _
  | loop =>
      rw [Compiler.closeLoop_loop_eq] at hrun
      cases hrun
      exact (h.connect _).record _

theorem call (h : build.Tracks scopes) {label : String}
    (hrun : Compiler.call label build = .ok () build') : build'.Tracks scopes := by
  obtain ⟨start, -, rfl⟩ := Compiler.call_eq_ok_iff.mp hrun
  exact ((h.connect _).record _).newState.setCursor _

theorem armInterrupt (h : build.Tracks scopes) {role : Role}
    (hrun : Compiler.armInterrupt role build = .ok () build') : build'.Tracks scopes := by
  obtain ⟨-, rfl⟩ := Compiler.armInterrupt_eq_ok_iff.mp hrun
  refine Tracks.record ?_ _
  exact (h.markFinal _).congr rfl

theorem closeRecursion {label : String} {start : State} {closed : List String}
    (h : build.Tracks (⟨.recursion label start, closed⟩ :: scopes)) (hscopes : scopes ≠ [])
    (hrun : Compiler.closeRecursion label build = .ok () build') :
    build'.Tracks (closeAll (label :: closed) scopes) := by
  have happly := ScopeStack.tracks_apply h .exitRecursion
  have hfinal : build'.scopes = build.scopes.apply .exitRecursion := by
    rw [Compiler.closeRecursion, Builder.get_bind] at hrun
    rw [ScopeStack.apply]
    cases hexit : build.scopes.exitRecursion with
    | none =>
        rw [hexit] at hrun
        cases hrun
        exact Build.scopes_record _ _
    | some closed =>
        rw [hexit] at hrun
        cases hrun
        exact Build.scopes_record _ _
  rw [Tracks, hfinal]
  cases scopes with
  | nil => exact absurd rfl hscopes
  | cons scope scopes => exact happly

theorem ne_nil (h : build.Tracks scopes) : scopes ≠ [] := by
  rw [Tracks] at h
  generalize build.scopes.suspended.length = level, build.scopes.frames = frames at h
  cases h <;> simp

end Build.Tracks

/-- A run leaves the scopes open that were open before it, and closes the recursions of its work in
the innermost of them. -/
theorem Runs.tracks {mode : LoopMode} {work : Work} {build build' : Build}
    (h : Runs mode work build build') {scopes : List OpenScope} (htracks : build.Tracks scopes) :
    build'.Tracks (closeAll work.labels scopes) := by
  induction h generalizing scopes with
  | nil =>
      rw [Work.labels, labelsOf, closeAll_nil]
      exact htracks
  | cons _ _ ih₁ ih₂ =>
      rw [Work.labels, labelsOf, closeAll_append]
      exact ih₂ (ih₁ htracks)
  | interaction hrun =>
      rw [Work.labels, Activity.labels, closeAll_nil]
      exact htracks.interaction hrun
  | choice _ _ hopen _ hclose ih => exact (ih (htracks.openChoice hopen)).closeChoice hclose
  | directedChoice _ _ hsender hreceivers hopen _ hclose ih =>
      rw [Compiler.addRoles_eq] at hreceivers
      cases hsender
      cases hreceivers
      exact (ih (((htracks.addRole _).addRoles _).openChoice hopen)).closeChoice hclose
  | parallel _ _ hopen _ hclose ih =>
      rw [Work.labels, Activity.labels, closeAll_nil]
      rw [Compiler.openParallel_eq] at hopen
      rw [Compiler.closeParallel_eq] at hclose
      cases hopen
      cases hclose
      have hbranches := ih (htracks.newState.record _)
      rw [Work.labels, closeAll_nil] at hbranches
      exact ((hbranches.connect _).setCursor _).record _
  | loop _ hopen _ hclose ih => exact (ih (htracks.openLoop hopen)).closeLoop hclose
  | recursion _ hopen _ hclose ih =>
      have hbody := ih (htracks.openRecursion hopen)
      rw [closeAll, List.append_nil] at hbody
      exact hbody.closeRecursion htracks.ne_nil hclose
  | call hrun =>
      rw [Work.labels, Activity.labels, closeAll_nil]
      exact htracks.call hrun
  | escape _ _ _ hrole _ harm _ hdisarm ih₁ ih₂ =>
      cases hrole
      cases hdisarm
      rw [Work.labels, Activity.labels, closeAll_append]
      exact (ih₂ ((ih₁ (htracks.addRole _)).armInterrupt harm)).congr rfl
  | finish =>
      rw [Work.labels, Activity.labels, closeAll_nil]
      exact htracks.markFinal _
  | choiceBranchesNil =>
      rw [Work.labels, labelsOfChoices, closeAll_nil]
      exact htracks
  | choiceBranchesCons henter _ hconverge _ ih₁ ih₂ =>
      rw [Work.labels, labelsOfChoices, closeAll_append]
      exact ih₂ ((ih₁ (htracks.enterChoiceBranch henter)).converge hconverge)
  | directedBranchesNil =>
      rw [Work.labels, labelsOfDirected, closeAll_nil]
      exact htracks
  | directedBranchesCons henter hselect hregister _ hconverge _ ih₁ ih₂ =>
      rw [Work.labels, labelsOfDirected, closeAll_append]
      have hselected := (htracks.enterChoiceBranch henter).interaction hselect
      exact ih₂ ((ih₁ (hselected.registerDispatch hregister)).converge hconverge)
  | parallelBranchesNil => exact (closeAll_nil scopes).symm ▸ htracks
  | @parallelBranchesCons anchor index branch others build entered ended left final henter hbranch
      hleave _ _ ih₂ =>
      have hlevel := (htracks.enterParallelBranch henter).level
      obtain ⟨piece, hgrows⟩ := hbranch.grows_of_activities hlevel
      obtain ⟨-, -, hscopes⟩ := Compiler.leaveParallelBranch_eq_of_grows henter hgrows hleave
      refine ih₂ (htracks.of_current ?_ ?_ ?_ ?_ ?_) <;> rw [hscopes]

end Conversation

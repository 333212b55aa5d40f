import Conversation.Proofs.Contribution

namespace Conversation

theorem prefix_foldl_appendNew {α : Type} [DecidableEq α] (list elements : List α) :
    list <+: elements.foldl appendNew list := by
  induction elements generalizing list with
  | nil => exact List.prefix_rfl
  | cons element rest ih =>
      refine List.IsPrefix.trans ?_ (ih (appendNew list element))
      rw [appendNew]
      split
      · exact List.prefix_rfl
      · exact List.prefix_append _ _

/-- Whatever stood in the automaton keeps its place, and what is new stands behind it. -/
structure Automaton.Continues (automaton automaton' : Automaton) : Prop where
  states : automaton.states <+: automaton'.states
  transitions : automaton.transitions <+: automaton'.transitions
  interrupts : automaton.interrupts <+: automaton'.interrupts
  finals : automaton.finals ⊆ automaton'.finals
  roles : automaton.roles <+: automaton'.roles
  nested : ∀ state, automaton.branchesAt state <+: automaton'.branchesAt state
  dispatch : ∀ state, automaton.dispatchAt state <+: automaton'.dispatchAt state
  initial_eq : automaton'.initial = automaton.initial

namespace Automaton

theorem Continues.refl (automaton : Automaton) : automaton.Continues automaton where
  states := List.prefix_rfl
  transitions := List.prefix_rfl
  interrupts := List.prefix_rfl
  finals := List.Subset.refl _
  roles := List.prefix_rfl
  nested _ := List.prefix_rfl
  dispatch _ := List.prefix_rfl
  initial_eq := rfl

theorem Continues.trans {automaton automaton' automaton'' : Automaton}
    (h : automaton.Continues automaton') (h' : automaton'.Continues automaton'') :
    automaton.Continues automaton'' where
  states := h.states.trans h'.states
  transitions := h.transitions.trans h'.transitions
  interrupts := h.interrupts.trans h'.interrupts
  finals := List.Subset.trans h.finals h'.finals
  roles := h.roles.trans h'.roles
  nested state := (h.nested state).trans (h'.nested state)
  dispatch state := (h.dispatch state).trans (h'.dispatch state)
  initial_eq := h'.initial_eq.trans h.initial_eq

theorem continues_extend (automaton : Automaton) (contribution : Contribution) :
    automaton.Continues (automaton.extend contribution) where
  states := List.prefix_append _ _
  transitions := List.prefix_append _ _
  interrupts := List.prefix_append _ _
  finals _ hstate := mem_foldl_insert.mpr (.inl hstate)
  roles := prefix_foldl_appendNew _ _
  nested state := by
    rw [branchesAt, branchesAt, extend, Table.listAt_extend]
    exact List.prefix_append _ _
  dispatch state := by
    rw [dispatchAt, dispatchAt, extend, Table.listAt_extend]
    exact List.prefix_append _ _
  initial_eq := rfl

section Steps

variable (automaton : Automaton)

theorem continues_addState (state : State) : automaton.Continues (automaton.addState state) :=
  extend_place automaton state ▸ automaton.continues_extend _

theorem continues_addTransition (transition : Transition) :
    automaton.Continues (automaton.addTransition transition) :=
  extend_edge automaton transition ▸ automaton.continues_extend _

theorem continues_markFinal (state : State) : automaton.Continues (automaton.markFinal state) :=
  extend_mark automaton state ▸ automaton.continues_extend _

theorem continues_addRole (role : Role) : automaton.Continues (automaton.addRole role) := by
  have hextended := automaton.continues_extend (.name [role])
  rw [extend_name] at hextended
  exact hextended

theorem continues_addBranch (anchor : State) (branch : Automaton) :
    automaton.Continues (automaton.addBranch anchor branch) :=
  extend_branch automaton anchor branch ▸ automaton.continues_extend _

theorem continues_addInterrupt (anchor : State) (transition : Transition) :
    automaton.Continues (automaton.addInterrupt ⟨anchor, transition⟩) :=
  extend_interrupt_some automaton anchor transition ▸ automaton.continues_extend _

theorem continues_addDispatch (state : State) (entry : DispatchEntry) :
    automaton.Continues (automaton.addDispatch state entry) :=
  extend_select automaton state entry ▸ automaton.continues_extend _

end Steps

end Automaton

/-- The frame has learned of labels that it did not know, and they are inactive. -/
def Frame.Learns (frame frame' : Frame) : Prop :=
  ∃ learned, frame'.recursions = frame.recursions ++ learned ∧
    ∀ entry ∈ learned, frame.find? entry.1 = none ∧ entry.2.active = false

theorem Frame.Learns.of_eq {frame frame' : Frame} (h : frame'.recursions = frame.recursions) :
    frame.Learns frame' :=
  ⟨[], by rw [h, List.append_nil], by simp⟩

theorem Frame.Learns.trans {frame frame' frame'' : Frame} (h : frame.Learns frame')
    (h' : frame'.Learns frame'') : frame.Learns frame'' := by
  obtain ⟨learned, heq, hlearned⟩ := h
  obtain ⟨learned', heq', hlearned'⟩ := h'
  refine ⟨learned ++ learned', by rw [heq', heq, List.append_assoc], ?_⟩
  intro entry hentry
  rcases List.mem_append.mp hentry with hentry | hentry
  · exact hlearned entry hentry
  · obtain ⟨hunknown, hinactive⟩ := hlearned' entry hentry
    rw [Frame.find?, heq, List.lookup_append, Option.or_eq_none_iff] at hunknown
    exact ⟨hunknown.1, hinactive⟩

theorem exists_retire_eq_append (known closed : List (String × RecursionEntry)) :
    ∃ learned, retire known closed = known ++ learned ∧
      ∀ entry ∈ learned, known.lookup entry.1 = none ∧ entry.2.active = false := by
  induction closed generalizing known with
  | nil => exact ⟨[], by simp [retire], by simp⟩
  | cons pair rest ih =>
      obtain ⟨label, entry⟩ := pair
      cases hlabel : known.lookup label with
      | some old =>
          simp only [retire, hlabel]
          exact ih known
      | none =>
          obtain ⟨learned, heq, hlearned⟩ := ih (known ++ [(label, ⟨entry.start, false⟩)])
          refine ⟨(label, ⟨entry.start, false⟩) :: learned, ?_, ?_⟩
          · simp only [retire, hlabel]
            rw [heq, List.append_assoc, List.singleton_append]
          · intro other hother
            rcases List.mem_cons.mp hother with rfl | hother
            · exact ⟨hlabel, rfl⟩
            · obtain ⟨hunknown, hinactive⟩ := hlearned other hother
              rw [List.lookup_append, Option.or_eq_none_iff] at hunknown
              exact ⟨hunknown.1, hinactive⟩

/-- The compilation gets from `build` to `final` with the frames, the suspended automata and the
labels as they were, except for labels that are known as inactive now. The open choices are
`choices` then, and the automaton under construction has only grown. -/
structure Build.Restores (build : Build) (choices : List OpenChoice) (final : Build) : Prop where
  continues : build.scopes.automaton.Continues final.scopes.automaton
  suspended_eq : final.scopes.suspended = build.scopes.suspended
  enclosing_eq : final.scopes.enclosing = build.scopes.enclosing
  kind_eq : final.scopes.current.kind = build.scopes.current.kind
  owner_eq : final.scopes.owner = build.scopes.owner
  learns : build.scopes.current.Learns final.scopes.current
  choices_eq : final.scopes.current.choices = choices

theorem Build.restores_refl (build : Build) :
    build.Restores build.scopes.current.choices build where
  continues := .refl _
  suspended_eq := rfl
  enclosing_eq := rfl
  kind_eq := rfl
  owner_eq := rfl
  learns := .of_eq rfl
  choices_eq := rfl

namespace Build.Restores

variable {mode : LoopMode} {build build' build'' : Build} {choices choices' : List OpenChoice}

theorem trans (h : build.Restores choices build') (h' : build'.Restores choices' build'') :
    build.Restores choices' build'' where
  continues := h.continues.trans h'.continues
  suspended_eq := h'.suspended_eq.trans h.suspended_eq
  enclosing_eq := h'.enclosing_eq.trans h.enclosing_eq
  kind_eq := h'.kind_eq.trans h.kind_eq
  owner_eq := h'.owner_eq.trans h.owner_eq
  learns := h.learns.trans h'.learns
  choices_eq := h'.choices_eq

theorem next (h : build.Restores choices build')
    (h' : build'.Restores build'.scopes.current.choices build'') :
    build.Restores choices build'' := by
  obtain rfl := h.choices_eq
  exact h.trans h'

theorem adjust (h : build.Restores choices build') {cursor : State}
    (hcontinues : build'.scopes.automaton.Continues build''.scopes.automaton)
    (hcurrent : build''.scopes.current =
      { build'.scopes.current with cursor, choices := choices' })
    (hsuspended : build''.scopes.suspended = build'.scopes.suspended)
    (henclosing : build''.scopes.enclosing = build'.scopes.enclosing) :
    build.Restores choices' build'' :=
  h.trans
    { continues := hcontinues
      suspended_eq := hsuspended
      enclosing_eq := henclosing
      kind_eq := by rw [hcurrent]
      owner_eq := by rw [ScopeStack.owner, hcurrent, ScopeStack.owner]
      learns := .of_eq (by rw [hcurrent])
      choices_eq := by rw [hcurrent] }

theorem congr (h : build.Restores choices build') (hscopes : build''.scopes = build'.scopes) :
    build.Restores choices build'' := by
  obtain rfl := h.choices_eq
  exact h.adjust (by rw [hscopes]; exact .refl _) (by rw [hscopes]) (by rw [hscopes])
    (by rw [hscopes])

theorem record (h : build.Restores choices build') (event : Event) :
    build.Restores choices (build'.record event) :=
  h.congr (build'.scopes_record event)

theorem modifyAutomaton (h : build.Restores choices build') {change : Automaton → Automaton}
    (hcontinues : build'.scopes.automaton.Continues (change build'.scopes.automaton)) :
    build.Restores choices (build'.modifyAutomaton change) := by
  obtain rfl := h.choices_eq
  exact h.adjust hcontinues rfl rfl rfl

theorem newState (h : build.Restores choices build') :
    build.Restores choices build'.newState.2 := by
  obtain rfl := h.choices_eq
  exact h.adjust (Automaton.continues_addState _ _) rfl rfl rfl

theorem connect (h : build.Restores choices build') (transition : Transition) :
    build.Restores choices (build'.connect transition) :=
  (h.modifyAutomaton (Automaton.continues_addTransition _ transition)).record _

theorem markFinal (h : build.Restores choices build') (state : State) :
    build.Restores choices (build'.markFinal state) :=
  (h.modifyAutomaton (Automaton.continues_markFinal _ state)).record _

theorem addRole (h : build.Restores choices build') (role : Role) :
    build.Restores choices (build'.addRole role) := by
  obtain rfl := h.choices_eq
  exact h.adjust (Automaton.continues_addRole _ role) rfl rfl rfl

theorem addRoles (h : build.Restores choices build') (roles : List Role) :
    build.Restores choices (roles.foldl Build.addRole build') := by
  induction roles generalizing build' with
  | nil => exact h
  | cons role rest ih => exact ih (h.addRole role)

theorem setCursor (h : build.Restores choices build') (state : State) :
    build.Restores choices (build'.modifyScopes fun scopes => scopes.setCursor state) := by
  obtain rfl := h.choices_eq
  exact h.adjust (.refl _) rfl rfl rfl

theorem interaction (h : build.Restores choices build') {exchange : Interaction}
    (hrun : Compiler.interaction exchange build' = .ok () build'') :
    build.Restores choices build'' := by
  obtain ⟨registered, hregister, rfl⟩ := Compiler.interaction_eq_ok_iff.mp hrun
  have hnamed := h.newState.addRole exchange.partner
  refine (Restores.connect ?_ _).setCursor _
  rcases Compiler.registerInterrupt_eq_ok_iff.mp hregister with ⟨-, rfl⟩ | ⟨anchor, -, -, rfl⟩
  · exact hnamed
  · refine (Restores.modifyAutomaton ?_ (Automaton.continues_addInterrupt _ anchor _)).record _
    exact hnamed.congr rfl

theorem openChoice (h : build.Restores choices build') {branches : Nat} {start : State}
    (hrun : Compiler.openChoice branches build' = .ok start build'') :
    build.Restores (⟨start, none⟩ :: choices) build'' := by
  rw [Compiler.openChoice_eq] at hrun
  cases hrun
  have hrecorded := h.record (.choiceEntered build'.scopes.cursor branches)
  obtain rfl := hrecorded.choices_eq
  exact hrecorded.adjust (.refl _) rfl rfl rfl

theorem enterChoiceBranch (h : build.Restores choices build') {index : Nat} {start : State}
    (hrun : Compiler.enterChoiceBranch index start build' = .ok () build'') :
    build.Restores choices build'' := by
  rw [Compiler.enterChoiceBranch_eq] at hrun
  cases hrun
  exact (h.setCursor start).record _

theorem setChoiceExit (h : build.Restores choices build') (exit : State) :
    ∃ choices', choices'.tail = choices.tail ∧
      build.Restores choices' (build'.modifyScopes fun scopes => scopes.setChoiceExit exit) := by
  cases hchoices : choices with
  | nil =>
      have hscopes : build'.scopes.setChoiceExit exit = build'.scopes := by
        rw [ScopeStack.setChoiceExit, h.choices_eq, hchoices]
      exact ⟨[], rfl, (hchoices ▸ h).congr hscopes⟩
  | cons choice rest =>
      have hscopes : build'.scopes.setChoiceExit exit =
          { build'.scopes with
            current :=
              { build'.scopes.current with
                choices := { choice with exit := some exit } :: rest } } := by
        rw [ScopeStack.setChoiceExit, h.choices_eq, hchoices]
      refine ⟨{ choice with exit := some exit } :: rest, rfl, ?_⟩
      rw [Build.modifyScopes, hscopes]
      exact h.adjust (.refl _) rfl rfl rfl

theorem converge (h : build.Restores choices build')
    (hrun : Compiler.converge build' = .ok () build'') :
    ∃ choices', choices'.tail = choices.tail ∧ build.Restores choices' build'' := by
  cases hexit : build'.exit? with
  | some exit =>
      rw [Compiler.converge_of_some hexit] at hrun
      cases hrun
      exact ⟨choices, rfl, h.connect _⟩
  | none =>
      rw [Compiler.converge_of_none hexit] at hrun
      cases hrun
      obtain ⟨choices', htail, hopened⟩ := h.newState.setChoiceExit build'.arena.next
      exact ⟨choices', htail, hopened.connect _⟩

theorem closeChoice (h : build.Restores choices build') {start : State}
    (hrun : Compiler.closeChoice start build' = .ok () build'') :
    build.Restores choices.tail build'' := by
  rw [Compiler.closeChoice_eq] at hrun
  cases hrun
  obtain rfl := h.choices_eq
  refine Restores.record ?_ _
  exact h.adjust (.refl _) rfl rfl rfl

theorem registerDispatch (h : build.Restores choices build') {state : State} {key : DispatchKey}
    (hrun : Compiler.registerDispatch state key build' = .ok () build'') :
    build.Restores choices build'' := by
  rw [Compiler.registerDispatch_eq] at hrun
  cases hrun
  exact (h.modifyAutomaton (Automaton.continues_addDispatch _ state _)).record _

theorem openParallel (h : build.Restores choices build') {branches : Nat} {anchor join : State}
    (hrun : Compiler.openParallel branches build' = .ok (anchor, join) build'') :
    build.Restores choices build'' := by
  rw [Compiler.openParallel_eq] at hrun
  cases hrun
  exact h.newState.record _

theorem closeParallel (h : build.Restores choices build') {anchor join : State}
    (hrun : Compiler.closeParallel anchor join build' = .ok () build'') :
    build.Restores choices build'' := by
  rw [Compiler.closeParallel_eq] at hrun
  cases hrun
  exact ((h.connect _).setCursor join).record _

theorem openLoop (h : build.Restores choices build') {head : State}
    (hrun : Compiler.openLoop mode build' = .ok head build'') : build.Restores choices build'' := by
  cases mode with
  | once =>
      rw [Compiler.openLoop_once_eq] at hrun
      cases hrun
      exact h.record _
  | loop =>
      rw [Compiler.openLoop_loop_eq] at hrun
      cases hrun
      exact ((h.newState.connect _).setCursor _).record _

theorem closeLoop (h : build.Restores choices build') {head : State}
    (hrun : Compiler.closeLoop mode head build' = .ok () build'') :
    build.Restores choices build'' := by
  cases mode with
  | once =>
      rw [Compiler.closeLoop_once_eq] at hrun
      cases hrun
      exact h.record _
  | loop =>
      rw [Compiler.closeLoop_loop_eq] at hrun
      cases hrun
      exact (h.connect _).record _

theorem call (h : build.Restores choices build') {label : String}
    (hrun : Compiler.call label build' = .ok () build'') : build.Restores choices build'' := by
  obtain ⟨start, -, rfl⟩ := Compiler.call_eq_ok_iff.mp hrun
  exact ((h.connect _).record _).newState.setCursor _

theorem armInterrupt (h : build.Restores choices build') {role : Role}
    (hrun : Compiler.armInterrupt role build' = .ok () build'') :
    build.Restores choices build'' := by
  obtain ⟨-, rfl⟩ := Compiler.armInterrupt_eq_ok_iff.mp hrun
  refine Restores.record ?_ _
  exact (h.markFinal _).congr rfl

/-- A recursion is closed where it was opened, so the enclosing frame is current again; it has
learned of the label, and of all that the closed frame knew. -/
theorem recursion {label : String} {opened closing final : Build}
    (hopen : Compiler.openRecursion label build = .ok () opened)
    (h : opened.Restores choices closing)
    (hclose : Compiler.closeRecursion label closing = .ok () final) :
    build.Restores build.scopes.current.choices final := by
  obtain ⟨-, hscopes⟩ := Compiler.openRecursion_eq_ok hopen
  rw [Compiler.closeRecursion_eq (h.kind_eq.trans (by rw [hscopes]; rfl))
    (h.enclosing_eq.trans (by rw [hscopes]; rfl))] at hclose
  cases hclose
  refine Restores.record ?_ _
  exact
    { continues := by
        have hcontinues := h.continues
        rw [hscopes] at hcontinues
        exact hcontinues
      suspended_eq := by
        have hsuspended := h.suspended_eq
        rw [hscopes] at hsuspended
        exact hsuspended
      enclosing_eq := rfl
      kind_eq := rfl
      owner_eq := rfl
      learns := exists_retire_eq_append _ _
      choices_eq := rfl }

/-- A parallel branch is closed where it was opened, so the enclosing automaton and its frame are
resumed as they were, with the automaton of the branch added. -/
theorem parallelBranch {index : Nat} {anchor : State} {opened closing final : Build}
    (henter : Compiler.enterParallelBranch anchor build = .ok () opened)
    (h : opened.Restores choices closing)
    (hleave : Compiler.leaveParallelBranch index anchor closing = .ok () final) :
    build.Restores build.scopes.current.choices final := by
  obtain ⟨-, hscopes⟩ := Compiler.enterParallelBranch_eq_ok henter
  obtain ⟨-, -, hfinal⟩ := Compiler.leaveParallelBranch_eq_ok
    (h.kind_eq.trans (by rw [hscopes]; rfl)) (h.suspended_eq.trans (by rw [hscopes]; rfl))
    (h.enclosing_eq.trans (by rw [hscopes]; rfl)) hleave
  refine build.restores_refl.adjust ?_ (by rw [hfinal]) (by rw [hfinal]) (by rw [hfinal])
  rw [hfinal]
  exact Automaton.continues_addBranch _ anchor _

end Build.Restores

/-- Only the branches of a choice leave a trace in the open choices: the innermost of them, which is
theirs, may learn of its exit. -/
def Work.Restores (build final : Build) : Work → Prop
  | .choiceBranches .. | .directedBranches .. =>
      ∃ choices, choices.tail = build.scopes.current.choices.tail ∧ build.Restores choices final
  | _ => build.Restores build.scopes.current.choices final

theorem Runs.restores {mode : LoopMode} {work : Work} {build final : Build}
    (h : Runs mode work build final) : work.Restores build final := by
  induction h with
  | @nil build => exact build.restores_refl
  | cons _ _ ih₁ ih₂ => exact ih₁.next ih₂
  | @interaction exchange build final hrun => exact build.restores_refl.interaction hrun
  | @choice branches start build opened closing final _ _ hopen _ hclose ih =>
      -- The branches touch no choice but their own, which is closed after them.
      have hopened := build.restores_refl.openChoice hopen
      obtain ⟨choices, htail, hbranches⟩ := ih
      rw [hopened.choices_eq, List.tail_cons] at htail
      have hclosed := (hopened.trans hbranches).closeChoice hclose
      rw [htail] at hclosed
      exact hclosed
  | @directedChoice sender receivers branches start build named₁ named₂ opened closing final _ _
      hsender hreceivers hopen _ hclose ih =>
      rw [Compiler.addRoles_eq] at hreceivers
      cases hsender
      cases hreceivers
      have hopened := ((build.restores_refl.addRole sender).addRoles receivers).openChoice hopen
      obtain ⟨choices, htail, hbranches⟩ := ih
      rw [hopened.choices_eq, List.tail_cons] at htail
      have hclosed := (hopened.trans hbranches).closeChoice hclose
      rw [htail] at hclosed
      exact hclosed
  | @parallel branches anchor join build opened closing final _ _ hopen _ hclose ih =>
      exact ((build.restores_refl.openParallel hopen).next ih).closeParallel hclose
  | @loop body head build opened closing final _ hopen _ hclose ih =>
      exact ((build.restores_refl.openLoop hopen).next ih).closeLoop hclose
  | recursion _ hopen _ hclose ih => exact .recursion hopen ih hclose
  | @call label build final hrun => exact build.restores_refl.call hrun
  | @escape body handler role build named anchored armed handled final _ _ _ hrole _ harm _ hdisarm
      ih₁ ih₂ =>
      cases hrole
      cases hdisarm
      have harmed := ((build.restores_refl.addRole role).next ih₁).armInterrupt harm
      exact (harmed.next ih₂).congr rfl
  | @finish build => exact build.restores_refl.markFinal _
  | @choiceBranchesNil start index build => exact ⟨_, rfl, build.restores_refl⟩
  | @choiceBranchesCons start index branch rest build entered ended converged final henter _
      hconverge _ ih₁ ih₂ =>
      have hentered := build.restores_refl.enterChoiceBranch henter
      obtain ⟨choices, htail, hconverged⟩ := (hentered.next ih₁).converge hconverge
      obtain ⟨choices', htail', hrest⟩ := ih₂
      rw [hconverged.choices_eq] at htail'
      exact ⟨choices', htail'.trans htail, hconverged.trans hrest⟩
  | @directedBranchesNil start index build => exact ⟨_, rfl, build.restores_refl⟩
  | @directedBranchesCons start index exchange body rest build entered selected registered ended
      converged final henter hselect hregister _ hconverge _ ih₁ ih₂ =>
      have hregistered := ((build.restores_refl.enterChoiceBranch henter).interaction
        hselect).registerDispatch hregister
      obtain ⟨choices, htail, hconverged⟩ := (hregistered.next ih₁).converge hconverge
      obtain ⟨choices', htail', hrest⟩ := ih₂
      rw [hconverged.choices_eq] at htail'
      exact ⟨choices', htail'.trans htail, hconverged.trans hrest⟩
  | @parallelBranchesNil anchor index build => exact build.restores_refl
  | parallelBranchesCons henter _ hleave _ ih₁ ih₂ =>
      exact (Build.Restores.parallelBranch henter ih₁ hleave).next ih₂

/-- No interrupt is pending but one that was pending before. -/
def Build.ArmsNone (build final : Build) : Prop :=
  final.pending = none ∨ final.pending = build.pending

theorem Build.ArmsNone.trans {build build' build'' : Build} (h : build.ArmsNone build')
    (h' : build'.ArmsNone build'') : build.ArmsNone build'' := by
  rcases h' with hnone | hsame
  · exact .inl hnone
  · rw [ArmsNone, hsame]
    exact h

namespace Compiler

variable {mode : LoopMode} {build final : Build}

theorem armsNone_interaction {exchange : Interaction}
    (h : interaction exchange build = .ok () final) : build.ArmsNone final := by
  obtain ⟨registered, hregister, rfl⟩ := interaction_eq_ok_iff.mp h
  rw [Build.ArmsNone, Build.pending_modifyScopes, Build.pending_connect]
  rcases registerInterrupt_eq_ok_iff.mp hregister with ⟨-, rfl⟩ | ⟨anchor, -, -, rfl⟩
  · exact .inr rfl
  · exact .inl (Build.pending_record _ _)

theorem pending_converge (h : converge build = .ok () final) : final.pending = build.pending := by
  cases hexit : build.exit? with
  | some exit =>
      rw [converge_of_some hexit] at h
      cases h
      simp
  | none =>
      rw [converge_of_none hexit] at h
      cases h
      simp

theorem pending_openLoop {head : State} (h : openLoop mode build = .ok head final) :
    final.pending = build.pending := by
  cases mode with
  | once =>
      rw [openLoop_once_eq] at h
      cases h
      simp
  | loop =>
      rw [openLoop_loop_eq] at h
      cases h
      simp

theorem pending_closeLoop {head : State} (h : closeLoop mode head build = .ok () final) :
    final.pending = build.pending := by
  cases mode with
  | once =>
      rw [closeLoop_once_eq] at h
      cases h
      simp
  | loop =>
      rw [closeLoop_loop_eq] at h
      cases h
      simp

theorem pending_closeRecursion {label : String} (h : closeRecursion label build = .ok () final) :
    final.pending = build.pending := by
  rw [closeRecursion, Builder.get_bind] at h
  cases hexit : build.scopes.exitRecursion with
  | none =>
      rw [hexit] at h
      cases h
      simp
  | some closed =>
      rw [hexit] at h
      cases h
      simp

theorem pending_leaveParallelBranch {index : Nat} {anchor : State}
    (h : leaveParallelBranch index anchor build = .ok () final) :
    final.pending = build.pending := by
  rw [leaveParallelBranch_eq] at h
  cases h
  rw [Build.leaveBranch]
  cases build.complete.scopes.exitBranch with
  | none => simp [Build.complete]
  | some closed => simp [Build.complete, Build.modifyAutomaton]

end Compiler

/-- A run leaves no interrupt pending but one that it has found so. -/
theorem Runs.armsNone {mode : LoopMode} {work : Work} {build final : Build}
    (h : Runs mode work build final) : build.ArmsNone final := by
  induction h with
  | nil => exact .inr rfl
  | cons _ _ ih₁ ih₂ => exact ih₁.trans ih₂
  | interaction hrun => exact Compiler.armsNone_interaction hrun
  | choice _ _ hopen _ hclose ih =>
      rw [Compiler.openChoice_eq] at hopen
      rw [Compiler.closeChoice_eq] at hclose
      cases hopen
      cases hclose
      simpa [Build.ArmsNone] using ih
  | directedChoice _ _ hsender hreceivers hopen _ hclose ih =>
      rw [Compiler.addRoles_eq] at hreceivers
      rw [Compiler.openChoice_eq] at hopen
      rw [Compiler.closeChoice_eq] at hclose
      cases hsender
      cases hreceivers
      cases hopen
      cases hclose
      simpa [Build.ArmsNone, Build.addRole, Build.modifyAutomaton] using ih
  | parallel _ _ hopen _ hclose ih =>
      rw [Compiler.openParallel_eq] at hopen
      rw [Compiler.closeParallel_eq] at hclose
      cases hopen
      cases hclose
      simpa [Build.ArmsNone] using ih
  | loop _ hopen _ hclose ih =>
      rwa [Build.ArmsNone, Compiler.pending_closeLoop hclose, ← Compiler.pending_openLoop hopen]
  | recursion _ hopen _ hclose ih =>
      rw [Compiler.openRecursion_eq] at hopen
      cases hopen
      rw [Build.ArmsNone, Compiler.pending_closeRecursion hclose]
      simpa [Build.ArmsNone] using ih
  | call hrun =>
      obtain ⟨start, -, rfl⟩ := Compiler.call_eq_ok_iff.mp hrun
      exact .inr (by simp)
  | escape _ _ _ _ _ _ _ hdisarm =>
      cases hdisarm
      exact .inl rfl
  | finish => exact .inr (Build.pending_markFinal _ _)
  | choiceBranchesNil => exact .inr rfl
  | choiceBranchesCons henter _ hconverge _ ih₁ ih₂ =>
      rw [Compiler.enterChoiceBranch_eq] at henter
      cases henter
      refine Build.ArmsNone.trans ?_ ih₂
      simpa [Build.ArmsNone, Compiler.pending_converge hconverge] using ih₁
  | directedBranchesNil => exact .inr rfl
  | directedBranchesCons henter hselect hregister _ hconverge _ ih₁ ih₂ =>
      rw [Compiler.enterChoiceBranch_eq] at henter
      rw [Compiler.registerDispatch_eq] at hregister
      cases henter
      cases hregister
      have hselected := Compiler.armsNone_interaction hselect
      refine (Build.ArmsNone.trans ?_ ih₁).trans (Build.ArmsNone.trans ?_ ih₂)
      · simpa [Build.ArmsNone, Build.modifyAutomaton] using hselected
      · exact .inr (Compiler.pending_converge hconverge)
  | parallelBranchesNil => exact .inr rfl
  | parallelBranchesCons henter _ hleave _ ih₁ ih₂ =>
      rw [Compiler.enterParallelBranch_eq] at henter
      cases henter
      refine Build.ArmsNone.trans ?_ ih₂
      simpa [Build.ArmsNone, Build.alloc, Compiler.pending_leaveParallelBranch hleave] using ih₁

namespace Compiler

/-- The compilation of a list of activities restores the scopes, whatever they were, and leaves no
interrupt pending but one that it has found so; the automaton under construction has only grown. -/
theorem restores_of_activities {mode : LoopMode} {list : List Activity} {build final : Build}
    (h : activities mode list build = .ok () final) :
    build.Restores build.scopes.current.choices final ∧ build.ArmsNone final :=
  ⟨(runs_of_activities list h).restores, (runs_of_activities list h).armsNone⟩

/-- The way into the handler of an escape, inside of a recursion and a choice. -/
def interrupting : Builder Unit := do
  let start ← openChoice 2
  enterChoiceBranch 0 start
  openRecursion "again"
  interaction (.bare .send (some "offer") ⟨"Peer"⟩)
  armInterrupt ⟨"Peer"⟩

/-- A handler with a choice, a recursion and a region of its own, which calls both recursions. -/
def interrupted : List Activity :=
  [.interaction (.bare .receive (some "cancel") ⟨"Peer"⟩),
    .recursion "retry"
      [.choice
        [[.interaction (.bare .send (some "ask") ⟨"Peer"⟩), .call "retry"],
          [.parallel [[.finish], [.loop [.finish]]], .call "again"]]]]

theorem restores_interrupted : ∃ build final,
    interrupting (Build.start false) = .ok () build ∧
      activities .loop interrupted build = .ok () final ∧
        build.Restores build.scopes.current.choices final ∧ build.ArmsNone final := by
  have hok : ((interrupting >>= fun _ => activities .loop interrupted) (Build.start false)
      matches .ok ..) = true := by
    decide +kernel
  cases hrun : (interrupting >>= fun _ => activities .loop interrupted) (Build.start false) with
  | error error build =>
      rw [hrun] at hok
      cases hok
  | ok _ final =>
      obtain ⟨_, build, hbuild, hfinal⟩ := Builder.bind_eq_ok_iff.mp hrun
      exact ⟨build, final, hbuild, hfinal, restores_of_activities hfinal⟩

end Compiler

end Conversation

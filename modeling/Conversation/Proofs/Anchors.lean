import Conversation.Proofs.WellFormed

/-!
Where states hang. A state that is handed out while a parallel branch is built is entered into the
table of anchors with the state that the branch hangs off; the branch itself is put under that state
only when it is complete. This module proves that the table and the regions agree, at every depth.
What carries the proof is that the arena never changes what it has entered, so a branch that has
been agreed upon stays so.
-/

namespace Conversation

namespace Arena

/-- More states have been handed out, and nothing has changed for the earlier ones. -/
structure Extends (arena arena' : Arena) : Prop where
  next_le : arena.next ≤ arena'.next
  find?_eq : ∀ state < arena.next,
    Table.find? state arena'.anchors = Table.find? state arena.anchors

/-- Only states that have been handed out hang off something, and what they hang off is older. -/
def Ordered (arena : Arena) : Prop :=
  ∀ state anchor, Table.find? state arena.anchors = some anchor →
    anchor < state ∧ state < arena.next

theorem extends_refl (arena : Arena) : arena.Extends arena := ⟨le_rfl, fun _ _ => rfl⟩

theorem Extends.trans {arena arena' arena'' : Arena} (h : arena.Extends arena')
    (h' : arena'.Extends arena'') : arena.Extends arena'' where
  next_le := h.next_le.trans h'.next_le
  find?_eq := fun state hlt =>
    (h'.find?_eq state (hlt.trans_le h.next_le)).trans (h.find?_eq state hlt)

theorem Ordered.find?_alloc {arena : Arena} (h : arena.Ordered) (anchor : Option State)
    (state : State) : Table.find? state (arena.alloc anchor).2.anchors =
      if arena.next = state then anchor else Table.find? state arena.anchors := by
  cases anchor with
  | some anchor => exact Table.find?_insert arena.next state anchor arena.anchors
  | none =>
      split
      · next hnext =>
          cases hfind : Table.find? state arena.anchors with
          | none => exact hfind
          | some anchor => exact absurd (h state anchor hfind).2 (hnext ▸ lt_irrefl _)
      · rfl

theorem Ordered.extends_alloc {arena : Arena} (h : arena.Ordered) (anchor : Option State) :
    arena.Extends (arena.alloc anchor).2 where
  next_le := Nat.le_succ _
  find?_eq := by
    intro state hlt
    rw [h.find?_alloc, if_neg (ne_of_gt hlt)]

theorem Ordered.alloc {arena : Arena} (h : arena.Ordered) {anchor : Option State}
    (hanchor : ∀ state, anchor = some state → state < arena.next) :
    (arena.alloc anchor).2.Ordered := by
  intro state found hfind
  rw [h.find?_alloc] at hfind
  split at hfind
  · next hnext =>
      subst hnext
      exact ⟨hanchor found hfind, Nat.lt_succ_self _⟩
  · obtain ⟨holder, hlt⟩ := h state found hfind
    exact ⟨holder, Nat.lt_succ_of_lt hlt⟩

end Arena

/-- All states of the automaton hang off the anchor, or off nothing, and those of the automata
nested in it hang off the state that their region is put under. -/
inductive Automaton.HangsOff (arena : Arena) : Option State → Automaton → Prop
  | intro {anchor : Option State} {automaton : Automaton} :
      (∀ state ∈ automaton.states,
        state < arena.next ∧ Table.find? state arena.anchors = anchor) →
      (∀ region ∈ automaton.nested, ∀ branch ∈ region.2, HangsOff arena (some region.1) branch) →
      HangsOff arena anchor automaton

namespace Automaton.HangsOff

variable {automaton automaton' branch : Automaton} {arena arena' : Arena} {anchor : Option State}

theorem extend (h : automaton.HangsOff arena anchor) (hextends : arena.Extends arena') :
    automaton.HangsOff arena' anchor := by
  induction h with
  | intro hstates _ ih =>
      refine .intro (fun state hstate => ?_) ih
      obtain ⟨hlt, hfind⟩ := hstates state hstate
      exact ⟨hlt.trans_le hextends.next_le, (hextends.find?_eq state hlt).trans hfind⟩

theorem congr (h : automaton.HangsOff arena anchor)
    (hstates : automaton'.states = automaton.states)
    (hnested : automaton'.nested = automaton.nested) : automaton'.HangsOff arena anchor := by
  obtain ⟨hown, hinner⟩ := h
  exact .intro (hstates ▸ hown) (hnested ▸ hinner)

theorem addState (h : automaton.HangsOff arena anchor) {state : State} (hlt : state < arena.next)
    (hfind : Table.find? state arena.anchors = anchor) :
    (automaton.addState state).HangsOff arena anchor := by
  obtain ⟨hown, hinner⟩ := h
  refine .intro ?_ hinner
  intro other hother
  rcases List.mem_append.mp hother with hold | hnew
  · exact hown other hold
  · obtain rfl := List.mem_singleton.mp hnew
    exact ⟨hlt, hfind⟩

theorem addBranch (h : automaton.HangsOff arena anchor) {state : State}
    (hbranch : branch.HangsOff arena (some state)) :
    (automaton.addBranch state branch).HangsOff arena anchor := by
  obtain ⟨hown, hinner⟩ := h
  refine .intro hown ?_
  intro region hregion other hother
  rcases Table.mem_insert hregion with rfl | hold
  · rcases List.mem_append.mp hother with hold | hnew
    · obtain ⟨row, hrow, rfl, hmem⟩ := Table.exists_row_of_mem_listAt hold
      exact hinner row hrow other hmem
    · obtain rfl := List.mem_singleton.mp hnew
      exact hbranch
  · exact hinner region hold other hother

end Automaton.HangsOff

theorem ScopeStack.currentAnchor_setChoiceExit (stack : ScopeStack) (exit : State) :
    (stack.setChoiceExit exit).currentAnchor = stack.currentAnchor := by
  rw [setChoiceExit]
  split <;> rfl

/-- The automaton under construction hangs off the anchor of the innermost parallel branch. -/
structure Build.Moored (build : Build) : Prop where
  ordered : build.arena.Ordered
  anchor_lt : ∀ anchor, build.scopes.currentAnchor = some anchor → anchor < build.arena.next
  hangs : build.scopes.automaton.HangsOff build.arena build.scopes.currentAnchor

/-- The compilation gets from `build` to `build'` within the automaton under construction, and the
table and the regions agree then. -/
structure Build.Moors (build build' : Build) : Prop where
  moored : build'.Moored
  extend : build.arena.Extends build'.arena
  anchor_eq : build'.scopes.currentAnchor = build.scopes.currentAnchor

theorem Build.Moored.refl {build : Build} (h : build.Moored) : build.Moors build :=
  ⟨h, build.arena.extends_refl, rfl⟩

namespace Build.Moors

variable {build build' build'' : Build}

theorem trans (h : build.Moors build') (h' : build'.Moors build'') : build.Moors build'' :=
  ⟨h'.moored, h.extend.trans h'.extend, h'.anchor_eq.trans h.anchor_eq⟩

theorem still (h : build.Moors build') (harena : build''.arena = build'.arena)
    (hstates : build''.scopes.automaton.states = build'.scopes.automaton.states)
    (hnested : build''.scopes.automaton.nested = build'.scopes.automaton.nested)
    (hanchor : build''.scopes.currentAnchor = build'.scopes.currentAnchor) :
    build.Moors build'' where
  moored :=
    { ordered := by
        rw [harena]
        exact h.moored.ordered
      anchor_lt := by
        rw [hanchor, harena]
        exact h.moored.anchor_lt
      hangs := by
        rw [hanchor, harena]
        exact h.moored.hangs.congr hstates hnested }
  extend := by
    rw [harena]
    exact h.extend
  anchor_eq := hanchor.trans h.anchor_eq

theorem record (h : build.Moors build') (event : Event) : build.Moors (build'.record event) := by
  apply h.still <;> simp

theorem modifyAutomaton (h : build.Moors build') {change : Automaton → Automaton}
    (hstates : (change build'.scopes.automaton).states = build'.scopes.automaton.states)
    (hnested : (change build'.scopes.automaton).nested = build'.scopes.automaton.nested) :
    build.Moors (build'.modifyAutomaton change) :=
  h.still rfl hstates hnested rfl

theorem connect (h : build.Moors build') (transition : Transition) :
    build.Moors (build'.connect transition) :=
  (h.modifyAutomaton rfl rfl).record _

theorem markFinal (h : build.Moors build') (state : State) :
    build.Moors (build'.markFinal state) :=
  (h.modifyAutomaton rfl rfl).record _

theorem modifyScopes (h : build.Moors build') {change : ScopeStack → ScopeStack}
    (hautomaton : (change build'.scopes).automaton = build'.scopes.automaton)
    (hanchor : (change build'.scopes).currentAnchor = build'.scopes.currentAnchor) :
    build.Moors (build'.modifyScopes change) :=
  h.still rfl (congrArg _ hautomaton) (congrArg _ hautomaton) hanchor

theorem withPending (h : build.Moors build') (pending : Option PendingInterrupt) :
    build.Moors { build' with pending } :=
  h.still rfl rfl rfl rfl

theorem newState (h : build.Moors build') : build.Moors build'.newState.2 := by
  have hextends := h.moored.ordered.extends_alloc build'.scopes.currentAnchor
  refine ⟨⟨?_, ?_, ?_⟩, h.extend.trans hextends, h.anchor_eq⟩
  · exact h.moored.ordered.alloc h.moored.anchor_lt
  · exact fun anchor hanchor => (h.moored.anchor_lt anchor hanchor).trans_le hextends.next_le
  · refine (h.moored.hangs.extend hextends).addState (Nat.lt_succ_self _) ?_
    exact (h.moored.ordered.find?_alloc _ _).trans (if_pos rfl)

theorem addRoles (h : build.Moors build') (roles : List Role) :
    build.Moors (roles.foldl addRole build') := by
  induction roles generalizing build' with
  | nil => exact h
  | cons role rest ih => exact ih (h.still rfl rfl rfl rfl)

end Build.Moors

namespace Compiler

variable {mode : LoopMode} {base build final : Build} {start state : State}

theorem moors_openChoice (h : base.Moors build) {branches : Nat}
    (hrun : openChoice branches build = .ok start final) : base.Moors final := by
  rw [openChoice_eq] at hrun
  cases hrun
  exact (h.record _).modifyScopes rfl rfl

theorem moors_enterChoiceBranch (h : base.Moors build) {index : Nat}
    (hrun : enterChoiceBranch index start build = .ok () final) : base.Moors final := by
  rw [enterChoiceBranch_eq] at hrun
  cases hrun
  exact (h.modifyScopes rfl rfl).record _

theorem moors_closeChoice (h : base.Moors build)
    (hrun : closeChoice start build = .ok () final) : base.Moors final := by
  rw [closeChoice_eq] at hrun
  cases hrun
  exact (h.modifyScopes rfl rfl).record _

theorem moors_registerDispatch (h : base.Moors build) {key : DispatchKey}
    (hrun : registerDispatch state key build = .ok () final) : base.Moors final := by
  rw [registerDispatch_eq] at hrun
  cases hrun
  exact (h.modifyAutomaton rfl rfl).record _

theorem moors_converge (h : base.Moors build) (hrun : converge build = .ok () final) :
    base.Moors final := by
  cases hexit : build.exit? with
  | some exit =>
      rw [converge_of_some hexit] at hrun
      cases hrun
      exact h.connect _
  | none =>
      rw [converge_of_none hexit] at hrun
      cases hrun
      exact (h.newState.modifyScopes (ScopeStack.automaton_setChoiceExit _)
        (ScopeStack.currentAnchor_setChoiceExit _ _)).connect _

theorem moors_openParallel (h : base.Moors build) {branches : Nat} {anchor join : State}
    (hrun : openParallel branches build = .ok (anchor, join) final) : base.Moors final := by
  rw [openParallel_eq] at hrun
  cases hrun
  exact h.newState.record _

theorem moors_closeParallel (h : base.Moors build) {anchor join : State}
    (hrun : closeParallel anchor join build = .ok () final) : base.Moors final := by
  rw [closeParallel_eq] at hrun
  cases hrun
  exact ((h.connect _).modifyScopes rfl rfl).record _

theorem moors_openLoop (h : base.Moors build) (hrun : openLoop mode build = .ok start final) :
    base.Moors final := by
  cases mode with
  | once =>
      rw [openLoop_once_eq] at hrun
      cases hrun
      exact h.record _
  | loop =>
      rw [openLoop_loop_eq] at hrun
      cases hrun
      exact ((h.newState.connect _).modifyScopes rfl rfl).record _

theorem moors_closeLoop (h : base.Moors build) (hrun : closeLoop mode start build = .ok () final) :
    base.Moors final := by
  cases mode with
  | once =>
      rw [closeLoop_once_eq] at hrun
      cases hrun
      exact h.record _
  | loop =>
      rw [closeLoop_loop_eq] at hrun
      cases hrun
      exact (h.connect _).record _

theorem moors_openRecursion (h : base.Moors build) {label : String}
    (hrun : openRecursion label build = .ok () final) : base.Moors final := by
  rw [openRecursion_eq] at hrun
  cases hrun
  exact (h.modifyScopes rfl rfl).record _

theorem moors_closeRecursion {label : String} {opened closing : Build} {piece : Piece}
    {next last : State} {choices : List OpenChoice}
    (hopen : openRecursion label build = .ok () opened)
    (hgrows : opened.Grows piece next last choices closing) (h : base.Moors closing)
    (hclose : closeRecursion label closing = .ok () final) : base.Moors final := by
  obtain ⟨-, hscopes⟩ := openRecursion_eq_ok hopen
  have hkind : closing.scopes.current.kind = .recursion label :=
    hgrows.kind_eq.trans (by rw [hscopes]; rfl)
  have henclosing : closing.scopes.enclosing = build.scopes.current :: build.scopes.enclosing :=
    hgrows.enclosing_eq.trans (by rw [hscopes]; rfl)
  rw [closeRecursion_eq hkind henclosing] at hclose
  cases hclose
  refine (h.modifyScopes rfl ?_).record _
  simp only [ScopeStack.currentAnchor, ScopeStack.frames, List.findSome?_cons, Frame.anchor?, hkind,
    henclosing]

theorem moors_call (h : base.Moors build) {label : String}
    (hrun : call label build = .ok () final) : base.Moors final := by
  obtain ⟨target, -, rfl⟩ := call_eq_ok_iff.mp hrun
  exact ((h.connect _).record _).newState.modifyScopes rfl rfl

theorem moors_interaction (h : base.Moors build) {exchange : Interaction}
    (hrun : interaction exchange build = .ok () final) : base.Moors final := by
  obtain ⟨registered, hregister, rfl⟩ := interaction_eq_ok_iff.mp hrun
  have hnamed : base.Moors (build.newState.2.addRole exchange.partner) :=
    h.newState.addRoles [exchange.partner]
  have hregistered : base.Moors registered := by
    rcases registerInterrupt_eq_ok_iff.mp hregister with ⟨-, rfl⟩ | ⟨anchor, -, -, rfl⟩
    · exact hnamed
    · exact ((hnamed.withPending none).modifyAutomaton rfl rfl).record _
  exact (hregistered.connect _).modifyScopes rfl rfl

theorem moors_armInterrupt (h : base.Moors build) {role : Role}
    (hrun : armInterrupt role build = .ok () final) : base.Moors final := by
  obtain ⟨-, rfl⟩ := armInterrupt_eq_ok_iff.mp hrun
  exact ((h.markFinal _).withPending _).record _

theorem moored_enterParallelBranch (h : build.Moored) {anchor : State} {entered : Build}
    (hanchor : anchor < build.arena.next)
    (henter : enterParallelBranch anchor build = .ok () entered) :
    entered.Moored ∧ build.arena.Extends entered.arena := by
  rw [enterParallelBranch_eq] at henter
  cases henter
  have hlt : ∀ state, some anchor = some state → state < build.arena.next := by
    rintro _ ⟨⟩
    exact hanchor
  have hextends := h.ordered.extends_alloc (some anchor)
  refine ⟨⟨h.ordered.alloc hlt, ?_, .intro ?_ nofun⟩, hextends⟩
  · rintro _ ⟨⟩
    exact hanchor.trans_le hextends.next_le
  · intro state hstate
    obtain rfl := List.mem_singleton.mp hstate
    have hfind := h.ordered.find?_alloc (some anchor) build.arena.next
    rw [if_pos rfl] at hfind
    exact ⟨Nat.lt_succ_self _, hfind⟩

theorem moors_parallelBranch (h : build.Moored) {anchor : State} {index : Nat}
    {entered ended : Build} {piece : Piece} {next last : State} {choices : List OpenChoice}
    (hextends : build.arena.Extends entered.arena)
    (henter : enterParallelBranch anchor build = .ok () entered)
    (hgrows : entered.Grows piece next last choices ended) (hended : entered.Moors ended)
    (hleave : leaveParallelBranch index anchor ended = .ok () final) : build.Moors final := by
  obtain rfl := leaveParallelBranch_eq_of_enter henter hgrows hleave
  have hcomplete : entered.Moors ended.complete := (hended.newState.connect _).markFinal _
  have hbranch := hcomplete.moored.hangs
  have hanchor : entered.scopes.currentAnchor = some anchor := by
    obtain ⟨-, hscopes⟩ := enterParallelBranch_eq_ok henter
    rw [hscopes]
    rfl
  rw [hcomplete.anchor_eq, hanchor] at hbranch
  have hall : build.arena.Extends ended.complete.arena := hextends.trans hcomplete.extend
  have hleft : build.Moors ({ ended.complete with scopes := build.scopes }.modifyAutomaton
      fun automaton => automaton.addBranch anchor ended.complete.scopes.automaton) :=
    ⟨⟨hcomplete.moored.ordered,
      fun state hstate => (h.anchor_lt state hstate).trans_le hall.next_le,
      (h.hangs.extend hall).addBranch hbranch⟩, hall, rfl⟩
  exact hleft.record _

end Compiler

theorem Runs.moors {mode : LoopMode} {work : Work} {build build' : Build}
    (h : Runs mode work build build') (hcoherent : build.Coherent) (hplaced : work.Placed build)
    (hmoored : build.Moored) : build.Moors build' := by
  induction h with
  | nil => exact hmoored.refl
  | cons hfirst _ ih₁ ih₂ =>
      have hmoors := ih₁ hcoherent trivial hmoored
      obtain ⟨hbetween, -⟩ := hfirst.coherent hcoherent trivial
      exact hmoors.trans (ih₂ hbetween trivial hmoors.moored)
  | interaction hrun => exact Compiler.moors_interaction hmoored.refl hrun
  | choice _ _ hopen _ hclose ih =>
      obtain ⟨hopened, -, hstart, hchoices⟩ := hcoherent.openChoice hopen
      have hmoors := Compiler.moors_openChoice hmoored.refl hopen
      have hbranches := ih hopened ⟨hstart, hchoices⟩ hmoors.moored
      exact Compiler.moors_closeChoice (hmoors.trans hbranches) hclose
  | @directedChoice sender receivers branches start build named₁ named₂ _ _ _ _ _ hsender hreceivers
      hopen _ hclose ih =>
      rw [Compiler.addRoles_eq] at hreceivers
      cases hsender
      cases hreceivers
      obtain ⟨hnamed, -⟩ := hcoherent.addRoles (sender :: receivers)
      obtain ⟨hopened, -, hstart, hchoices⟩ := hnamed.openChoice hopen
      have hmoors :=
        Compiler.moors_openChoice (hmoored.refl.addRoles (sender :: receivers)) hopen
      have hbranches := ih hopened ⟨hstart, hchoices⟩ hmoors.moored
      exact Compiler.moors_closeChoice (hmoors.trans hbranches) hclose
  | parallel _ _ hopen _ hclose ih =>
      obtain ⟨hopened, -, hanchor, -⟩ := hcoherent.openParallel hopen
      have hmoors := Compiler.moors_openParallel hmoored.refl hopen
      exact Compiler.moors_closeParallel (hmoors.trans (ih hopened hanchor hmoors.moored)) hclose
  | loop _ hopen _ hclose ih =>
      obtain ⟨hopened, -, -⟩ := hcoherent.openLoop hopen
      have hmoors := Compiler.moors_openLoop hmoored.refl hopen
      exact Compiler.moors_closeLoop (hmoors.trans (ih hopened trivial hmoors.moored)) hclose
  | recursion _ hopen hbody hclose ih =>
      have hopened := hcoherent.openRecursion hopen
      obtain ⟨piece, hgrows⟩ := hbody.grows_of_activities hopened.level
      have hmoors := Compiler.moors_openRecursion hmoored.refl hopen
      have hinside := ih hopened trivial hmoors.moored
      exact Compiler.moors_closeRecursion hopen hgrows (hmoors.trans hinside) hclose
  | call hrun => exact Compiler.moors_call hmoored.refl hrun
  | @escape body handler role build _ _ _ _ _ _ _ _ hrole hbody harm _ hdisarm ih₁ ih₂ =>
      cases hrole
      cases hdisarm
      obtain ⟨hnamed, -⟩ := hcoherent.addRoles [role]
      have hroles := hmoored.refl.addRoles [role]
      have hbodied := hroles.trans (ih₁ hnamed trivial hroles.moored)
      obtain ⟨hanchored, -⟩ := hbody.coherent hnamed trivial
      obtain ⟨harmed, -⟩ := hanchored.armInterrupt harm
      have harming := Compiler.moors_armInterrupt hbodied harm
      exact (harming.trans (ih₂ harmed trivial harming.moored)).withPending none
  | finish => exact hmoored.refl.markFinal _
  | choiceBranchesNil => exact hmoored.refl
  | @choiceBranchesCons start index branch others build entered ended converged final henter hbranch
      hconverge _ ih₁ ih₂ =>
      have hentered := hcoherent.enterChoiceBranch hplaced.1 henter
      have hended := hbranch.coherent hentered.1 trivial
      obtain ⟨hconverged, -, hnext⟩ := Build.Coherent.joinBranch hplaced hentered
        (build.grows_refl.enterChoiceBranch henter).choices_eq hbranch hended hconverge
      have hmoors := Compiler.moors_enterChoiceBranch hmoored.refl henter
      have hjoined := Compiler.moors_converge
        (hmoors.trans (ih₁ hentered.1 trivial hmoors.moored)) hconverge
      exact hjoined.trans (ih₂ hconverged hnext hjoined.moored)
  | directedBranchesNil => exact hmoored.refl
  | @directedBranchesCons start index exchange body others build entered selected registered ended
      converged final henter hselect hregister hbody hconverge _ ih₁ ih₂ =>
      have hgrows := ((build.grows_refl.enterChoiceBranch henter).interaction []
        hselect).registerDispatch hregister
      have hregistered := hcoherent.selectBranch hplaced.1 henter hselect hregister
      have hended := hbody.coherent hregistered.1 trivial
      obtain ⟨hconverged, -, hnext⟩ := Build.Coherent.joinBranch hplaced hregistered
        hgrows.choices_eq hbody hended hconverge
      have hmoors := Compiler.moors_registerDispatch (Compiler.moors_interaction
        (Compiler.moors_enterChoiceBranch hmoored.refl henter) hselect) hregister
      have hjoined := Compiler.moors_converge
        (hmoors.trans (ih₁ hregistered.1 trivial hmoors.moored)) hconverge
      exact hjoined.trans (ih₂ hconverged hnext hjoined.moored)
  | parallelBranchesNil => exact hmoored.refl
  | @parallelBranchesCons anchor index branch others build entered ended left final henter hbranch
      hleave _ ih₁ ih₂ =>
      obtain ⟨hentered, hleft⟩ := hcoherent.parallelBranch hplaced henter hleave
      obtain ⟨hended, -⟩ := hbranch.coherent hentered trivial
      obtain ⟨piece, hgrows⟩ := hbranch.grows_of_activities hentered.level
      obtain ⟨hleft, hstates⟩ := hleft hended hgrows
      have hanchor : anchor ∈ left.scopes.automaton.states := by
        rw [hstates]
        exact hplaced
      obtain ⟨hbranching, hextends⟩ := Compiler.moored_enterParallelBranch hmoored
        (hcoherent.automaton.states_lt hplaced) henter
      have hmoors := Compiler.moors_parallelBranch hmoored hextends henter hgrows
        (ih₁ hentered trivial hbranching) hleave
      exact hmoors.trans (ih₂ hleft hanchor hmoors.moored)

namespace Protocol

variable {protocol : Protocol} {options : CompileOptions} {automaton : Automaton}

theorem moors_opening (protocol : Protocol) : (Build.start false).Moors protocol.opening := by
  have hstart : (Build.start false).Moored :=
    { ordered := nofun
      anchor_lt := nofun
      hangs := by
        refine .intro (fun state hstate => ?_) nofun
        obtain rfl := List.mem_singleton.mp hstate
        exact ⟨Nat.lt_succ_self 0, rfl⟩ }
  exact hstart.refl.addRoles _

/-- The table of anchors of a compiled automaton agrees with its regions, at every depth, and what
a state hangs off is older than the state. -/
theorem hangsOff_of_compile (h : protocol.compile options = .ok automaton) :
    ∃ arena : Arena, arena.anchors = automaton.anchors ∧ arena.Ordered ∧
      automaton.HangsOff arena none := by
  obtain ⟨ended, hruns, -, hautomaton⟩ := exists_run_of_compile h
  have hopening := protocol.moors_opening
  have hmoors := hopening.trans
    (hruns.moors (.of_fresh protocol.fresh_opening) trivial hopening.moored)
  have hhangs := hmoors.moored.hangs
  rw [hmoors.anchor_eq] at hhangs
  rw [hautomaton]
  exact ⟨ended.arena, rfl, hmoors.moored.ordered, hhangs.congr rfl rfl⟩

end Protocol

end Conversation

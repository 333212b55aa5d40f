import Conversation.Proofs.CompilerActions
import Conversation.Proofs.Outline
import Conversation.Proofs.Positions

/-!
What a run of the compiler registers with the automaton under construction besides its layout: the
interrupts of its escapes, the branches of its directed choices and the automata of its parallel
branches. An interrupt is armed before its transition exists, so it is pending for a while; but
then what is compiled next starts with a single interaction, and that is the transition it gets.
-/

namespace Conversation

structure Automaton.Serves (automaton : Automaton) (escape : Escape) (interrupt : Interrupt) :
    Prop where
  anchor_eq : interrupt.anchor = escape.anchor
  carries : ∃ exchange source target, escape.lead = some exchange ∧
    interrupt.transition = exchange.transition source target
  mem_transitions : interrupt.transition ∈ automaton.transitions
  mem_finals : escape.anchor ∈ automaton.finals
  leads : Emits automaton.Edge escape.anchor [] interrupt.transition.source

theorem Automaton.emits_mono {automaton automaton' : Automaton} {source target : State}
    {word : List Message} (hsubset : automaton.transitions ⊆ automaton'.transitions)
    (h : Emits automaton.Edge source word target) : Emits automaton'.Edge source word target := by
  induction h with
  | refl state => exact .refl state
  | head hstep _ ih =>
      obtain ⟨transition, htransition, hedge⟩ := hstep
      exact .head ⟨transition, hsubset htransition, hedge⟩ ih

theorem Automaton.Serves.mono {automaton automaton' : Automaton} {escape : Escape}
    {interrupt : Interrupt} (h : automaton.Serves escape interrupt)
    (htransitions : automaton.transitions ⊆ automaton'.transitions)
    (hfinals : automaton.finals ⊆ automaton'.finals) : automaton'.Serves escape interrupt where
  anchor_eq := h.anchor_eq
  carries := h.carries
  mem_transitions := htransitions h.mem_transitions
  mem_finals := hfinals h.mem_finals
  leads := Automaton.emits_mono htransitions h.leads

namespace Build

def position (build : Build) : Position :=
  ⟨build.arena.next, build.scopes.cursor⟩

/-- The automaton under construction is the one that the current frame builds. -/
def Level (build : Build) : Prop :=
  build.scopes.owner = build.scopes.suspended.length

/-- A compilation that starts on an automaton of its own. -/
structure Fresh (build : Build) (initial : State) : Prop where
  automaton_eq : ∃ roles, build.scopes.automaton = { Automaton.single initial with roles }
  position_eq : build.position = .fresh initial
  choices_eq : build.scopes.current.choices = []
  pending_eq : build.pending = none
  level : build.Level
  resolveRecursion_eq : ∀ label, build.scopes.resolveRecursion label = none

end Build

/-- The automaton is built from the activities of a parallel branch. -/
def Builds (mode : LoopMode) (activities : List Activity) (automaton : Automaton) : Prop :=
  ∃ build ended : Build, build.Fresh automaton.initial ∧
    Runs mode (.activities activities) build ended ∧
    automaton = ended.scopes.automaton.complete ended.scopes.cursor ended.arena.next

/-- The compilation gets from `build` to `build'`, and registers with the automaton under
construction the interrupts of the escapes, the entries of the selections and the automata of the
parallel branches, in their order. -/
structure Build.Registers (mode : LoopMode) (build : Build) (escapes : List Escape)
    (selections : List Selection) (branches : List (List Activity)) (build' : Build) : Prop where
  transitions_subset : build.scopes.automaton.transitions ⊆ build'.scopes.automaton.transitions
  finals_subset : build.scopes.automaton.finals ⊆ build'.scopes.automaton.finals
  interrupts : ∃ interrupts,
    build'.scopes.automaton.interrupts = build.scopes.automaton.interrupts ++ interrupts ∧
      List.Forall₂ build'.scopes.automaton.Serves escapes interrupts
  anchors_nodup : (build.scopes.automaton.interrupts.map Interrupt.anchor).Nodup →
    (build'.scopes.automaton.interrupts.map Interrupt.anchor).Nodup
  dispatch : ∀ state, build'.scopes.automaton.dispatchAt state =
    build.scopes.automaton.dispatchAt state ++
      (selections.filter fun selection => selection.state = state).map Selection.entry
  selected : ∀ selection ∈ selections,
    selection.transition ∈ build'.scopes.automaton.transitions
  nested : ∃ piece : Piece, piece.Fits build.arena.next build'.arena.next ∧
    build'.scopes.automaton.nested =
      Table.appendAll build.scopes.automaton.nested piece.branches ∧
    List.Forall₂
      (fun branch nested => Builds mode branch nested ∧ EachBranch (Builds mode) branch nested)
      branches (piece.branches.map Prod.snd)

theorem Piece.Fits.weaken {piece : Piece} {next middle next' : State} (h : piece.Fits next middle)
    (hle : middle ≤ next') : piece.Fits next next' where
  le := h.le.trans hle
  placed_ascending := h.placed_ascending
  placed_mem := by
    intro entry hentry
    exact ⟨(h.placed_mem entry hentry).1, lt_of_lt_of_le (h.placed_mem entry hentry).2 hle⟩
  branches_ascending := h.branches_ascending
  branches_mem := by
    intro branch hbranch
    exact ⟨(h.branches_mem branch hbranch).1, lt_of_lt_of_le (h.branches_mem branch hbranch).2 hle⟩

namespace Build.Registers

variable {mode : LoopMode} {build build' build'' : Build} {escapes escapes' : List Escape}
  {selections selections' : List Selection} {branches branches' : List (List Activity)}

theorem of_eq
    (htransitions : build.scopes.automaton.transitions ⊆ build'.scopes.automaton.transitions)
    (hfinals : build.scopes.automaton.finals ⊆ build'.scopes.automaton.finals)
    (hinterrupts : build'.scopes.automaton.interrupts = build.scopes.automaton.interrupts)
    (hdispatch : build'.scopes.automaton.dispatch = build.scopes.automaton.dispatch)
    (hnested : build'.scopes.automaton.nested = build.scopes.automaton.nested)
    (hnext : build.arena.next ≤ build'.arena.next) :
    build.Registers mode [] [] [] build' where
  transitions_subset := htransitions
  finals_subset := hfinals
  interrupts := ⟨[], by rw [hinterrupts, List.append_nil], .nil⟩
  anchors_nodup := by
    rw [hinterrupts]
    exact id
  dispatch := by
    intro state
    rw [Automaton.dispatchAt, hdispatch]
    exact (List.append_nil _).symm
  selected := by simp
  nested := ⟨.empty, (Piece.fits_empty _).weaken hnext, hnested, .nil⟩

theorem refl (mode : LoopMode) (build : Build) : build.Registers mode [] [] [] build :=
  of_eq (List.Subset.refl _) (List.Subset.refl _) rfl rfl rfl le_rfl

theorem trans (h : build.Registers mode escapes selections branches build')
    (h' : build'.Registers mode escapes' selections' branches' build'') :
    build.Registers mode (escapes ++ escapes') (selections ++ selections')
      (branches ++ branches') build'' where
  transitions_subset := List.Subset.trans h.transitions_subset h'.transitions_subset
  finals_subset := List.Subset.trans h.finals_subset h'.finals_subset
  interrupts := by
    obtain ⟨interrupts, heq, hserves⟩ := h.interrupts
    obtain ⟨interrupts', heq', hserves'⟩ := h'.interrupts
    refine ⟨interrupts ++ interrupts', by rw [heq', heq, List.append_assoc], ?_⟩
    refine List.rel_append (hserves.imp ?_) hserves'
    intro escape interrupt hserve
    exact hserve.mono h'.transitions_subset h'.finals_subset
  anchors_nodup := h'.anchors_nodup ∘ h.anchors_nodup
  dispatch := by
    intro state
    rw [h'.dispatch, h.dispatch, List.append_assoc, List.filter_append, List.map_append]
  selected := by
    intro selection hselection
    rcases List.mem_append.mp hselection with hselection | hselection
    · exact h'.transitions_subset (h.selected selection hselection)
    · exact h'.selected selection hselection
  nested := by
    obtain ⟨piece, hfits, heq, hbuilt⟩ := h.nested
    obtain ⟨piece', hfits', heq', hbuilt'⟩ := h'.nested
    refine ⟨piece ++ piece', hfits.append hfits', ?_, ?_⟩
    · rw [heq', heq, Table.appendAll, Table.appendAll, Table.appendAll, Piece.branches_append,
        List.foldl_append]
    · rw [Piece.branches_append, List.map_append]
      exact List.rel_append hbuilt hbuilt'

theorem andThen (h : build.Registers mode escapes selections branches build')
    (h' : build'.Registers mode [] [] [] build'') :
    build.Registers mode escapes selections branches build'' := by
  have htrans := h.trans h'
  rwa [List.append_nil, List.append_nil, List.append_nil] at htrans

theorem congr (h : build.Registers mode escapes selections branches build')
    (harena : build''.arena = build'.arena) (hscopes : build''.scopes = build'.scopes) :
    build.Registers mode escapes selections branches build'' := by
  refine h.andThen (of_eq ?_ ?_ ?_ ?_ ?_ ?_) <;> simp [harena, hscopes]

theorem record (h : build.Registers mode escapes selections branches build') (event : Event) :
    build.Registers mode escapes selections branches (build'.record event) := by
  refine h.andThen (of_eq ?_ ?_ ?_ ?_ ?_ ?_) <;> simp

theorem modifyScopes (h : build.Registers mode escapes selections branches build')
    {change : ScopeStack → ScopeStack}
    (hchange : (change build'.scopes).automaton = build'.scopes.automaton) :
    build.Registers mode escapes selections branches (build'.modifyScopes change) := by
  refine h.andThen (of_eq ?_ ?_ ?_ ?_ ?_ ?_) <;> simp [hchange]

theorem newState (h : build.Registers mode escapes selections branches build') :
    build.Registers mode escapes selections branches build'.newState.2 :=
  h.andThen (of_eq (List.Subset.refl _) (List.Subset.refl _) rfl rfl rfl (Nat.le_succ _))

theorem addRole (h : build.Registers mode escapes selections branches build') (role : Role) :
    build.Registers mode escapes selections branches (build'.addRole role) :=
  h.andThen (of_eq (List.Subset.refl _) (List.Subset.refl _) rfl rfl rfl le_rfl)

theorem addRoles (h : build.Registers mode escapes selections branches build')
    (roles : List Role) :
    build.Registers mode escapes selections branches (roles.foldl Build.addRole build') := by
  induction roles generalizing build' with
  | nil => exact h
  | cons role rest ih => exact ih (h.addRole role)

theorem connect (h : build.Registers mode escapes selections branches build')
    (transition : Transition) :
    build.Registers mode escapes selections branches (build'.connect transition) := by
  refine h.andThen (of_eq ?_ ?_ ?_ ?_ ?_ ?_) <;>
    simp [ScopeStack.modifyAutomaton, Automaton.addTransition]

theorem markFinal (h : build.Registers mode escapes selections branches build') (state : State) :
    build.Registers mode escapes selections branches (build'.markFinal state) := by
  refine h.andThen (of_eq ?_ ?_ ?_ ?_ ?_ ?_) <;>
    simp [ScopeStack.modifyAutomaton, Automaton.markFinal]
  intro other hother
  exact StateSet.mem_insert.mpr (.inr hother)

theorem settle (h : build.Registers mode escapes selections branches build') {anchor : State}
    {exchange : Interaction} {source target : State} (message : Message)
    (hfree : build'.scopes.automaton.interruptAt anchor = none)
    (hfinal : anchor ∈ build'.scopes.automaton.finals)
    (hleads : Emits build'.scopes.automaton.Edge anchor [] source) :
    build.Registers mode (escapes ++ [⟨anchor, some exchange⟩]) selections branches
      ((build'.settle anchor (exchange.transition source target) message).connect
        (exchange.transition source target)) := by
  have hautomaton : ((build'.settle anchor (exchange.transition source target) message).connect
      (exchange.transition source target)).scopes.automaton =
      (build'.scopes.automaton.addInterrupt ⟨anchor, exchange.transition source target⟩
        ).addTransition (exchange.transition source target) := by
    simp [Build.settle, Build.modifyAutomaton, ScopeStack.modifyAutomaton]
  have hnext : ((build'.settle anchor (exchange.transition source target) message).connect
      (exchange.transition source target)).arena.next = build'.arena.next := by
    simp [Build.settle, Build.modifyAutomaton]
  have hsubset : build'.scopes.automaton.transitions ⊆
      build'.scopes.automaton.transitions ++ [exchange.transition source target] :=
    List.subset_append_left _ _
  have hstep : build'.Registers mode [⟨anchor, some exchange⟩] [] []
      ((build'.settle anchor (exchange.transition source target) message).connect
        (exchange.transition source target)) := by
    refine
      { transitions_subset := by rwa [hautomaton]
        finals_subset := by
          rw [hautomaton]
          exact List.Subset.refl _
        interrupts := ⟨[⟨anchor, exchange.transition source target⟩], by rw [hautomaton]; rfl,
          .cons ?_ .nil⟩
        anchors_nodup := ?_
        dispatch := by
          intro state
          rw [hautomaton]
          exact (List.append_nil _).symm
        selected := by simp
        nested := ⟨.empty, hnext ▸ Piece.fits_empty _, by rw [hautomaton]; rfl, .nil⟩ }
    · rw [hautomaton]
      exact
        { anchor_eq := rfl
          carries := ⟨exchange, source, target, rfl, rfl⟩
          mem_transitions := List.mem_append_right _ (List.mem_singleton_self _)
          mem_finals := hfinal
          leads := Automaton.emits_mono hsubset hleads }
    · -- An interrupt is only registered at an anchor that has none.
      intro hnodup
      rw [hautomaton, Automaton.addTransition, Automaton.addInterrupt, List.map_append]
      refine List.Nodup.append hnodup (List.nodup_singleton _) ?_
      rw [List.map_cons, List.map_nil, List.disjoint_singleton]
      intro hanchor
      obtain ⟨interrupt, hinterrupt, heq⟩ := List.mem_map.mp hanchor
      have hne := List.find?_eq_none.mp hfree interrupt hinterrupt
      simp [heq] at hne
  have htrans := h.trans hstep
  rwa [List.append_nil, List.append_nil] at htrans

theorem registerDispatch (h : build.Registers mode escapes selections branches build')
    (selection : Selection) {final : Build}
    (hselected : selection.transition ∈ build'.scopes.automaton.transitions)
    (hcursor : build'.scopes.cursor = selection.target)
    (hrun : Compiler.registerDispatch selection.state selection.key build' = .ok () final) :
    final.pending = build'.pending ∧
      build.Registers mode escapes (selections ++ [selection]) branches final := by
  rw [Compiler.registerDispatch_eq, hcursor] at hrun
  cases hrun
  refine ⟨pending_record _ _, ?_⟩
  apply record
  refine
    { transitions_subset := h.transitions_subset
      finals_subset := h.finals_subset
      interrupts := ?_
      anchors_nodup := h.anchors_nodup
      dispatch := ?_
      selected := ?_
      nested := h.nested }
  · obtain ⟨interrupts, heq, hserves⟩ := h.interrupts
    refine ⟨interrupts, heq, hserves.imp ?_⟩
    intro escape interrupt hserve
    exact hserve.mono (List.Subset.refl _) (List.Subset.refl _)
  · intro state
    have happend := Table.listAt_append selection.state state selection.entry
      build'.scopes.automaton.dispatch
    have hbefore := h.dispatch state
    rw [Automaton.dispatchAt] at hbefore ⊢
    refine happend.trans ?_
    rw [List.filter_append, List.map_append, ← List.append_assoc, ← hbefore]
    by_cases hstate : selection.state = state
    · subst hstate
      simp
    · simp [hstate]
  · intro other hother
    rcases List.mem_append.mp hother with hother | hother
    · exact h.selected other hother
    · obtain rfl := List.mem_singleton.mp hother
      exact hselected

end Build.Registers

def Work.leading? : Work → Option Interaction
  | .activity one => one.leadingInteraction.toOption
  | .activities list => Conversation.leading? list
  | _ => none

/-- The branches of a choice are compiled while the choice is open. -/
def Work.Opened (build : Build) : Work → Prop
  | .choiceBranches .. => build.scopes.current.choices ≠ []
  | .directedBranches .. => build.scopes.current.choices ≠ []
  | _ => True

/-- The compilation may go on with some work. If an interrupt is pending, it was armed in the
automaton under construction at a state that has none, is final and leads to the cursor silently;
and the work starts with a single interaction. -/
structure Build.Ready (build : Build) (work : Work) : Prop where
  level : build.Level
  opened : work.Opened build
  owner_eq : ∀ pending, build.pending = some pending → pending.owner = build.scopes.owner
  free : ∀ pending, build.pending = some pending →
    build.scopes.automaton.interruptAt pending.anchor = none
  mem_finals : ∀ pending, build.pending = some pending →
    pending.anchor ∈ build.scopes.automaton.finals
  leads : ∀ pending, build.pending = some pending →
    Emits build.scopes.automaton.Edge pending.anchor [] build.scopes.cursor
  leading : ∀ pending, build.pending = some pending → work.leading?.isSome

def Build.due (build : Build) (work : Work) : List Escape :=
  build.pending.toList.map fun pending => ⟨pending.anchor, work.leading?⟩

namespace Build.Ready

variable {build build' : Build} {work work' : Work}

theorem of_idle (hlevel : build.Level) (hpending : build.pending = none)
    (hopened : work.Opened build) : build.Ready work where
  level := hlevel
  opened := hopened
  owner_eq := by simp [hpending]
  free := by simp [hpending]
  mem_finals := by simp [hpending]
  leads := by simp [hpending]
  leading := by simp [hpending]

theorem pending_eq_none (h : build.Ready work) (hleading : work.leading? = none) :
    build.pending = none := by
  cases hpending : build.pending with
  | none => rfl
  | some pending =>
      have hsome := h.leading pending hpending
      rw [hleading] at hsome
      cases hsome

theorem due_eq_nil (hpending : build.pending = none) : build.due work = [] := by
  rw [Build.due, hpending]
  rfl

end Build.Ready

theorem Build.Level.grows {build build' : Build} {piece : Piece} {next cursor : State}
    {choices : List OpenChoice} (h : build.Level)
    (hgrows : build.Grows piece next cursor choices build') : build'.Level := by
  rw [Build.Level, hgrows.owner_eq, hgrows.suspended_eq]
  exact h

theorem Build.Level.openRecursion {build opened : Build} {label : String} (h : build.Level)
    (hopen : Compiler.openRecursion label build = .ok () opened) : opened.Level := by
  obtain ⟨-, hscopes⟩ := Compiler.openRecursion_eq_ok hopen
  rw [Build.Level, hscopes]
  exact h

theorem Build.Level.suits {build : Build} (h : build.Level) :
    build.Suits build.scopes.resolveRecursion :=
  ⟨h, fun _ _ hresolve => hresolve⟩

namespace Runs

variable {mode : LoopMode} {build build' : Build}

theorem grows_of_activity {one : Activity} (h : Runs mode (.activity one) build build')
    (hlevel : build.Level) :
    ∃ piece, build.Grows piece (one.after mode build.position).next
      (one.after mode build.position).cursor build.scopes.current.choices build' := by
  obtain ⟨piece, next, target, hlays, hgrows⟩ := h.laysOut _ [] [] hlevel.suits
  have hafter := hlays.after_eq
  simp only [Part.after] at hafter
  rw [Build.position, hafter]
  exact ⟨piece, hgrows⟩

theorem grows_of_activities {list : List Activity} (h : Runs mode (.activities list) build build')
    (hlevel : build.Level) :
    ∃ piece, build.Grows piece (afterAll mode list build.position).next
      (afterAll mode list build.position).cursor build.scopes.current.choices build' := by
  obtain ⟨piece, next, target, hlays, hgrows⟩ := h.laysOut _ [] [] hlevel.suits
  have hafter := hlays.after_eq
  simp only [Part.after] at hafter
  rw [Build.position, hafter]
  exact ⟨piece, hgrows⟩

end Runs

theorem Build.Grows.position_eq {build build' : Build} {piece : Piece} {next cursor : State}
    {choices : List OpenChoice} (h : build.Grows piece next cursor choices build') :
    build'.position = ⟨next, cursor⟩ := by
  rw [Build.position, h.next_eq, h.cursor_eq]

/-- An interaction never fails where the compilation may go on with it, and takes the pending
interrupt if there is one. -/
theorem Build.Ready.interaction {build : Build} {exchange : Interaction}
    (h : build.Ready (.activity (.interaction exchange))) (mode : LoopMode) :
    ∃ final, Compiler.interaction exchange build = .ok () final ∧ final.pending = none ∧
      build.Registers mode (build.due (.activity (.interaction exchange))) [] [] final ∧
      exchange.transition build.scopes.cursor build.arena.next ∈
        final.scopes.automaton.transitions := by
  let transition := exchange.transition build.scopes.cursor build.arena.next
  let named := build.newState.2.addRole exchange.partner
  have hnamed : build.Registers mode [] [] [] named :=
    (Registers.refl mode build).newState.addRole _
  simp only [Compiler.interaction_eq_ok_iff, Compiler.registerInterrupt_eq_ok_iff]
  cases hpending : build.pending with
  | none =>
      refine ⟨_, ⟨named, .inl ⟨?_, rfl⟩, rfl⟩, ?_, ?_, ?_⟩
      · intro pending hsome
        exact absurd (hpending.symm.trans hsome) (by simp)
      · rw [pending_modifyScopes, pending_connect]
        exact hpending
      · rw [Ready.due_eq_nil hpending]
        exact (hnamed.connect transition).modifyScopes rfl
      · simp [ScopeStack.setCursor, ScopeStack.modifyAutomaton, Automaton.addTransition]
  | some pending =>
      obtain ⟨anchor, owner⟩ := pending
      obtain rfl : owner = build.scopes.owner := h.owner_eq _ hpending
      refine ⟨_, ⟨_, .inr ⟨anchor, hpending, h.free _ hpending, rfl⟩, rfl⟩, ?_, ?_, ?_⟩
      · simp [Build.settle, Build.modifyAutomaton]
      · have hdue : build.due (.activity (.interaction exchange)) = [⟨anchor, some exchange⟩] := by
          rw [Build.due, hpending]
          rfl
        rw [hdue]
        refine (hnamed.settle exchange.message (h.free _ hpending) (h.mem_finals _ hpending)
          ?_).modifyScopes rfl
        exact Automaton.emits_mono hnamed.transitions_subset (h.leads _ hpending)
      · simp [ScopeStack.setCursor, ScopeStack.modifyAutomaton, Automaton.addTransition]

theorem Build.Level.fresh {build entered : Build} {anchor : State} (hlevel : build.Level)
    (hpending : build.pending = none)
    (henter : Compiler.enterParallelBranch anchor build = .ok () entered) :
    entered.Fresh build.arena.next := by
  cases henter
  exact
    { automaton_eq := ⟨[], rfl⟩
      position_eq := rfl
      choices_eq := rfl
      pending_eq := hpending
      level := rfl
      resolveRecursion_eq := fun label =>
        ScopeStack.resolveRecursion_enterBranch anchor _ label hlevel }

theorem Build.Level.parallelBranch {mode : LoopMode} {build entered ended left : Build}
    {anchor : State} {index : Nat} {branch : List Activity} {escapes : List Escape}
    {selections : List Selection} (hlevel : build.Level) (hpending : build.pending = none)
    (henter : Compiler.enterParallelBranch anchor build = .ok () entered)
    (hruns : Runs mode (.activities branch) entered ended)
    (hregisters : entered.Registers mode escapes selections (parallelBranchesOf branch) ended)
    (hleave : Compiler.leaveParallelBranch index anchor ended = .ok () left) :
    left.pending = ended.pending ∧ build.Registers mode [] [] [branch] left := by
  have hfresh := hlevel.fresh hpending henter
  obtain ⟨piece, hgrows⟩ := hruns.grows_of_activities hfresh.level
  obtain ⟨inner, hfits, hnested, hbuilt⟩ := hregisters.nested
  obtain ⟨hnext, hscopes⟩ := Compiler.enterParallelBranch_eq_ok henter
  have hinitial : ended.scopes.automaton.initial = build.arena.next := by
    rw [hgrows.automaton_grows.initial_eq, hscopes]
    rfl
  rw [hscopes] at hnested
  obtain ⟨hnext', hpending', hscopes'⟩ :=
    Compiler.leaveParallelBranch_eq_of_grows henter hgrows hleave
  let completed := ended.scopes.automaton.complete ended.scopes.cursor ended.arena.next
  have hautomaton : left.scopes.automaton = build.scopes.automaton.addBranch anchor completed := by
    rw [hscopes']
  have hle := hfits.le
  rw [hnext] at hle
  have hlt : build.arena.next < left.arena.next := by
    rw [hnext']
    exact Nat.lt_succ_of_lt hle
  have hbuilds : Builds mode branch completed := by
    refine ⟨entered, ended, ?_, hruns, rfl⟩
    change entered.Fresh ended.scopes.automaton.initial
    rwa [hinitial]
  refine ⟨hpending', ?_⟩
  exact
    { transitions_subset := by rw [hautomaton]; exact List.Subset.refl _
      finals_subset := by rw [hautomaton]; exact List.Subset.refl _
      interrupts := ⟨[], by rw [hautomaton]; exact (List.append_nil _).symm, .nil⟩
      anchors_nodup := by rw [hautomaton]; exact id
      dispatch := by
        intro state
        rw [hautomaton]
        exact (List.append_nil _).symm
      selected := by simp
      nested := ⟨.branch anchor completed, Piece.fits_branch hinitial hlt, by rw [hautomaton]; rfl,
        .cons ⟨hbuilds, .of_piece hfits hnested hbuilt⟩ .nil⟩ }

def Work.escapes (mode : LoopMode) (build : Build) : Work → List Escape
  | .activity one => one.escapes mode build.position
  | .activities list => escapesOf mode list build.position
  | .choiceBranches start _ branches =>
      escapesOfChoices mode build.exit? branches ⟨build.arena.next, start⟩
  | .directedBranches start _ branches =>
      escapesOfDirected mode build.exit? branches ⟨build.arena.next, start⟩
  | .parallelBranches .. => []

def Work.selections (mode : LoopMode) (build : Build) : Work → List Selection
  | .activity one => one.selections mode build.position
  | .activities list => selectionsOf mode list build.position
  | .choiceBranches start _ branches =>
      selectionsOfChoices mode build.exit? branches ⟨build.arena.next, start⟩
  | .directedBranches start _ branches =>
      selectionsOfDirected mode build.exit? branches ⟨build.arena.next, start⟩
  | .parallelBranches .. => []

def Work.regions : Work → List (List Activity)
  | .activity one => one.parallelBranches
  | .activities list => parallelBranchesOf list
  | .choiceBranches _ _ branches => parallelBranchesOfAll branches
  | .directedBranches _ _ branches => parallelBranchesOfDirected branches
  | .parallelBranches _ _ branches => branches

theorem Compiler.openChoice_eq_ok {build opened : Build} {branches : Nat} {start : State}
    (mode : LoopMode) (hrun : Compiler.openChoice branches build = .ok start opened) :
    opened.pending = build.pending ∧ build.Registers mode [] [] [] opened ∧ opened.exit? = none ∧
      (⟨opened.arena.next, start⟩ : Position) = build.position ∧
      opened.scopes.current.choices ≠ [] ∧ (build.Level → opened.Level) := by
  obtain ⟨rfl, hgrows⟩ := build.grows_refl.openChoice hrun
  cases hrun
  refine ⟨by simp, ((Build.Registers.refl mode build).record _).modifyScopes rfl, ?_, ?_, ?_,
    fun hlevel => hlevel.grows hgrows⟩
  · rw [Build.exit?, ScopeStack.choice, hgrows.choices_eq]
    rfl
  · rw [hgrows.next_eq]
    rfl
  · rw [hgrows.choices_eq]
    simp

theorem Build.Registers.converge {mode : LoopMode} {build ended converged : Build}
    {escapes : List Escape} {selections : List Selection} {branches : List (List Activity)}
    (h : build.Registers mode escapes selections branches ended) (start : State)
    (hpending : ended.pending = none) (hlevel : ended.Level)
    (hchoices : ended.scopes.current.choices = build.scopes.current.choices)
    (hopened : build.scopes.current.choices ≠ [])
    (hrun : Compiler.converge ended = .ok () converged) :
    build.Registers mode escapes selections branches converged ∧ converged.pending = none ∧
      converged.Level ∧ converged.scopes.current.choices ≠ [] ∧
      converged.exit? = some (ended.position.exit build.exit?) ∧
      converged.arena.next = (ended.position.resume build.exit? start).next := by
  obtain ⟨⟨entry, exit⟩, choices, hcons⟩ := List.exists_cons_of_ne_nil hopened
  have hexit : build.exit? = exit := by simp [Build.exit?, ScopeStack.choice, hcons]
  have hexit' : ended.exit? = exit := by simp [Build.exit?, ScopeStack.choice, hchoices, hcons]
  have hended := ended.grows_refl
  rw [hchoices, hcons] at hended
  cases exit with
  | none =>
      have hgrows := hended.converge_none [] hrun
      rw [Compiler.converge_of_none hexit'] at hrun
      cases hrun
      refine ⟨?_, by simpa using hpending, hlevel.grows hgrows, ?_, ?_, ?_⟩
      · refine (h.newState.modifyScopes ?_).connect _
        simp [ScopeStack.setChoiceExit, ScopeStack.modifyAutomaton, hchoices, hcons]
      · rw [hgrows.choices_eq]
        simp
      · rw [Build.exit?, ScopeStack.choice, hgrows.choices_eq, hexit]
        rfl
      · rw [hgrows.next_eq, hexit]
        rfl
  | some exit =>
      have hgrows := hended.converge_some hrun
      rw [Compiler.converge_of_some hexit'] at hrun
      cases hrun
      refine ⟨h.connect _, by simpa using hpending, hlevel.grows hgrows, ?_, ?_, ?_⟩
      · rw [hgrows.choices_eq]
        simp
      · rw [Build.exit?, ScopeStack.choice, hgrows.choices_eq, hexit]
        rfl
      · rw [hgrows.next_eq, hexit]
        rfl

theorem Build.Registers.enterChoiceBranch {build entered : Build} {index : Nat} {start : State}
    (mode : LoopMode) (hidle : build.pending = none)
    (henter : Compiler.enterChoiceBranch index start build = .ok () entered) :
    build.Registers mode [] [] [] entered ∧ entered.pending = none := by
  cases henter
  exact ⟨((Registers.refl mode build).modifyScopes rfl).record _, by simpa using hidle⟩

namespace Build.Ready

variable {mode : LoopMode} {build build' : Build} {work work' : Work}

/-- Where nothing has been registered in between and the cursor has moved silently, the compilation
may go on with what starts in the same way. -/
theorem move (h : build.Ready work) (hlevel : build'.Level) (hopened : work'.Opened build')
    (hregisters : build.Registers mode [] [] [] build') (hpending : build'.pending = build.pending)
    (howner : build'.scopes.owner = build.scopes.owner)
    (hinterrupts : build'.scopes.automaton.interrupts = build.scopes.automaton.interrupts)
    (hmoves : Emits build'.scopes.automaton.Edge build.scopes.cursor [] build'.scopes.cursor)
    (hleading : work'.leading? = work.leading?) : build'.Ready work' where
  level := hlevel
  opened := hopened
  owner_eq := by
    intro pending hsome
    rw [howner]
    exact h.owner_eq pending (hpending ▸ hsome)
  free := by
    intro pending hsome
    rw [Automaton.interruptAt, hinterrupts]
    exact h.free pending (hpending ▸ hsome)
  mem_finals := by
    intro pending hsome
    exact hregisters.finals_subset (h.mem_finals pending (hpending ▸ hsome))
  leads := by
    intro pending hsome
    have hleads := h.leads pending (hpending ▸ hsome)
    exact (Automaton.emits_mono hregisters.transitions_subset hleads).trans_silent hmoves
  leading := by
    intro pending hsome
    rw [hleading]
    exact h.leading pending (hpending ▸ hsome)

end Build.Ready

theorem leading?_loop {body : List Activity} (h : body ≠ []) :
    leading? body = (Work.activity (.loop body)).leading? := by
  cases body with
  | nil => exact absurd rfl h
  | cons first rest =>
      rw [leading?, Work.leading?, Activity.leadingInteraction]

theorem leading?_recursion (label : String) {body : List Activity} (h : body ≠ []) :
    leading? body = (Work.activity (.recursion label body)).leading? := by
  cases body with
  | nil => exact absurd rfl h
  | cons first rest =>
      rw [leading?, Work.leading?, Activity.leadingInteraction]

theorem Compiler.leading?_isSome {handler : List Activity} {build : Build} (hne : handler ≠ [])
    (h : Compiler.requireLeading handler build = .ok () build) : (leading? handler).isSome := by
  cases handler with
  | nil => exact absurd rfl hne
  | cons first rest =>
      cases hfirst : first.leadingInteraction with
      | ok exchange => simp [leading?, hfirst, Except.toOption]
      | error found =>
          simp only [Compiler.requireLeading, hfirst] at h
          exact absurd h Builder.throw_ne_ok

theorem Build.Ready.openLoop {mode : LoopMode} {build opened : Build} {body : List Activity}
    {head : State} (h : build.Ready (.activity (.loop body))) (hne : body ≠ [])
    (hopen : Compiler.openLoop mode build = .ok head opened) :
    opened.Ready (.activities body) ∧ build.Registers mode [] [] [] opened ∧
      opened.pending = build.pending ∧ opened.position = build.position.enterLoop mode := by
  have hleading := leading?_loop hne
  cases mode with
  | once =>
      have hgrows := build.grows_refl.openLoop_once hopen
      rw [Compiler.openLoop_once_eq] at hopen
      cases hopen
      have hregisters := (Registers.refl .once build).record (.loopEntered build.scopes.cursor)
      refine ⟨h.move (h.level.grows hgrows) trivial hregisters ?_ ?_ ?_ ?_ hleading,
        hregisters, ?_, hgrows.position_eq⟩ <;> simp
      exact .refl _
  | loop =>
      have hgrows := (build.grows_refl.openLoop_loop [] hopen).2
      rw [Compiler.openLoop_loop_eq] at hopen
      have hregisters : build.Registers .loop [] [] [] opened := by
        cases hopen
        exact (((Registers.refl .loop build).newState.connect _).modifyScopes rfl).record _
      cases hopen
      refine ⟨h.move (h.level.grows hgrows) trivial hregisters ?_ hgrows.owner_eq ?_ ?_ hleading,
        hregisters, ?_, hgrows.position_eq⟩
      · simp
      · simp [ScopeStack.setCursor, ScopeStack.modifyAutomaton, Automaton.addTransition,
          Automaton.addState]
      · rw [hgrows.cursor_eq]
        refine .silent_head ⟨.silent build.scopes.cursor build.arena.next, ?_, rfl, rfl, rfl⟩
          (.refl _)
        simp [ScopeStack.setCursor, ScopeStack.modifyAutomaton, Automaton.addTransition]
      · simp

theorem Build.Ready.openRecursion {build opened : Build} {label : String} {body : List Activity}
    (mode : LoopMode) (h : build.Ready (.activity (.recursion label body))) (hne : body ≠ [])
    (hopen : Compiler.openRecursion label build = .ok () opened) :
    opened.Ready (.activities body) ∧ build.Registers mode [] [] [] opened ∧
      opened.pending = build.pending ∧ opened.position = build.position := by
  have hregisters : build.Registers mode [] [] [] opened := by
    cases hopen
    exact ((Registers.refl mode build).modifyScopes rfl).record _
  obtain ⟨harena, hscopes⟩ := Compiler.openRecursion_eq_ok hopen
  have hposition : opened.position = build.position := by
    rw [position, harena, hscopes]
    rfl
  have hpending : opened.pending = build.pending := by
    cases hopen
    simp
  refine ⟨h.move ?_ trivial hregisters hpending ?_ ?_ ?_ (leading?_recursion label hne),
    hregisters, hpending, hposition⟩
  · exact h.level.openRecursion hopen
  · rw [hscopes]
    rfl
  · rw [hscopes]
    rfl
  · rw [hscopes]
    exact .refl _

theorem Build.Registers.closeRecursion {mode : LoopMode} {build opened closing final : Build}
    {label : String} {escapes : List Escape} {selections : List Selection}
    {branches : List (List Activity)} {piece : Piece} {next last : State}
    {choices : List OpenChoice}
    (h : build.Registers mode escapes selections branches closing)
    (hopen : Compiler.openRecursion label build = .ok () opened)
    (hgrows : opened.Grows piece next last choices closing)
    (hclose : Compiler.closeRecursion label closing = .ok () final) :
    final.pending = closing.pending ∧ build.Registers mode escapes selections branches final := by
  obtain ⟨harena, hpending, hautomaton⟩ := Compiler.closeRecursion_eq_ok hopen hgrows hclose
  refine ⟨hpending, h.andThen (of_eq ?_ ?_ ?_ ?_ ?_ ?_)⟩ <;> simp [harena, hautomaton]

theorem Build.Ready.armInterrupt {build armed : Build} {role : Role} {handler : List Activity}
    (mode : LoopMode) (hlevel : build.Level) (hleading : (leading? handler).isSome)
    (harm : Compiler.armInterrupt role build = .ok () armed) :
    armed.Ready (.activities handler) ∧ build.Registers mode [] [] [] armed ∧
      armed.due (.activities handler) = [⟨build.scopes.cursor, leading? handler⟩] ∧
      armed.position = build.position := by
  have hgrows := build.grows_refl.armInterrupt harm
  obtain ⟨hfree, hfinal⟩ := Compiler.armInterrupt_eq_ok_iff.mp harm
  have hscopes : armed.scopes = (build.markFinal build.scopes.cursor).scopes := by
    rw [hfinal]
    exact scopes_record _ _
  have hautomaton : armed.scopes.automaton =
      build.scopes.automaton.markFinal build.scopes.cursor := by
    rw [hscopes, scopes_markFinal]
    rfl
  have hregisters : build.Registers mode [] [] [] armed := by
    refine ((Registers.refl mode build).markFinal build.scopes.cursor).congr ?_ hscopes
    rw [hfinal]
    exact arena_record _ _
  have hpending : armed.pending = some ⟨build.scopes.cursor, build.scopes.owner⟩ := by
    rw [hfinal]
    exact pending_record _ _
  have harmed : ∀ {motive : PendingInterrupt → Prop},
      motive ⟨build.scopes.cursor, build.scopes.owner⟩ →
      ∀ pending, armed.pending = some pending → motive pending := by
    intro motive hmotive pending hsome
    obtain rfl := Option.some.inj (hpending.symm.trans hsome)
    exact hmotive
  refine ⟨⟨hlevel.grows hgrows, trivial, harmed ?_, harmed ?_, harmed ?_, harmed ?_, harmed ?_⟩,
    hregisters, ?_, hgrows.position_eq⟩
  · exact hgrows.owner_eq.symm
  · rw [hautomaton]
    exact hfree
  · rw [hautomaton]
    exact StateSet.mem_insert.mpr (.inl rfl)
  · rw [hgrows.cursor_eq]
    exact .refl _
  · exact hleading
  · rw [due, hpending]
    rfl

/-- What a run of some work has registered when it is done: no interrupt is left pending, and the
rest is what the positions say. -/
def Work.Registered (mode : LoopMode) (work : Work) (build build' : Build) : Prop :=
  build'.pending = none ∧
    build.Registers mode (build.due work ++ work.escapes mode build)
      (work.selections mode build) work.regions build'

namespace Work.Registered

variable {mode : LoopMode} {work : Work} {build opened closing final : Build}

theorem of_idle (hidle : build.pending = none) (hpending : final.pending = none)
    (h : build.Registers mode (work.escapes mode build) (work.selections mode build) work.regions
      final) : work.Registered mode build final := by
  refine ⟨hpending, ?_⟩
  rw [Build.Ready.due_eq_nil hidle]
  exact h

theorem registers (h : work.Registered mode build final) (hidle : build.pending = none) :
    build.Registers mode (work.escapes mode build) (work.selections mode build) work.regions
      final := by
  have hregisters := h.2
  rw [Build.Ready.due_eq_nil hidle] at hregisters
  exact hregisters

theorem cons {first : Activity} {rest : List Activity} {between : Build}
    (hready : build.Ready (.activities (first :: rest)))
    (hruns : Runs mode (.activity first) build between)
    (hfirst : (Work.activity first).Registered mode build between)
    (hrest : between.Ready (.activities rest) →
      (Work.activities rest).Registered mode between final) :
    (Work.activities (first :: rest)).Registered mode build final := by
  obtain ⟨hpending, h₁⟩ := hfirst
  obtain ⟨piece, hgrows⟩ := hruns.grows_of_activity hready.level
  have h₂ := hrest (.of_idle (hready.level.grows hgrows) hpending trivial)
  refine ⟨h₂.1, ?_⟩
  have htrans := h₁.trans (h₂.registers hpending)
  rw [List.append_assoc] at htrans
  simp only [Work.escapes, Work.selections, Work.regions, escapesOf, selectionsOf,
    hgrows.position_eq] at htrans ⊢
  exact htrans

theorem interaction {exchange : Interaction}
    (hready : build.Ready (.activity (.interaction exchange)))
    (hrun : Compiler.interaction exchange build = .ok () final) :
    (Work.activity (.interaction exchange)).Registered mode build final := by
  obtain ⟨final, hrun', hpending, hregisters, -⟩ := hready.interaction mode
  rw [hrun] at hrun'
  cases hrun'
  refine ⟨hpending, ?_⟩
  rw [Work.escapes, Activity.escapes, List.append_nil]
  exact hregisters

theorem choice {branches : List (List Activity)} {start : State}
    (hready : build.Ready (.activity (.choice branches)))
    (hopen : Compiler.openChoice branches.length build = .ok start opened)
    (hbranches : opened.Ready (.choiceBranches start 0 branches) →
      (Work.choiceBranches start 0 branches).Registered mode opened closing)
    (hclose : Compiler.closeChoice start closing = .ok () final) :
    (Work.activity (.choice branches)).Registered mode build final := by
  have hidle := hready.pending_eq_none rfl
  obtain ⟨hpending, hopened, hexit, hposition, hchoices, hlevel⟩ :=
    Compiler.openChoice_eq_ok mode hopen
  have hidle' := hpending.trans hidle
  have hall := hbranches (.of_idle (hlevel hready.level) hidle' hchoices)
  have hregisters := hall.registers hidle'
  simp only [Work.escapes, Work.selections, hexit, hposition] at hregisters
  cases hclose
  exact of_idle hidle (by simpa using hall.1)
    (((hopened.trans hregisters).modifyScopes rfl).record _)

theorem directedChoice {sender : Role} {receivers : List Role} {branches : List DirectedBranch}
    {named₁ named₂ : Build} {start : State}
    (hready : build.Ready (.activity (.directedChoice sender receivers branches)))
    (hsender : Compiler.addRole sender build = .ok () named₁)
    (hreceivers : Compiler.addRoles receivers named₁ = .ok () named₂)
    (hopen : Compiler.openChoice branches.length named₂ = .ok start opened)
    (hbranches : opened.Ready (.directedBranches start 0 branches) →
      (Work.directedBranches start 0 branches).Registered mode opened closing)
    (hclose : Compiler.closeChoice start closing = .ok () final) :
    (Work.activity (.directedChoice sender receivers branches)).Registered mode build final := by
  have hidle := hready.pending_eq_none rfl
  have hgrows := (build.grows_refl.addRole hsender).addRoles hreceivers
  have hnamed : build.Registers mode [] [] [] named₂ ∧ named₂.pending = none := by
    rw [Compiler.addRoles_eq] at hreceivers
    cases hsender
    cases hreceivers
    exact ⟨((Build.Registers.refl mode build).addRole sender).addRoles receivers,
      (Build.pending_addRoles receivers _).trans hidle⟩
  obtain ⟨hpending, hopened, hexit, hposition, hchoices, hlevel⟩ :=
    Compiler.openChoice_eq_ok mode hopen
  have hidle' := hpending.trans hnamed.2
  have hall := hbranches (.of_idle (hlevel (hready.level.grows hgrows)) hidle' hchoices)
  have hregisters := hall.registers hidle'
  simp only [Work.escapes, Work.selections, hexit, hposition, hgrows.position_eq] at hregisters
  cases hclose
  exact of_idle hidle (by simpa using hall.1)
    ((((hnamed.1.trans hopened).trans hregisters).modifyScopes rfl).record _)

theorem parallel {branches : List (List Activity)} {anchor join : State}
    (hready : build.Ready (.activity (.parallel branches)))
    (hopen : Compiler.openParallel branches.length build = .ok (anchor, join) opened)
    (hbranches : opened.Ready (.parallelBranches anchor 0 branches) →
      (Work.parallelBranches anchor 0 branches).Registered mode opened closing)
    (hclose : Compiler.closeParallel anchor join closing = .ok () final) :
    (Work.activity (.parallel branches)).Registered mode build final := by
  have hidle := hready.pending_eq_none rfl
  obtain ⟨rfl, rfl, hgrows⟩ := build.grows_refl.openParallel [] hopen
  have hopened : build.Registers mode [] [] [] opened ∧ opened.pending = none := by
    cases hopen
    exact ⟨(Build.Registers.refl mode build).newState.record _,
      (Build.pending_record _ _).trans hidle⟩
  have hall := hbranches (.of_idle (hready.level.grows hgrows) hopened.2 trivial)
  have hregisters := hall.registers hopened.2
  cases hclose
  exact of_idle hidle (by simpa using hall.1)
    (((hopened.1.trans hregisters).connect _).modifyScopes rfl |>.record _)

theorem loop {body : List Activity} {head : State}
    (hready : build.Ready (.activity (.loop body))) (hne : body ≠ [])
    (hopen : Compiler.openLoop mode build = .ok head opened)
    (hbody : opened.Ready (.activities body) →
      (Work.activities body).Registered mode opened closing)
    (hclose : Compiler.closeLoop mode head closing = .ok () final) :
    (Work.activity (.loop body)).Registered mode build final := by
  obtain ⟨hready', hopened, hpending, hposition⟩ := hready.openLoop hne hopen
  obtain ⟨hpending', hregisters⟩ := hbody hready'
  have hdue : opened.due (.activities body) = build.due (.activity (.loop body)) := by
    rw [Build.due, hpending, Build.due, ← leading?_loop hne]
    rfl
  rw [hdue] at hregisters
  simp only [Work.escapes, Work.selections, hposition] at hregisters
  cases mode with
  | once =>
      cases hclose
      exact ⟨by simpa using hpending', (hopened.trans hregisters).record _⟩
  | loop =>
      cases hclose
      exact ⟨by simpa using hpending', ((hopened.trans hregisters).connect _).record _⟩

theorem recursion {label : String} {body : List Activity}
    (hready : build.Ready (.activity (.recursion label body))) (hne : body ≠ [])
    (hopen : Compiler.openRecursion label build = .ok () opened)
    (hruns : Runs mode (.activities body) opened closing)
    (hbody : opened.Ready (.activities body) →
      (Work.activities body).Registered mode opened closing)
    (hclose : Compiler.closeRecursion label closing = .ok () final) :
    (Work.activity (.recursion label body)).Registered mode build final := by
  obtain ⟨hready', hopened, hpending, hposition⟩ := hready.openRecursion mode hne hopen
  obtain ⟨hpending', hregisters⟩ := hbody hready'
  obtain ⟨piece, hgrows⟩ := hruns.grows_of_activities hready'.level
  have hdue : opened.due (.activities body) = build.due (.activity (.recursion label body)) := by
    rw [Build.due, hpending, Build.due, ← leading?_recursion label hne]
    rfl
  rw [hdue] at hregisters
  simp only [Work.escapes, Work.selections, hposition] at hregisters
  obtain ⟨hpending'', hclosed⟩ := (hopened.trans hregisters).closeRecursion hopen hgrows hclose
  exact ⟨hpending''.trans hpending', hclosed⟩

theorem call {label : String} (hready : build.Ready (.activity (.call label)))
    (hrun : Compiler.call label build = .ok () final) :
    (Work.activity (.call label)).Registered mode build final := by
  have hidle := hready.pending_eq_none rfl
  obtain ⟨start, -, rfl⟩ := Compiler.call_eq_ok_iff.mp hrun
  exact of_idle hidle (by simpa using hidle)
    ((((Build.Registers.refl mode build).connect _).record _).newState.modifyScopes rfl)

theorem escape {body handler : List Activity} {role : Role}
    {named anchored armed handled : Build}
    (hready : build.Ready (.activity (.escape body role handler))) (hne : handler ≠ [])
    (hleading : Compiler.requireLeading handler build = .ok () build)
    (hrole : Compiler.addRole role build = .ok () named)
    (hruns : Runs mode (.activities body) named anchored)
    (hbody : named.Ready (.activities body) →
      (Work.activities body).Registered mode named anchored)
    (harm : Compiler.armInterrupt role anchored = .ok () armed)
    (hhandler : armed.Ready (.activities handler) →
      (Work.activities handler).Registered mode armed handled)
    (hdisarm : Compiler.disarmInterrupt handled = .ok () final) :
    (Work.activity (.escape body role handler)).Registered mode build final := by
  have hidle := hready.pending_eq_none rfl
  have hgrows := build.grows_refl.addRole hrole
  have hnamed : build.Registers mode [] [] [] named ∧ named.pending = none := by
    cases hrole
    exact ⟨(Build.Registers.refl mode build).addRole role, hidle⟩
  have hlevel := hready.level.grows hgrows
  have h₁ := (hbody (.of_idle hlevel hnamed.2 trivial)).registers hnamed.2
  obtain ⟨piece, hgrows₁⟩ := hruns.grows_of_activities hlevel
  obtain ⟨hready', harmed, hdue, hposition⟩ := Build.Ready.armInterrupt mode
    (hlevel.grows hgrows₁) (Compiler.leading?_isSome hne hleading) harm
  obtain ⟨-, h₂⟩ := hhandler hready'
  have hregisters := ((hnamed.1.trans h₁).trans harmed).trans h₂
  have hposition₀ : named.position = build.position := hgrows.position_eq
  have hposition₁ : anchored.position = afterAll mode body named.position := hgrows₁.position_eq
  have hcursor₁ : anchored.scopes.cursor = (afterAll mode body named.position).cursor :=
    hgrows₁.cursor_eq
  rw [hdue] at hregisters
  simp only [Work.escapes, Work.selections, Work.regions, hposition, hposition₁, hcursor₁,
    hposition₀, List.nil_append, List.append_nil] at hregisters
  cases hdisarm
  exact of_idle hidle rfl (hregisters.congr rfl rfl)

theorem finish (hready : build.Ready (.activity .finish)) :
    (Work.activity .finish).Registered mode build (build.markFinal build.scopes.cursor) := by
  have hidle := hready.pending_eq_none rfl
  exact of_idle hidle (by simpa using hidle) ((Build.Registers.refl mode _).markFinal _)

theorem choiceBranch {start : State} {index : Nat} {branch : List Activity}
    {rest : List (List Activity)} {entered ended converged : Build}
    (hready : build.Ready (.choiceBranches start index (branch :: rest)))
    (henter : Compiler.enterChoiceBranch index start build = .ok () entered)
    (hruns : Runs mode (.activities branch) entered ended)
    (hbranch : entered.Ready (.activities branch) →
      (Work.activities branch).Registered mode entered ended)
    (hconverge : Compiler.converge ended = .ok () converged)
    (hrest : converged.Ready (.choiceBranches start (index + 1) rest) →
      (Work.choiceBranches start (index + 1) rest).Registered mode converged final) :
    (Work.choiceBranches start index (branch :: rest)).Registered mode build final := by
  have hidle := hready.pending_eq_none rfl
  have hgrows := build.grows_refl.enterChoiceBranch henter
  obtain ⟨hentered, hidle₀⟩ := Build.Registers.enterChoiceBranch mode hidle henter
  have hlevel := hready.level.grows hgrows
  have h₁ := hbranch (.of_idle hlevel hidle₀ trivial)
  obtain ⟨piece, hgrows₁⟩ := hruns.grows_of_activities hlevel
  obtain ⟨hconverged, hidle₁, hlevel₁, hopened, hexit, hnext⟩ :=
    (hentered.trans (h₁.registers hidle₀)).converge start h₁.1 (hlevel.grows hgrows₁)
      (hgrows₁.choices_eq.trans hgrows.choices_eq) hready.opened hconverge
  have h₂ := hrest (.of_idle hlevel₁ hidle₁ hopened)
  have hregisters := hconverged.trans (h₂.registers hidle₁)
  have hposition₀ : entered.position = ⟨build.arena.next, start⟩ := hgrows.position_eq
  have hposition₁ : ended.position = afterAll mode branch entered.position := hgrows₁.position_eq
  simp only [Work.escapes, Work.selections, Work.regions, hexit, hnext, hposition₁, hposition₀,
    List.nil_append] at hregisters
  exact of_idle hidle h₂.1 hregisters

theorem directedBranch {start : State} {index : Nat} {exchange : Interaction}
    {body : List Activity} {rest : List DirectedBranch}
    {entered selected registered ended converged : Build}
    (hready : build.Ready (.directedBranches start index (.mk exchange body :: rest)))
    (henter : Compiler.enterChoiceBranch index start build = .ok () entered)
    (hselect : Compiler.interaction exchange entered = .ok () selected)
    (hregister : Compiler.registerDispatch start exchange.dispatchKey selected = .ok () registered)
    (hruns : Runs mode (.activities body) registered ended)
    (hbody : registered.Ready (.activities body) →
      (Work.activities body).Registered mode registered ended)
    (hconverge : Compiler.converge ended = .ok () converged)
    (hrest : converged.Ready (.directedBranches start (index + 1) rest) →
      (Work.directedBranches start (index + 1) rest).Registered mode converged final) :
    (Work.directedBranches start index (.mk exchange body :: rest)).Registered mode build
      final := by
  have hidle := hready.pending_eq_none rfl
  have hgrows := build.grows_refl.enterChoiceBranch henter
  obtain ⟨hentered, hidle₀⟩ := Build.Registers.enterChoiceBranch mode hidle henter
  have hready' : entered.Ready (.activity (.interaction exchange)) :=
    .of_idle (hready.level.grows hgrows) hidle₀ trivial
  obtain ⟨_, hselect', hidle₁, hselected, hmem⟩ := hready'.interaction mode
  rw [hselect] at hselect'
  cases hselect'
  rw [Build.Ready.due_eq_nil hidle₀] at hselected
  rw [hgrows.next_eq, hgrows.cursor_eq] at hmem
  have hgrows₁ := hgrows.interaction [] hselect
  obtain ⟨hidle₂, hregistered⟩ := (hentered.trans hselected).registerDispatch
    ⟨start, exchange, build.arena.next⟩ hmem hgrows₁.cursor_eq hregister
  have hgrows₂ := hgrows₁.registerDispatch hregister
  have hlevel := hready.level.grows hgrows₂
  have hidle₃ := hidle₂.trans hidle₁
  have h₁ := hbody (.of_idle hlevel hidle₃ trivial)
  obtain ⟨piece, hgrows₃⟩ := hruns.grows_of_activities hlevel
  obtain ⟨hconverged, hidle₄, hlevel₄, hopened, hexit, hnext⟩ :=
    (hregistered.trans (h₁.registers hidle₃)).converge start h₁.1 (hlevel.grows hgrows₃)
      (hgrows₃.choices_eq.trans hgrows₂.choices_eq) hready.opened hconverge
  have h₂ := hrest (.of_idle hlevel₄ hidle₄ hopened)
  have hregisters := hconverged.trans (h₂.registers hidle₄)
  have hposition₀ : registered.position = .fresh build.arena.next := hgrows₂.position_eq
  have hposition₁ : ended.position = afterAll mode body registered.position :=
    hgrows₃.position_eq
  simp only [Work.escapes, Work.selections, Work.regions, hexit, hnext, hposition₁, hposition₀,
    List.nil_append] at hregisters
  exact of_idle hidle h₂.1 hregisters

theorem parallelBranch {anchor : State} {index : Nat} {branch : List Activity}
    {rest : List (List Activity)} {entered ended left : Build}
    (hready : build.Ready (.parallelBranches anchor index (branch :: rest)))
    (henter : Compiler.enterParallelBranch anchor build = .ok () entered)
    (hruns : Runs mode (.activities branch) entered ended)
    (hbranch : entered.Ready (.activities branch) →
      (Work.activities branch).Registered mode entered ended)
    (hleave : Compiler.leaveParallelBranch index anchor ended = .ok () left)
    (hrest : left.Ready (.parallelBranches anchor (index + 1) rest) →
      (Work.parallelBranches anchor (index + 1) rest).Registered mode left final) :
    (Work.parallelBranches anchor index (branch :: rest)).Registered mode build final := by
  have hidle := hready.pending_eq_none rfl
  have hfresh := hready.level.fresh hidle henter
  obtain ⟨hpending, h₁⟩ := hbranch (.of_idle hfresh.level hfresh.pending_eq trivial)
  obtain ⟨hpending', hleft⟩ := hready.level.parallelBranch hidle henter hruns h₁ hleave
  obtain ⟨piece, hgrows⟩ := hruns.grows_of_activities hfresh.level
  obtain ⟨_, -, hgrows'⟩ := Compiler.grows_of_parallelBranch henter hgrows hleave
  have hidle' := hpending'.trans hpending
  have h₂ := hrest (.of_idle (hready.level.grows hgrows') hidle' trivial)
  exact of_idle hidle h₂.1 (hleft.trans (h₂.registers hidle'))

end Work.Registered

/-- A run leaves no interrupt pending, and registers what its positions say. -/
theorem Runs.registers {mode : LoopMode} {work : Work} {build build' : Build}
    (h : Runs mode work build build') (hready : build.Ready work) :
    work.Registered mode build build' := by
  -- Only an interaction, and what starts with one, may be entered while an interrupt is pending.
  induction h with
  | nil | choiceBranchesNil | directedBranchesNil | parallelBranchesNil =>
      have hidle := hready.pending_eq_none rfl
      exact .of_idle hidle hidle (.refl mode _)
  | cons hfirst _ ih₁ ih₂ => exact .cons hready hfirst (ih₁ { hready with opened := trivial }) ih₂
  | interaction hrun => exact .interaction hready hrun
  | choice _ _ hopen _ hclose ih => exact .choice hready hopen ih hclose
  | directedChoice _ _ hsender hreceivers hopen _ hclose ih =>
      exact .directedChoice hready hsender hreceivers hopen ih hclose
  | parallel _ _ hopen _ hclose ih => exact .parallel hready hopen ih hclose
  | loop hne hopen _ hclose ih => exact .loop hready hne hopen ih hclose
  | recursion hne hopen hbody hclose ih => exact .recursion hready hne hopen hbody ih hclose
  | call hrun => exact .call hready hrun
  | escape _ hne hleading hrole hbody harm _ hdisarm ih₁ ih₂ =>
      exact .escape hready hne hleading hrole hbody ih₁ harm ih₂ hdisarm
  | finish => exact .finish hready
  | choiceBranchesCons henter hbranch hconverge _ ih₁ ih₂ =>
      exact .choiceBranch hready henter hbranch ih₁ hconverge ih₂
  | directedBranchesCons henter hselect hregister hbody hconverge _ ih₁ ih₂ =>
      exact .directedBranch hready henter hselect hregister hbody ih₁ hconverge ih₂
  | parallelBranchesCons henter hbranch hleave _ ih₁ ih₂ =>
      exact .parallelBranch hready henter hbranch ih₁ hleave ih₂

end Conversation

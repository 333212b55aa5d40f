import Conversation.Proofs.Logs
import Conversation.Proofs.Passivity
import Conversation.Proofs.WellFormed

namespace Conversation

namespace Compiler

variable {mode : LoopMode} {build final : Build} {start state : State}

theorem logs_openChoice {branches : Nat} (h : openChoice branches build = .ok start final) :
    build.Logs [.choiceEntered start branches] final := by
  rw [openChoice_eq] at h
  cases h
  exact ((Build.Logs.refl build).record _ rfl).modifyScopes rfl rfl

theorem logs_enterChoiceBranch {index : Nat}
    (h : enterChoiceBranch index start build = .ok () final) :
    build.Logs [.choiceBranchEntered index start] final := by
  rw [enterChoiceBranch_eq] at h
  cases h
  exact ((Build.Logs.refl build).modifyScopes rfl rfl).record _ rfl

theorem logs_closeChoice (h : closeChoice start build = .ok () final) :
    ∃ exit, build.Logs [.choiceLeft exit] final := by
  rw [closeChoice_eq] at h
  cases h
  exact ⟨_, ((Build.Logs.refl build).modifyScopes rfl rfl).record _ rfl⟩

theorem logs_registerDispatch {key : DispatchKey} (hstate : state ∈ build.scopes.automaton.states)
    (h : registerDispatch state key build = .ok () final) :
    build.Logs [.dispatchRegistered state key build.scopes.cursor] final := by
  rw [registerDispatch_eq] at h
  cases h
  exact (Build.Logs.refl build).enrich rfl hstate rfl rfl rfl

theorem traces_converge (hcursor : build.scopes.cursor ∈ build.scopes.automaton.states)
    (h : converge build = .ok () final) : build.Traces final := by
  cases hexit : build.exit? with
  | some exit =>
      rw [converge_of_some hexit] at h
      cases h
      exact .of_plain ((Build.Logs.refl build).connect _ hcursor) (by simp [Event.isPlain])
  | none =>
      rw [converge_of_none hexit] at h
      cases h
      have hplaced : build.Logs [] (build.newState.2.modifyScopes fun scopes =>
          scopes.setChoiceExit build.arena.next) :=
        (Build.Logs.refl build).newState.modifyScopes (ScopeStack.automaton_setChoiceExit _)
          (ScopeStack.owner_setChoiceExit _)
      refine .of_plain (hplaced.connect _ (hplaced.states_subset ?_)) (by simp [Event.isPlain])
      change ScopeStack.cursor _ ∈ _
      rw [Build.scopes_modifyScopes, ScopeStack.cursor_setChoiceExit]
      exact hcursor

theorem logs_openParallel {branches : Nat} {anchor join : State}
    (h : openParallel branches build = .ok (anchor, join) final) :
    build.Logs [.parallelEntered anchor join branches] final := by
  rw [openParallel_eq] at h
  cases h
  exact (Build.Logs.refl build).newState.record _ rfl

theorem logs_closeParallel {anchor join : State} (hanchor : anchor ∈ build.scopes.automaton.states)
    (h : closeParallel anchor join build = .ok () final) :
    build.Logs [.transitionAdded anchor .silent join, .parallelLeft join] final := by
  rw [closeParallel_eq] at h
  cases h
  exact (((Build.Logs.refl build).connect (.silent anchor join) hanchor).modifyScopes rfl
    rfl).record (.parallelLeft join) rfl

theorem logs_openLoop (hcursor : build.scopes.cursor ∈ build.scopes.automaton.states)
    (h : openLoop mode build = .ok start final) :
    ∃ before, build.Logs (before ++ [.loopEntered start]) final ∧
      ∀ event ∈ before, event.isPlain = true := by
  cases mode with
  | once =>
      rw [openLoop_once_eq] at h
      cases h
      exact ⟨[], (Build.Logs.refl build).record _ rfl, by simp⟩
  | loop =>
      rw [openLoop_loop_eq] at h
      cases h
      have hplaced := (Build.Logs.refl build).newState
      have hconnected :=
        hplaced.connect (.silent build.scopes.cursor build.arena.next)
          (hplaced.states_subset hcursor)
      exact ⟨_, (hconnected.modifyScopes rfl rfl).record (.loopEntered build.arena.next) rfl,
        by simp [Event.isPlain]⟩

theorem logs_closeLoop (hcursor : build.scopes.cursor ∈ build.scopes.automaton.states)
    (h : closeLoop mode start build = .ok () final) :
    ∃ after backEdge, build.Logs (after ++ [.loopLeft backEdge]) final ∧
      ∀ event ∈ after, event.isPlain = true := by
  cases mode with
  | once =>
      rw [closeLoop_once_eq] at h
      cases h
      exact ⟨[], false, (Build.Logs.refl build).record _ rfl, by simp⟩
  | loop =>
      rw [closeLoop_loop_eq] at h
      cases h
      have hconnected :=
        (Build.Logs.refl build).connect (.silent build.scopes.cursor start) hcursor
      exact ⟨_, true, hconnected.record (.loopLeft true) rfl, by simp [Event.isPlain]⟩

theorem logs_openRecursion {label : String} (h : openRecursion label build = .ok () final) :
    build.Logs [.recursionEntered label build.scopes.cursor] final := by
  rw [openRecursion_eq] at h
  cases h
  exact ((Build.Logs.refl build).modifyScopes rfl rfl).record _ rfl

theorem logs_closeRecursion {label : String} {opened closing : Build} {piece : Piece}
    {next last : State} {choices : List OpenChoice}
    (hopen : openRecursion label build = .ok () opened)
    (hgrows : opened.Grows piece next last choices closing)
    (hclose : closeRecursion label closing = .ok () final) :
    closing.Logs [.recursionLeft label] final := by
  obtain ⟨-, hscopes⟩ := openRecursion_eq_ok hopen
  have howner : closing.scopes.owner = build.scopes.owner :=
    hgrows.owner_eq.trans (by rw [hscopes]; rfl)
  rw [closeRecursion_eq (hgrows.kind_eq.trans (by rw [hscopes]; rfl))
    (hgrows.enclosing_eq.trans (by rw [hscopes]; rfl))] at hclose
  cases hclose
  exact ((Build.Logs.refl closing).modifyScopes rfl howner.symm).record _ rfl

theorem traces_call (hcursor : build.scopes.cursor ∈ build.scopes.automaton.states)
    {label : String} (h : call label build = .ok () final) : build.Traces final := by
  obtain ⟨target, -, rfl⟩ := call_eq_ok_iff.mp h
  have hcalled :=
    ((Build.Logs.refl build).connect (.silent build.scopes.cursor target) hcursor).record
      (.recursionCalled label target) rfl
  exact .of_plain (hcalled.newState.modifyScopes rfl rfl) (by simp [Event.isPlain])

theorem traces_interaction (hcursor : build.scopes.cursor ∈ build.scopes.automaton.states)
    (hanchored : build.Anchored) {exchange : Interaction}
    (h : interaction exchange build = .ok () final) : build.Traces final := by
  obtain ⟨registered, hregister, rfl⟩ := interaction_eq_ok_iff.mp h
  have hnamed : build.Logs [] (build.newState.2.addRole exchange.partner) :=
    (Build.Logs.refl build).newState.addRoles [exchange.partner]
  rcases registerInterrupt_eq_ok_iff.mp hregister with ⟨-, rfl⟩ | ⟨anchor, hpending, -, rfl⟩
  · exact .of_plain ((hnamed.connect _ (hnamed.states_subset hcursor)).modifyScopes rfl rfl)
      (by simp [Event.isPlain])
  · have hanchor : anchor ∈ build.scopes.automaton.states := (hanchored _ hpending).2 rfl
    have hsettled := hnamed.settle (hnamed.states_subset hanchor)
      (show (exchange.transition build.scopes.cursor build.arena.next).label =
        .message exchange.message from rfl)
    exact .of_plain ((hsettled.connect _ (hsettled.states_subset hcursor)).modifyScopes rfl rfl)
      (by simp [Event.isPlain])

theorem traces_selectBranch (hcoherent : build.Coherent)
    (hstart : start ∈ build.scopes.automaton.states) (hanchored : build.Anchored) {index : Nat}
    {exchange : Interaction} {entered selected : Build}
    (henter : enterChoiceBranch index start build = .ok () entered)
    (hselect : interaction exchange entered = .ok () selected)
    (hregister : registerDispatch start exchange.dispatchKey selected = .ok () final) :
    build.Traces final := by
  obtain ⟨hentered, hsubset⟩ := hcoherent.enterChoiceBranch hstart henter
  obtain ⟨-, hsubset'⟩ := hentered.interaction hselect
  have hlogs := logs_enterChoiceBranch henter
  have hselected := (Build.Traces.of_plain hlogs (by simp [Event.isPlain])).trans
    (traces_interaction hentered.cursor_mem (hanchored.logs hlogs) hselect)
  exact hselected.trans (.of_plain (logs_registerDispatch (hsubset' (hsubset hstart)) hregister)
    (by simp [Event.isPlain]))

theorem logs_armInterrupt (hcursor : build.scopes.cursor ∈ build.scopes.automaton.states)
    {role : Role} (h : armInterrupt role build = .ok () final) :
    final.Anchored ∧
      build.Logs [.finalMarked build.scopes.cursor, .interruptArmed build.scopes.cursor role]
        { final with pending := none } := by
  obtain ⟨-, rfl⟩ := armInterrupt_eq_ok_iff.mp h
  have hmarked := (Build.Logs.refl build).markFinal hcursor
  constructor
  · intro pending hsome
    rw [Build.pending_record] at hsome
    cases hsome
    rw [Build.scopes_record]
    exact ⟨hmarked.owner_eq.ge, fun _ => hmarked.states_subset hcursor⟩
  · have hpending (build : Build) (pending : Option PendingInterrupt) (event : Event) :
        ({ ({ build with pending } : Build).record event with pending := none } : Build) =
          { build.record event with pending := none } := by
      simp only [Build.record]
      split <;> rfl
    rw [hpending]
    exact (hmarked.record _ rfl).disarm build.pending

end Compiler

/-- What is logged while an automaton is built from a single state tells all of it, and of the
automata nested in it. -/
theorem Build.Logs.told {build build' : Build} {log : List Event} {initial : State}
    (h : build.Logs log build') (hautomaton : build.scopes.automaton = Automaton.single initial)
    (hnext : build.arena.next = initial + 1) :
    ∀ member ∈ build'.scopes.automaton.family,
      member.ToldBetween log initial build'.arena.next := by
  have hle : initial ≤ build.arena.next := (Nat.le_succ _).trans_eq hnext.symm
  have hlt : initial < build'.arena.next :=
    (Nat.lt_succ_self initial).trans_le (hnext.ge.trans h.next_le)
  intro member hmember
  rw [Automaton.family_eq] at hmember
  rcases List.mem_cons.mp hmember with rfl | hinner
  · refine ⟨fun state hstate => ?_, ?_⟩
    · rcases h.states_new state hstate with hinitial | ⟨hle', hlt'⟩
      · rw [hautomaton] at hinitial
        obtain rfl := List.mem_singleton.mp hinitial
        exact ⟨le_rfl, hlt⟩
      · exact ⟨hle.trans hle', hlt'⟩
    · rw [h.replica_eq, hautomaton]
      rfl
  · rcases h.inner member hinner with hnone | ⟨htold, -⟩
    · rw [hautomaton] at hnone
      exact absurd hnone List.not_mem_nil
    · refine ⟨fun state hstate => ?_, htold.replica_eq⟩
      obtain ⟨hle', hlt'⟩ := htold.states_fresh state hstate
      exact ⟨hle.trans hle', hlt'⟩

/-- The automaton of a parallel branch is added to the enclosing automaton, of which nothing has
been logged meanwhile. -/
theorem Build.Logs.parallelBranch {build entered completed : Build} {anchor : State}
    {log : List Event} (hcoherent : build.Coherent)
    (henter : Compiler.enterParallelBranch anchor build = .ok () entered)
    (h : entered.Logs log completed) :
    build.Logs log { completed with
      scopes := build.scopes.modifyAutomaton fun automaton =>
        automaton.addBranch anchor completed.scopes.automaton } := by
  cases henter
  have htold : ∀ member ∈ completed.scopes.automaton.family,
      member.ToldBetween log build.arena.next completed.arena.next :=
    h.told rfl rfl
  have hplaces : ∀ place ∈ log.filterMap Event.place?,
      build.arena.next ≤ place ∧ place < completed.arena.next := by
    intro place hplace
    rcases h.places place hplace with hown | ⟨hle, hlt⟩
    · exact (htold _ (Automaton.self_mem_family _)).states_fresh place hown
    · exact ⟨Nat.le_of_succ_le hle, hlt⟩
  have hapart : ∀ {state : State}, build.arena.next ≤ state →
      state ∉ build.scopes.automaton.states :=
    fun hle hmem => absurd (hcoherent.automaton.states_lt hmem) (not_lt.mpr hle)
  have hnothing : eventsAt build.scopes.automaton.states log = [] :=
    eventsAt_eq_nil fun place hplace => hapart (hplaces place hplace).1
  exact
    { recording_eq := h.recording_eq
      events_eq := h.events_eq
      pending_eq := h.pending_eq
      owner_eq := rfl
      next_le := Nat.le_of_succ_le h.next_le
      states_subset := List.Subset.refl _
      states_new := fun state hstate => .inl hstate
      places := fun place hplace => .inr (hplaces place hplace)
      replica_eq := by
        change _ = build.scopes.automaton.replica.addAll
          (eventsAt build.scopes.automaton.states log)
        rw [hnothing]
        rfl
      inner := by
        intro member hmember
        rcases Automaton.mem_inner_addBranch hcoherent.automaton.nested_ascending hmember with
          hold | hnew
        · exact .inl hold
        · have hmember := htold member hnew
          exact .inr ⟨hmember, fun state hstate => hapart (hmember.states_fresh state hstate).1⟩ }

theorem Build.Traces.parallelBranch {build entered ended left : Build} {anchor : State}
    {index : Nat} {piece : Piece} {next last : State} {choices : List OpenChoice}
    (hcoherent : build.Coherent)
    (henter : Compiler.enterParallelBranch anchor build = .ok () entered)
    (hcursor : ended.scopes.cursor ∈ ended.scopes.automaton.states)
    (hgrows : entered.Grows piece next last choices ended) (h : entered.Traces ended)
    (hleave : Compiler.leaveParallelBranch index anchor ended = .ok () left) :
    build.Traces left := by
  obtain rfl := Compiler.leaveParallelBranch_eq_of_enter henter hgrows hleave
  have hplaced := (Build.Logs.refl ended).newState
  have hconnected := hplaced.connect (.completion ended.scopes.cursor ended.arena.next)
    (hplaced.states_subset hcursor)
  have hdone : ended.arena.next ∈ (ended.newState.2.connect
      (.completion ended.scopes.cursor ended.arena.next)).scopes.automaton.states := by
    rw [Build.scopes_connect]
    exact List.mem_append_right _ (List.mem_singleton_self _)
  have hcompleted : ended.Traces ended.complete :=
    .of_plain (hconnected.markFinal hdone) (by simp [Event.isPlain])
  obtain ⟨log, hnested, hlogs⟩ := h.trans hcompleted
  refine ⟨_, .append hnested (.plain ?_), (hlogs.parallelBranch hcoherent henter).record _ rfl⟩
  rfl

theorem Runs.traces {mode : LoopMode} {work : Work} {build build' : Build}
    (h : Runs mode work build build') (hcoherent : build.Coherent) (hplaced : work.Placed build)
    (hanchored : build.Anchored) : build.Traces build' := by
  -- A log tells of states of the automaton only, so coherence is carried along.
  induction h with
  | nil => exact .refl _
  | cons hfirst _ ih₁ ih₂ =>
      have htraces := ih₁ hcoherent trivial hanchored
      obtain ⟨hbetween, -⟩ := hfirst.coherent hcoherent trivial
      exact htraces.trans (ih₂ hbetween trivial (hanchored.traces htraces))
  | interaction hrun => exact Compiler.traces_interaction hcoherent.cursor_mem hanchored hrun
  | choice _ _ hopen _ hclose ih =>
      obtain ⟨hopened, -, hstart, hchoices⟩ := hcoherent.openChoice hopen
      have hlogs := Compiler.logs_openChoice hopen
      obtain ⟨exit, hlogs'⟩ := Compiler.logs_closeChoice hclose
      have htraces := ih hopened ⟨hstart, hchoices⟩ (hanchored.logs hlogs)
      exact .construct [] [] hlogs htraces hlogs' trivial (by simp) (by simp)
  | @directedChoice sender receivers branches start build named₁ named₂ _ _ _ _ _ hsender hreceivers
      hopen _ hclose ih =>
      rw [Compiler.addRoles_eq] at hreceivers
      cases hsender
      cases hreceivers
      obtain ⟨hnamed, -⟩ := hcoherent.addRoles (sender :: receivers)
      obtain ⟨hopened, -, hstart, hchoices⟩ := hnamed.openChoice hopen
      have hlogs := ((Build.Logs.refl build).addRoles (sender :: receivers)).trans
        (Compiler.logs_openChoice hopen)
      obtain ⟨exit, hlogs'⟩ := Compiler.logs_closeChoice hclose
      have htraces := ih hopened ⟨hstart, hchoices⟩ (hanchored.logs hlogs)
      exact .construct [] [] hlogs htraces hlogs' trivial (by simp) (by simp)
  | parallel _ _ hopen hbranches hclose ih =>
      obtain ⟨hopened, -, hanchor, -⟩ := hcoherent.openParallel hopen
      obtain ⟨-, hsubset⟩ := hbranches.coherent hopened hanchor
      have hlogs := Compiler.logs_openParallel hopen
      have hlogs' := Compiler.logs_closeParallel (hsubset hanchor) hclose
      have htraces := ih hopened hanchor (hanchored.logs hlogs)
      exact .construct [] [_] hlogs htraces hlogs' rfl (by simp) (by simp [Event.isPlain])
  | loop _ hopen hbody hclose ih =>
      obtain ⟨hopened, -, -⟩ := hcoherent.openLoop hopen
      obtain ⟨hclosing, -⟩ := hbody.coherent hopened trivial
      obtain ⟨before, hlogs, hbefore⟩ := Compiler.logs_openLoop hcoherent.cursor_mem hopen
      obtain ⟨after, _, hlogs', hafter⟩ := Compiler.logs_closeLoop hclosing.cursor_mem hclose
      have htraces := ih hopened trivial (hanchored.logs hlogs)
      exact .construct before after hlogs htraces hlogs' trivial hbefore hafter
  | recursion _ hopen hbody hclose ih =>
      have hopened := hcoherent.openRecursion hopen
      obtain ⟨piece, hgrows⟩ := hbody.grows_of_activities hopened.level
      have hlogs := Compiler.logs_openRecursion hopen
      have hlogs' := Compiler.logs_closeRecursion hopen hgrows hclose
      have htraces := ih hopened trivial (hanchored.logs hlogs)
      exact .construct [] [] hlogs htraces hlogs' rfl (by simp) (by simp)
  | call hrun => exact Compiler.traces_call hcoherent.cursor_mem hrun
  | @escape body handler role build _ _ _ _ _ _ _ _ hrole hbody harm _ hdisarm ih₁ ih₂ =>
      cases hrole
      cases hdisarm
      obtain ⟨hnamed, -⟩ := hcoherent.addRoles [role]
      have hroles := (Build.Logs.refl build).addRoles [role]
      have htraces := ih₁ hnamed trivial (hanchored.logs hroles)
      obtain ⟨hbodied, -⟩ := hbody.coherent hnamed trivial
      obtain ⟨harmed, hlogs⟩ := Compiler.logs_armInterrupt hbodied.cursor_mem harm
      obtain ⟨hhandling, -⟩ := hbodied.armInterrupt harm
      obtain ⟨log, hnested, hhandler⟩ := ih₂ hhandling trivial harmed
      have harming := Build.Traces.of_plain hlogs (by simp [Event.isPlain])
      have hnaming := Build.Traces.of_plain hroles (by simp)
      exact (hnaming.trans htraces).trans (harming.trans ⟨log, hnested, hhandler.disarm none⟩)
  | @finish build =>
      exact .of_plain ((Build.Logs.refl build).markFinal hcoherent.cursor_mem)
        (by simp [Event.isPlain])
  | choiceBranchesNil => exact .refl _
  | @choiceBranchesCons start index branch others build entered ended converged final henter hbranch
      hconverge _ ih₁ ih₂ =>
      have hentered := hcoherent.enterChoiceBranch hplaced.1 henter
      have hended := hbranch.coherent hentered.1 trivial
      obtain ⟨hconverged, -, hnext⟩ := Build.Coherent.joinBranch hplaced hentered
        (build.grows_refl.enterChoiceBranch henter).choices_eq hbranch hended hconverge
      have hlogs := Compiler.logs_enterChoiceBranch henter
      have htraces := ((Build.Traces.of_plain hlogs (by simp [Event.isPlain])).trans
        (ih₁ hentered.1 trivial (hanchored.logs hlogs))).trans
          (Compiler.traces_converge hended.1.cursor_mem hconverge)
      exact htraces.trans (ih₂ hconverged hnext (hanchored.traces htraces))
  | directedBranchesNil => exact .refl _
  | @directedBranchesCons start index exchange body others build entered selected registered ended
      converged final henter hselect hregister hbody hconverge _ ih₁ ih₂ =>
      have hgrows := ((build.grows_refl.enterChoiceBranch henter).interaction []
        hselect).registerDispatch hregister
      have hregistered := hcoherent.selectBranch hplaced.1 henter hselect hregister
      have hended := hbody.coherent hregistered.1 trivial
      obtain ⟨hconverged, -, hnext⟩ := Build.Coherent.joinBranch hplaced hregistered
        hgrows.choices_eq hbody hended hconverge
      have hselected := Compiler.traces_selectBranch hcoherent hplaced.1 hanchored henter hselect
        hregister
      have hbodied := ih₁ hregistered.1 trivial (hanchored.traces hselected)
      have htraces := (hselected.trans hbodied).trans
        (Compiler.traces_converge hended.1.cursor_mem hconverge)
      exact htraces.trans (ih₂ hconverged hnext (hanchored.traces htraces))
  | parallelBranchesNil => exact .refl _
  | @parallelBranchesCons anchor index branch others build entered ended left final henter hbranch
      hleave _ ih₁ ih₂ =>
      obtain ⟨hentered, hleft⟩ := hcoherent.parallelBranch hplaced henter hleave
      obtain ⟨hended, -⟩ := hbranch.coherent hentered trivial
      obtain ⟨piece, hgrows⟩ := hbranch.grows_of_activities hentered.level
      obtain ⟨hleft, hstates⟩ := hleft hended hgrows
      have hanchor : anchor ∈ left.scopes.automaton.states := by
        rw [hstates]
        exact hplaced
      have hbranching := ih₁ hentered trivial (hanchored.enterBranch hcoherent.level henter)
      have htraces := Build.Traces.parallelBranch hcoherent henter hended.cursor_mem hgrows
        hbranching hleave
      exact htraces.trans (ih₂ hleft hanchor (hanchored.traces htraces))

/-- The events at the states of the automaton, in their order, are its transitions, its final
marks, its interrupts and, for each state, the entries of its dispatch table. -/
structure Automaton.ReplayedBy (automaton : Automaton) (events : List Event) : Prop where
  transitions_eq : (eventsAt automaton.states events).filterMap Event.transition? =
    automaton.transitions.map fun transition =>
      (transition.source, transition.label, transition.target)
  mem_finals_iff : ∀ state, state ∈ automaton.finals ↔
    state ∈ automaton.states ∧ .finalMarked state ∈ events
  interrupts_eq : (eventsAt automaton.states events).filterMap Event.interrupt? =
    automaton.interrupts.map fun interrupt => (interrupt.anchor, interrupt.transition.label)
  dispatch_eq : ∀ state, (eventsAt automaton.states events).filterMap (Event.entry? state) =
    automaton.dispatchAt state

theorem Automaton.replayedBy_of_replica_eq {automaton : Automaton} {events : List Event}
    (h : automaton.replica = Replica.blank.addAll (eventsAt automaton.states events)) :
    automaton.ReplayedBy events where
  transitions_eq := by
    have htransitions := congrArg Replica.transitions h
    rw [Replica.transitions_addAll] at htransitions
    exact htransitions.symm
  mem_finals_iff := by
    intro state
    have hfinals : automaton.finals =
        (Replica.blank.addAll (eventsAt automaton.states events)).finals :=
      congrArg Replica.finals h
    rw [hfinals, Replica.mem_finals_addAll]
    simp [Replica.blank, eventsAt, Event.place?, and_comm]
  interrupts_eq := by
    have hinterrupts := congrArg Replica.interrupts h
    rw [Replica.interrupts_addAll] at hinterrupts
    exact hinterrupts.symm
  dispatch_eq := by
    intro state
    have hdispatch : automaton.dispatch =
        (Replica.blank.addAll (eventsAt automaton.states events)).dispatch :=
      congrArg Replica.dispatch h
    rw [Automaton.dispatchAt, hdispatch, Replica.listAt_addAll]
    rfl

namespace Protocol

variable {protocol : Protocol} {options : CompileOptions} {automaton : Automaton}

/-- What a compilation that succeeds has recorded is the log of a run, between the entry of the
protocol and its end. -/
theorem exists_log_of_compile (h : protocol.compile options = .ok automaton) :
    ∃ ended log, ended.Coherent ∧ Event.Nested log ∧
      (Build.start true).Logs (.protocolEntered protocol.name :: log) ended ∧
      automaton = { ended.scopes.automaton.markFinal ended.scopes.cursor with
        name := some protocol.name
        checksum := some protocol.checksum
        roles := ended.roles
        anchors := ended.arena.anchors } ∧
      (protocol.compileTraced options).2 = .protocolEntered protocol.name :: log ++
        [.finalMarked ended.scopes.cursor,
          .protocolLeft automaton.totalStateCount automaton.transitions.length] := by
  rw [← compileTraced_fst] at h
  obtain ⟨ended, hactivities, hautomaton, hevents⟩ := activities_of_compileRecording h
  have hruns := Compiler.runs_of_activities _ hactivities
  have hfresh := protocol.fresh_openingRecording true
  have hcoherent : (protocol.openingRecording true).Coherent := .of_fresh hfresh
  obtain ⟨hended, -⟩ := hruns.coherent hcoherent trivial
  have hopen : (Build.start true).Logs [.protocolEntered protocol.name]
      (protocol.openingRecording true) :=
    ((Build.Logs.refl _).record (.protocolEntered protocol.name) rfl).addRoles _
  obtain ⟨log, hnested, hinside⟩ := hruns.traces hcoherent trivial (.of_idle hfresh.pending_eq)
  have hlogs := hopen.trans hinside
  refine ⟨ended, log, hended, hnested, hlogs, hautomaton, hevents.trans ?_⟩
  have hclosed := (hlogs.markFinal hended.cursor_mem).record
    (.protocolLeft automaton.totalStateCount automaton.transitions.length) rfl
  rw [hclosed.events_eq rfl]
  simp [Build.start]

/-- The trace of a compilation that succeeds is the log of a run from a single state, and its
automaton is the one that this run has built. -/
theorem exists_logs_of_compile (h : protocol.compile options = .ok automaton) :
    ∃ final, Event.Nested (protocol.compileTraced options).2 ∧
      (Build.start true).Logs (protocol.compileTraced options).2 final ∧
      automaton.replica = final.scopes.automaton.replica ∧
      automaton.states = final.scopes.automaton.states ∧
      automaton.nested = final.scopes.automaton.nested := by
  obtain ⟨ended, log, hended, hnested, hlogs, hautomaton, htrace⟩ := exists_log_of_compile h
  have hclosed := (hlogs.markFinal hended.cursor_mem).record
    (.protocolLeft automaton.totalStateCount automaton.transitions.length) rfl
  have hconstruct : Event.Nested (.protocolEntered protocol.name ::
      (log ++ [.finalMarked ended.scopes.cursor]) ++
        [.protocolLeft automaton.totalStateCount automaton.transitions.length]) :=
    .construct trivial (.append hnested (.plain rfl))
  rw [htrace]
  refine ⟨_, by simpa using hconstruct, by simpa using hclosed, ?_⟩
  rw [Build.scopes_record, Build.scopes_markFinal, hautomaton]
  exact ⟨rfl, rfl, rfl⟩

/-- Recording the steps of a compilation has no influence on it. The steps that are recorded when
it succeeds enter and leave the constructs in a nested way, and they tell everything about the
automaton and about all automata nested in it. -/
theorem trace_replays (protocol : Protocol) (options : CompileOptions) :
    (protocol.compileTraced options).1 = protocol.compile options ∧
      ∀ automaton, protocol.compile options = .ok automaton →
        Event.Nested (protocol.compileTraced options).2 ∧
          ∀ member ∈ automaton.family, member.ReplayedBy (protocol.compileTraced options).2 := by
  refine ⟨compileTraced_fst protocol options, ?_⟩
  intro automaton h
  obtain ⟨final, hnested, hlogs, hreplica, hstates, hregions⟩ := exists_logs_of_compile h
  have htold := hlogs.told rfl rfl
  rw [Automaton.family_eq] at htold
  refine ⟨hnested, ?_⟩
  intro member hmember
  rw [Automaton.family_eq] at hmember
  rcases List.mem_cons.mp hmember with rfl | hinner
  · refine Automaton.replayedBy_of_replica_eq ?_
    rw [hreplica, hstates]
    exact (htold _ (List.mem_cons_self ..)).replica_eq
  · rw [Automaton.branches, hregions] at hinner
    exact Automaton.replayedBy_of_replica_eq (htold _ (List.mem_cons_of_mem _ hinner)).replica_eq

end Protocol

theorem auction_replays : ∃ automaton, auction.compile ⟨.loop⟩ = .ok automaton ∧
    Event.Nested (auction.compileTraced ⟨.loop⟩).2 ∧
      ∀ member ∈ automaton.family, member.ReplayedBy (auction.compileTraced ⟨.loop⟩).2 := by
  have hok : (auction.compile ⟨.loop⟩).isOk = true := by decide +kernel
  obtain ⟨automaton, hcompile⟩ := Protocol.exists_eq_ok hok
  exact ⟨automaton, hcompile, (auction.trace_replays ⟨.loop⟩).2 automaton hcompile⟩

end Conversation

import Conversation.Proofs.Refusals
import Conversation.Proofs.WellFormed

namespace Conversation

namespace Automaton

structure ServesEscapes (mode : LoopMode) (activities : List Activity) (automaton : Automaton) :
    Prop where
  serves : List.Forall₂ automaton.Serves (escapesOf mode activities (.fresh automaton.initial))
    automaton.interrupts
  anchors_nodup : (automaton.interrupts.map Interrupt.anchor).Nodup
  interruptAt_eq : ∀ interrupt ∈ automaton.interrupts,
    automaton.interruptAt interrupt.anchor = some interrupt
  count_eq_one : ∀ interrupt ∈ automaton.interrupts,
    automaton.transitions.count interrupt.transition = 1

theorem interruptAt_of_nodup {automaton : Automaton} {interrupt : Interrupt}
    (h : (automaton.interrupts.map Interrupt.anchor).Nodup)
    (hinterrupt : interrupt ∈ automaton.interrupts) :
    automaton.interruptAt interrupt.anchor = some interrupt := by
  rw [interruptAt]
  cases hfind : automaton.interrupts.find? fun other => other.anchor = interrupt.anchor with
  | none =>
      have hne := List.find?_eq_none.mp hfind interrupt hinterrupt
      simp at hne
  | some other =>
      have hanchor := List.find?_some hfind
      simp only [decide_eq_true_eq] at hanchor
      have hother := List.mem_of_find?_eq_some hfind
      rw [List.inj_on_of_nodup_map h hother hinterrupt hanchor]

theorem WellFormed.count_eq_one {automaton : Automaton} (h : automaton.WellFormed)
    {transition : Transition} (hmem : transition ∈ automaton.transitions)
    (hlabel : transition.label ≠ .silent) : automaton.transitions.count transition = 1 := by
  have hnodup : automaton.observable.Nodup := .of_map _ h.entered_once
  have hobservable : transition ∈ automaton.observable :=
    List.mem_filter.mpr ⟨hmem, by simpa using hlabel⟩
  rw [← List.count_eq_one_of_mem hnodup hobservable, observable, List.count_filter]
  simpa using hlabel

theorem ServesEscapes.of_registers {mode : LoopMode} {activities : List Activity}
    {automaton : Automaton} {build ended : Build} {selections : List Selection}
    {branches : List (List Activity)} (hfresh : build.Fresh automaton.initial)
    (hregisters : build.Registers mode
      (build.due (.activities activities) ++ Work.escapes mode build (.activities activities))
      selections branches ended)
    (hinterrupts : automaton.interrupts = ended.scopes.automaton.interrupts)
    (htransitions : ended.scopes.automaton.transitions ⊆ automaton.transitions)
    (hfinals : ended.scopes.automaton.finals ⊆ automaton.finals)
    (hwellFormed : automaton.WellFormed) : automaton.ServesEscapes mode activities := by
  obtain ⟨roles, hautomaton⟩ := hfresh.automaton_eq
  rw [Build.Ready.due_eq_nil hfresh.pending_eq, List.nil_append, Work.escapes,
    hfresh.position_eq] at hregisters
  have hserves : List.Forall₂ automaton.Serves
      (escapesOf mode activities (.fresh automaton.initial)) automaton.interrupts := by
    obtain ⟨interrupts, heq, hserves⟩ := hregisters.interrupts
    rw [hautomaton] at heq
    rw [hinterrupts, heq]
    refine hserves.imp ?_
    intro escape interrupt hserve
    exact hserve.mono htransitions hfinals
  have hnodup : (automaton.interrupts.map Interrupt.anchor).Nodup := by
    rw [hinterrupts]
    refine hregisters.anchors_nodup ?_
    rw [hautomaton]
    exact .nil
  refine ⟨hserves, hnodup, fun interrupt => interruptAt_of_nodup hnodup, ?_⟩
  intro interrupt hinterrupt
  obtain ⟨escape, hserve⟩ := exists_of_forall₂ hserves hinterrupt
  refine hwellFormed.count_eq_one hserve.mem_transitions ?_
  obtain ⟨exchange, source, target, -, htransition⟩ := hserve.carries
  rw [htransition]
  intro hlabel
  cases hlabel

end Automaton

theorem Builds.servesEscapes {mode : LoopMode} {activities : List Activity} {automaton : Automaton}
    (h : Builds mode activities automaton) : automaton.ServesEscapes mode activities := by
  have hwellFormed := h.wellFormed.1
  obtain ⟨build, ended, hfresh, hruns, rfl⟩ := h
  obtain ⟨-, hregisters⟩ := hruns.registers (.of_idle hfresh.level hfresh.pending_eq trivial)
  refine .of_registers hfresh hregisters rfl (List.subset_append_left _ _) ?_ hwellFormed
  intro state hstate
  exact StateSet.mem_insert.mpr (.inr hstate)

theorem Protocol.servesEscapes_of_compile {protocol : Protocol} {options : CompileOptions}
    {automaton : Automaton} (h : protocol.compile options = .ok automaton) :
    automaton.ServesEscapes options.loops protocol.activities := by
  obtain ⟨-, -, hwellFormed, -⟩ := coherent_of_compile h
  obtain ⟨ended, hruns, hinitial, hautomaton⟩ := exists_run_of_compile h
  obtain ⟨-, hregisters⟩ := hruns.registers (protocol.ready_opening _)
  refine .of_registers (hinitial ▸ protocol.fresh_opening) hregisters ?_ ?_ ?_ hwellFormed
  · rw [hautomaton]
    rfl
  · rw [hautomaton]
    exact List.Subset.refl _
  · rw [hautomaton]
    intro state hstate
    exact StateSet.mem_insert.mpr (.inr hstate)

/-- Only an escape is refused because of an interrupt. -/
theorem Refuses.escape_of_interruptConflict {mode : LoopMode} {work : Work} {build : Build}
    {state : State} (h : Refuses mode work build (.interruptConflict state)) :
    ∃ body role handler, work = .activity (.escape body role handler) := by
  generalize herror : BuildError.interruptConflict state = error at h
  cases h with
  | @check one _ _ hcheck =>
      subst herror
      cases one with
      | escape body role handler => exact ⟨_, _, _, rfl⟩
      | _ => simp [Activity.check?, emptyAmong?, ite_eq_iff] at hcheck
  | undefinedLabel => cases herror
  | interruptConflict => exact ⟨_, _, _, rfl⟩

/-- Every escape of a protocol yields exactly one interrupt, in the automaton of the protocol and in
those of its parallel branches. A compilation that fails has refused something, and because of an
interrupt it has only refused an escape; whatever it gets to it may compile, no interaction fails,
and no interrupt is pending any more when it is done. -/
theorem Protocol.escapes_interrupt (protocol : Protocol) (options : CompileOptions) :
    (∀ automaton, protocol.compile options = .ok automaton →
      automaton.ServesEscapes options.loops protocol.activities ∧
        EachBranch (fun activities branch => branch.ServesEscapes options.loops activities)
          protocol.activities automaton) ∧
    (∀ error, protocol.compile options = .error error →
      protocol.activities = [] ∧ error = .emptyList .protocol ∨
        Refused options.loops (.activities protocol.activities) protocol.opening error) ∧
    (∀ state, protocol.compile options = .error (.interruptConflict state) →
      ∃ body role handler build,
        Reaches options.loops (.activities protocol.activities) protocol.opening
          (.activity (.escape body role handler)) build ∧
        Refuses options.loops (.activity (.escape body role handler)) build
          (.interruptConflict state)) ∧
    ∀ work build,
      Reaches options.loops (.activities protocol.activities) protocol.opening work build →
        build.Ready work ∧
        (∀ exchange, work = .activity (.interaction exchange) →
          ∃ final, Compiler.interaction exchange build = .ok () final) ∧
        ∀ final, Runs options.loops work build final → final.pending = none := by
  refine ⟨?_, ?_, ?_, ?_⟩
  · intro automaton hcompile
    exact ⟨servesEscapes_of_compile hcompile,
      (eachBranch_builds hcompile).imp fun hbuilds => hbuilds.servesEscapes⟩
  · intro error hcompile
    exact (refused_of_compile hcompile).imp id And.right
  · intro state hcompile
    rcases refused_of_compile hcompile with ⟨-, hempty⟩ | ⟨-, work, build, hreaches, hrefuses⟩
    · cases hempty
    · obtain ⟨body, role, handler, rfl⟩ := hrefuses.escape_of_interruptConflict
      exact ⟨body, role, handler, build, hreaches, hrefuses⟩
  · intro work build hreaches
    have hready := hreaches.ready (protocol.ready_opening _)
    refine ⟨hready, ?_, ?_⟩
    · rintro exchange rfl
      obtain ⟨final, hfinal, -⟩ := hready.interaction options.loops
      exact ⟨final, hfinal⟩
    · intro final hruns
      exact (hruns.registers hready).1

/-- An escape inside the body of another, and one in a parallel branch whose handler starts inside
of a loop. -/
def cancellation : Protocol :=
  .bare "Cancellation"
    [.escape
      [.escape [.interaction (.bare .receive (some "order") ⟨"Buyer"⟩)] ⟨"Buyer"⟩
        [.interaction (.bare .receive (some "cancel") ⟨"Buyer"⟩)]] ⟨"Seller"⟩
      [.interaction (.bare .receive (some "refuse") ⟨"Seller"⟩)],
      .parallel
        [[.escape [.finish] ⟨"Clock"⟩
          [.loop [.interaction (.bare .receive (some "tick") ⟨"Clock"⟩)]]]]]

/-- Two escapes whose bodies end at the entry of a choice. -/
def contention : Protocol :=
  .bare "Contention"
    [.choice
      [[.escape [.finish] ⟨"Buyer"⟩ [.interaction (.bare .receive (some "cancel") ⟨"Buyer"⟩)]],
        [.escape [.finish] ⟨"Seller"⟩ [.interaction (.bare .receive (some "refuse") ⟨"Seller"⟩)]]]]

theorem cancellation_interrupts :
    (∃ automaton, cancellation.compile ⟨.loop⟩ = .ok automaton ∧
      automaton.ServesEscapes .loop cancellation.activities ∧
        EachBranch (fun activities branch => branch.ServesEscapes .loop activities)
          cancellation.activities automaton) ∧
    contention.compile ⟨.loop⟩ = .error (.interruptConflict 0) ∧
    ∃ body role handler build,
      Reaches .loop (.activities contention.activities) contention.opening
        (.activity (.escape body role handler)) build ∧
      Refuses .loop (.activity (.escape body role handler)) build (.interruptConflict 0) := by
  have hok : (cancellation.compile ⟨.loop⟩).isOk = true := by decide +kernel
  obtain ⟨automaton, hcompile⟩ := Protocol.exists_eq_ok hok
  have herror : contention.compile ⟨.loop⟩ = .error (.interruptConflict 0) := by
    have hverdict : (contention.compile ⟨.loop⟩).map (fun _ => ()) =
        .error (.interruptConflict 0) := by
      decide +kernel
    cases hcontention : contention.compile ⟨.loop⟩ with
    | ok automaton =>
        rw [hcontention] at hverdict
        cases hverdict
    | error error =>
        rw [hcontention] at hverdict
        simp only [Except.map] at hverdict
        exact congrArg Except.error (Except.error.inj hverdict)
  exact ⟨⟨automaton, hcompile, (Protocol.escapes_interrupt _ _).1 automaton hcompile⟩, herror,
    (Protocol.escapes_interrupt contention ⟨.loop⟩).2.2.1 0 herror⟩

end Conversation

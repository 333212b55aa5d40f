import Mathlib.Computability.EpsilonNFA
import Conversation.Proofs.AutomatonPaths

namespace Conversation.Automaton

/-- An automaton as a nondeterministic one with silent moves. The transitions that complete a
parallel branch are left out, since no query crosses them. -/
def toNFA (automaton : Automaton) : εNFA Message State where
  step source shown := {target | automaton.Edge source shown target}
  start := {automaton.initial}
  accept := {state | state ∈ automaton.finals}

/-- Every state in the queue is met at once or through an edge, and no edge is followed twice. -/
theorem length_reach_le (edges : List (State × State)) (queue : List State) :
    (reach edges queue).length ≤ edges.length + queue.length := by
  fun_induction reach edges queue with
  | case1 edges => exact Nat.zero_le _
  | case2 edges state queue ih =>
      have hedges := length_edgesElsewhere_add state edges
      simp only [List.length_append, List.length_cons] at ih ⊢
      omega

theorem length_silentEdges (automaton : Automaton) :
    automaton.silentEdges.length = automaton.silentCount := by
  rw [silentEdges, silentCount]
  induction automaton.transitions with
  | nil => rfl
  | cons transition rest ih =>
      by_cases hsilent : transition.label = .silent
      · simp [hsilent, ih]
      · simp [hsilent, ih]

variable {automaton : Automaton} {source target : State} {word : List Message}

theorem emits_iff_exists_isPath :
    Emits automaton.Edge source word target ↔
      ∃ path, path.reduceOption = word ∧ automaton.toNFA.IsPath source target path := by
  constructor
  · intro h
    induction h with
    | refl state => exact ⟨[], rfl, .nil state⟩
    | @head state next last shown rest hedge _ ih =>
        obtain ⟨path, rfl, hpath⟩ := ih
        refine ⟨shown :: path, ?_, .cons next state last shown path hedge hpath⟩
        cases shown with
        | none => exact List.reduceOption_cons_of_none path
        | some message => exact List.reduceOption_cons_of_some message path
  · rintro ⟨path, rfl, hpath⟩
    induction hpath with
    | nil state => exact .refl state
    | cons next state last shown path hedge _ ih =>
        cases shown with
        | none => exact Emits.silent_head hedge ih
        | some message => exact Emits.message_head hedge ih

theorem mem_εClosure_iff :
    target ∈ automaton.toNFA.εClosure {source} ↔ Emits automaton.Edge source [] target := by
  rw [← εNFA.evalFrom_nil, εNFA.mem_evalFrom_iff_exists_path, emits_iff_exists_isPath]

/-- The closure of a state is listed in ascending order, after at most one step for each silent
transition, and consists of what silent moves reach. The steps of a message are listed in ascending
order; and chains of steps, closed silently at their end, lead along a word exactly to where the
paths with its messages lead, and so to a final state exactly if one of these does. -/
theorem queries_agree (automaton : Automaton) (state : State) :
    ((reach automaton.silentEdges [state]).length ≤ automaton.silentCount + 1 ∧
      (automaton.silentClosure state).Pairwise (· < ·) ∧
      ∀ target, target ∈ automaton.silentClosure state ↔
        target ∈ automaton.toNFA.εClosure {state}) ∧
    (∀ message, (automaton.step state message).Pairwise (· < ·)) ∧
    ∀ word,
      (∀ target,
        (∃ last, automaton.Follows state word last ∧ target ∈ automaton.silentClosure last) ↔
          ∃ path, path.reduceOption = word ∧ automaton.toNFA.IsPath state target path) ∧
      ((∃ last, automaton.Follows state word last ∧ automaton.acceptsAt last = true) ↔
        ∃ path, path.reduceOption = word ∧
          ∃ final ∈ automaton.finals, automaton.toNFA.IsPath state final path) := by
  refine ⟨⟨?_, StateSet.pairwise_ofList _, ?_⟩, fun message => StateSet.pairwise_ofList _, ?_⟩
  · rw [← length_silentEdges]
    exact length_reach_le automaton.silentEdges [state]
  · intro target
    rw [mem_silentClosure_iff, mem_εClosure_iff]
  · intro word
    refine ⟨fun target => emits_iff_follows.symm.trans emits_iff_exists_isPath, ?_⟩
    constructor
    · rintro ⟨last, hfollows, haccepts⟩
      obtain ⟨final, hfinal, hsilent⟩ := acceptsAt_iff.mp haccepts
      have hreach := mem_silentClosure_iff.mpr hsilent
      obtain ⟨path, hword, hpath⟩ :=
        emits_iff_exists_isPath.mp (emits_iff_follows.mpr ⟨last, hfollows, hreach⟩)
      exact ⟨path, hword, final, hfinal, hpath⟩
    · rintro ⟨path, hword, final, hfinal, hpath⟩
      obtain ⟨last, hfollows, hreach⟩ :=
        emits_iff_follows.mp (emits_iff_exists_isPath.mpr ⟨path, hword, hpath⟩)
      exact ⟨last, hfollows, acceptsAt_iff.mpr ⟨final, hfinal, mem_silentClosure_iff.mp hreach⟩⟩

end Conversation.Automaton

import Conversation.Automaton.Query
import Conversation.Proofs.Emission

namespace Conversation.Automaton

/-- The automaton has a transition between two states that emits a message or is silent. -/
def Edge (automaton : Automaton) (source : State) (shown : Option Message) (target : State) :
    Prop :=
  ∃ transition ∈ automaton.transitions,
    transition.source = source ∧ transition.target = target ∧
      transition.label = shown.elim .silent .message

/-- The chains of steps of the automaton along a word. -/
inductive Follows (automaton : Automaton) : State → List Message → State → Prop
  | nil (state : State) : Follows automaton state [] state
  | cons {state next last : State} {message : Message} {word : List Message} :
      next ∈ automaton.step state message → Follows automaton next word last →
      Follows automaton state (message :: word) last

/-- The automaton accepts a word: some chain of steps ends where it may stop. -/
def Accepts (automaton : Automaton) (word : List Message) : Prop :=
  ∃ last, automaton.Follows automaton.initial word last ∧ automaton.acceptsAt last = true

/-- The automaton of a parallel branch completes a word: some chain of steps ends where the
transition that completes the branch can be taken after silent moves. -/
def Completes (automaton : Automaton) (word : List Message) : Prop :=
  ∃ last, automaton.Follows automaton.initial word last ∧
    ∃ transition ∈ automaton.transitions,
      transition.label = .parallelEnd ∧ transition.source ∈ automaton.silentClosure last

section Reach

variable {edges : List (State × State)} {state source target : State}

theorem mem_targetsFrom : target ∈ targetsFrom state edges ↔ (state, target) ∈ edges := by
  simp [targetsFrom]

theorem mem_edgesElsewhere {edge : State × State} :
    edge ∈ edgesElsewhere state edges ↔ edge ∈ edges ∧ edge.1 ≠ state := by
  simp [edgesElsewhere]

def Linked (edges : List (State × State)) : State → State → Prop :=
  Relation.ReflTransGen fun source target => (source, target) ∈ edges

/-- A way that meets `state` can be cut at its last meeting, so that what follows leaves other
states only. -/
theorem Linked.cut (h : Linked edges source target) (state : State) :
    Linked (edgesElsewhere state edges) source target ∨ target = state ∨
      ∃ next ∈ targetsFrom state edges, Linked (edgesElsewhere state edges) next target := by
  induction h with
  | refl => exact .inl .refl
  | @tail between target hfirst hedge ih =>
      by_cases hbetween : between = state
      · subst hbetween
        exact .inr (.inr ⟨target, mem_targetsFrom.mpr hedge, .refl⟩)
      · have hlast : (between, target) ∈ edgesElsewhere state edges :=
          mem_edgesElsewhere.mpr ⟨hedge, hbetween⟩
        rcases ih with hleft | hleft | ⟨next, hnext, hleft⟩
        · exact .inl (hleft.tail hlast)
        · exact absurd hleft hbetween
        · exact .inr (.inr ⟨next, hnext, hleft.tail hlast⟩)

theorem mem_reach_iff {queue : List State} :
    target ∈ reach edges queue ↔ ∃ source ∈ queue, Linked edges source target := by
  fun_induction reach edges queue with
  | case1 edges => simp
  | case2 edges state queue ih =>
      rw [List.mem_cons, ih]
      constructor
      · rintro (rfl | ⟨source, hsource, hlinked⟩)
        · exact ⟨target, by simp, .refl⟩
        · have hlinked : Linked edges source target :=
            Relation.ReflTransGen.mono (fun _ _ hedge => (mem_edgesElsewhere.mp hedge).1) _ _
              hlinked
          rcases List.mem_append.mp hsource with hqueue | htarget
          · exact ⟨source, by simp [hqueue], hlinked⟩
          · exact ⟨state, by simp, hlinked.head (mem_targetsFrom.mp htarget)⟩
      · rintro ⟨source, hsource, hlinked⟩
        rcases hlinked.cut state with hcut | rfl | ⟨next, hnext, hcut⟩
        · rcases List.mem_cons.mp hsource with rfl | hqueue
          · -- No edge that is left starts at `state` itself, so the way is empty.
            rcases hcut.cases_head with rfl | ⟨next, hedge, -⟩
            · exact .inl rfl
            · exact absurd rfl (mem_edgesElsewhere.mp hedge).2
          · exact .inr ⟨source, by simp [hqueue], hcut⟩
        · exact .inl rfl
        · exact .inr ⟨next, by simp [hnext], hcut⟩

end Reach

variable {automaton : Automaton} {source target : State} {message : Message} {word : List Message}

theorem mem_silentEdges : (source, target) ∈ automaton.silentEdges ↔
    automaton.Edge source none target := by
  simp only [silentEdges, List.mem_filterMap, Edge, Option.elim_none]
  constructor
  · rintro ⟨transition, hmem, hpair⟩
    split at hpair
    · next hsilent =>
        obtain ⟨rfl, rfl⟩ : transition.source = source ∧ transition.target = target := by
          simpa using hpair
        exact ⟨transition, hmem, rfl, rfl, hsilent⟩
    · cases hpair
  · rintro ⟨transition, hmem, rfl, rfl, hsilent⟩
    exact ⟨transition, hmem, by simp [hsilent]⟩

theorem emits_nil_iff_linked :
    Emits automaton.Edge source [] target ↔ Linked automaton.silentEdges source target := by
  constructor
  · intro h
    generalize hword : ([] : List Message) = word at h
    induction h with
    | refl state => exact .refl
    | @head state next last shown rest hedge _ ih =>
        obtain ⟨hshown, hrest⟩ : shown = none ∧ [] = rest := by
          cases shown with
          | none => exact ⟨rfl, hword⟩
          | some message => cases hword
        subst hshown
        exact .head (mem_silentEdges.mpr hedge) (ih hrest)
  · intro h
    induction h with
    | refl => exact .refl _
    | tail _ hedge ih => exact ih.trans_silent (.single (mem_silentEdges.mp hedge))

theorem mem_silentClosure_iff :
    target ∈ automaton.silentClosure source ↔ Emits automaton.Edge source [] target := by
  rw [silentClosure, StateSet.mem_ofList, mem_reach_iff, emits_nil_iff_linked]
  simp

theorem mem_step_iff :
    target ∈ automaton.step source message ↔
      ∃ between, Emits automaton.Edge source [] between ∧
        automaton.Edge between (some message) target := by
  simp only [step, StateSet.mem_ofList, List.mem_map, List.mem_filter, Bool.and_eq_true,
    decide_eq_true_eq, mem_silentClosure_iff]
  constructor
  · rintro ⟨transition, ⟨hmem, hsource, hlabel⟩, rfl⟩
    exact ⟨transition.source, hsource, transition, hmem, rfl, rfl, hlabel⟩
  · rintro ⟨between, hsource, transition, hmem, rfl, rfl, hlabel⟩
    exact ⟨transition, ⟨hmem, hsource, hlabel⟩, rfl⟩

theorem acceptsAt_iff :
    automaton.acceptsAt source = true ↔
      ∃ final ∈ automaton.finals, Emits automaton.Edge source [] final := by
  simp only [acceptsAt, List.any_eq_true, decide_eq_true_eq, mem_silentClosure_iff]
  constructor
  · rintro ⟨final, hreach, hfinal⟩
    exact ⟨final, hfinal, hreach⟩
  · rintro ⟨final, hfinal, hreach⟩
    exact ⟨final, hreach, hfinal⟩

theorem step_ne_nil_iff :
    automaton.step source message ≠ [] ↔ ∃ target, Emits automaton.Edge source [message] target := by
  constructor
  · intro h
    obtain ⟨target, htarget⟩ := List.exists_mem_of_ne_nil _ h
    obtain ⟨between, hsilent, hedge⟩ := mem_step_iff.mp htarget
    exact ⟨target, Emits.cons_iff.mpr ⟨between, target, hsilent, hedge, .refl target⟩⟩
  · rintro ⟨target, hpath⟩
    obtain ⟨between, next, hsilent, hedge, -⟩ := Emits.cons_iff.mp hpath
    exact List.ne_nil_of_mem (mem_step_iff.mpr ⟨between, hsilent, hedge⟩)

/-- Chains of steps, closed silently at their end, follow exactly the paths of the automaton. -/
theorem emits_iff_follows :
    Emits automaton.Edge source word target ↔
      ∃ last, automaton.Follows source word last ∧ target ∈ automaton.silentClosure last := by
  constructor
  · intro h
    induction word generalizing source with
    | nil => exact ⟨source, .nil source, mem_silentClosure_iff.mpr h⟩
    | cons message word ih =>
        obtain ⟨between, next, hsilent, hedge, hrest⟩ := Emits.cons_iff.mp h
        obtain ⟨last, hfollows, htarget⟩ := ih hrest
        exact ⟨last, .cons (mem_step_iff.mpr ⟨between, hsilent, hedge⟩) hfollows, htarget⟩
  · rintro ⟨last, hfollows, htarget⟩
    induction hfollows with
    | nil state => exact mem_silentClosure_iff.mp htarget
    | cons hstep _ ih =>
        obtain ⟨between, hsilent, hedge⟩ := mem_step_iff.mp hstep
        exact Emits.cons_iff.mpr ⟨between, _, hsilent, hedge, ih htarget⟩

theorem accepts_iff :
    automaton.Accepts word ↔
      ∃ final ∈ automaton.finals, Emits automaton.Edge automaton.initial word final := by
  constructor
  · rintro ⟨last, hfollows, haccepts⟩
    obtain ⟨final, hfinal, hreach⟩ := acceptsAt_iff.mp haccepts
    exact ⟨final, hfinal, emits_iff_follows.mpr ⟨last, hfollows, mem_silentClosure_iff.mpr hreach⟩⟩
  · rintro ⟨final, hfinal, hpath⟩
    obtain ⟨last, hfollows, hreach⟩ := emits_iff_follows.mp hpath
    exact ⟨last, hfollows, acceptsAt_iff.mpr ⟨final, hfinal, mem_silentClosure_iff.mp hreach⟩⟩

theorem completes_iff :
    automaton.Completes word ↔
      ∃ transition ∈ automaton.transitions, transition.label = .parallelEnd ∧
        Emits automaton.Edge automaton.initial word transition.source := by
  simp only [Completes, emits_iff_follows]
  constructor
  · rintro ⟨last, hfollows, transition, hmem, hlabel, hreach⟩
    exact ⟨transition, hmem, hlabel, last, hfollows, hreach⟩
  · rintro ⟨transition, hmem, hlabel, last, hfollows, hreach⟩
    exact ⟨last, hfollows, transition, hmem, hlabel, hreach⟩

end Conversation.Automaton

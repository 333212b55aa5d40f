import Conversation.Proofs.Families

namespace Conversation

/-- The label and the payload types of a message transition spell a key. -/
def DispatchKey.SpelledBy (key : DispatchKey) (transition : Transition) : Prop :=
  ∃ message, transition.label = .message message ∧
    key = ⟨message.label, (transition.payload.getD []).map ValueDecl.type⟩

theorem Interaction.dispatchKey_spelledBy (exchange : Interaction) (source target : State) :
    exchange.dispatchKey.SpelledBy (exchange.transition source target) := by
  refine ⟨exchange.message, rfl, ?_⟩
  cases hpayload : exchange.payload with
  | nil => simp [dispatchKey, transition, message, hpayload]
  | cons first rest => simp [dispatchKey, transition, message, hpayload]

namespace Table

variable {α : Type} {state : State}

theorem mem_insert {value : α} {row : State × α} {table : Table α}
    (h : row ∈ insert state value table) : row = (state, value) ∨ row ∈ table := by
  induction table with
  | nil => simpa [insert] using h
  | cons entry rest ih =>
      obtain ⟨key, old⟩ := entry
      rw [insert] at h
      split at h
      · exact List.mem_cons.mp h
      · split at h
        · rcases List.mem_cons.mp h with h | h
          · exact .inl h
          · exact .inr (List.mem_cons_of_mem _ h)
        · rcases List.mem_cons.mp h with h | h
          · exact .inr (h ▸ List.mem_cons_self ..)
          · exact (ih h).imp_right (List.mem_cons_of_mem _)

theorem exists_row_of_mem_listAt {element : α} {table : Table (List α)}
    (h : element ∈ listAt state table) : ∃ row ∈ table, row.1 = state ∧ element ∈ row.2 := by
  induction table with
  | nil => exact absurd h List.not_mem_nil
  | cons row rest ih =>
      obtain ⟨key, list⟩ := row
      rw [listAt, find?] at h
      split at h
      · next hkey => exact ⟨(key, list), List.mem_cons_self .., hkey, h⟩
      · obtain ⟨row, hrow, hstate⟩ := ih h
        exact ⟨row, List.mem_cons_of_mem _ hrow, hstate⟩

/-- What holds of all rows and their elements still holds after an element has been appended. -/
theorem forall_append {holds : State → α → Prop} {value : α} {table : Table (List α)}
    (h : ∀ row ∈ table, row.2 ≠ [] ∧ ∀ element ∈ row.2, holds row.1 element)
    (hvalue : holds state value) :
    ∀ row ∈ append state value table, row.2 ≠ [] ∧ ∀ element ∈ row.2, holds row.1 element := by
  intro row hrow
  rcases mem_insert hrow with rfl | hrow
  · refine ⟨by simp, ?_⟩
    intro element helement
    rcases List.mem_append.mp helement with helement | helement
    · obtain ⟨old, hold, rfl, hmem⟩ := exists_row_of_mem_listAt helement
      exact (h old hold).2 element hmem
    · obtain rfl := List.mem_singleton.mp helement
      exact hvalue
  · exact h row hrow

end Table

namespace Automaton

def observable (automaton : Automaton) : List Transition :=
  automaton.transitions.filter fun transition => transition.label ≠ .silent

/-- A message transition leads from the state to where the entry dispatches, and spells its key. -/
def Backs (automaton : Automaton) (state : State) (entry : DispatchEntry) : Prop :=
  ∃ transition ∈ automaton.transitions, transition.source = state ∧
    transition.target = entry.target ∧ entry.key.SpelledBy transition

structure WellFormed (automaton : Automaton) : Prop where
  head_states : automaton.states.head? = some automaton.initial
  ascending : automaton.states.Pairwise (· < ·)
  transitions_own : ∀ transition ∈ automaton.transitions,
    transition.source ∈ automaton.states ∧ transition.target ∈ automaton.states
  finals_own : automaton.finals ⊆ automaton.states
  interrupts_own : ∀ interrupt ∈ automaton.interrupts, interrupt.anchor ∈ automaton.states
  nested_own : ∀ region ∈ automaton.nested, region.1 ∈ automaton.states
  dispatch_own : ∀ row ∈ automaton.dispatch,
    row.1 ∈ automaton.states ∧ ∀ entry ∈ row.2, entry.target ∈ automaton.states
  /-- No two observable transitions lead to the same state. -/
  entered_once : (automaton.observable.map Transition.target).Nodup
  initial_not_entered : ∀ transition ∈ automaton.observable, transition.target ≠ automaton.initial
  dispatch_backed : ∀ row ∈ automaton.dispatch, ∀ entry ∈ row.2, automaton.Backs row.1 entry

/-- The last transition, and no other, is the completion of a parallel branch. It leads to the last
state, which is final and is left by no transition. -/
structure EndsOnce (automaton : Automaton) : Prop where
  transitions_eq : ∃ rest source done,
    automaton.transitions = rest ++ [Transition.completion source done] ∧
      (∀ transition ∈ rest, transition.label ≠ .parallelEnd) ∧
      automaton.states.getLast? = some done ∧ done ∈ automaton.finals ∧
      ∀ transition ∈ automaton.transitions, transition.source ≠ done

def allStates (automaton : Automaton) : List State :=
  automaton.family.flatMap states

theorem allStates_eq (automaton : Automaton) :
    automaton.allStates = automaton.states ++ automaton.branches.flatMap allStates := by
  rw [allStates, family_eq, List.flatMap_cons, List.flatMap_assoc]
  rfl

theorem length_allStates (automaton : Automaton) :
    automaton.allStates.length = automaton.totalStateCount := by
  rw [allStates, List.length_flatMap, totalStateCount, List.sum]

/-- The states of an automaton and of those nested in it are the states handed out from its initial
state up to `next`. -/
def Allocated (automaton : Automaton) (next : State) : Prop :=
  ∃ count, next = automaton.initial + count ∧
    automaton.allStates.Perm (List.range' automaton.initial count)

theorem Allocated.congr {automaton automaton' : Automaton} {next : State}
    (h : automaton.Allocated next) (hinitial : automaton'.initial = automaton.initial)
    (hstates : automaton'.states = automaton.states)
    (hnested : automaton'.nested = automaton.nested) : automaton'.Allocated next := by
  obtain ⟨count, hnext, hperm⟩ := h
  refine ⟨count, hnext.trans (by rw [hinitial]), ?_⟩
  rw [allStates_eq, hstates, branches, hnested, hinitial]
  rw [allStates_eq] at hperm
  exact hperm

/-- What holds of an automaton under construction while `next` is the next free state. -/
structure Coherent (automaton : Automaton) (next : State) : Prop where
  head_states : automaton.states.head? = some automaton.initial
  ascending : automaton.states.Pairwise (· < ·)
  allocated : automaton.Allocated next
  transitions_own : ∀ transition ∈ automaton.transitions,
    transition.source ∈ automaton.states ∧ transition.target ∈ automaton.states
  entered_once : (automaton.observable.map Transition.target).Nodup
  initial_not_entered : ∀ transition ∈ automaton.observable, transition.target ≠ automaton.initial
  finals_own : automaton.finals ⊆ automaton.states
  nested_own : ∀ region ∈ automaton.nested, region.1 ∈ automaton.states
  nested_ascending : (automaton.nested.map Prod.fst).Pairwise (· < ·)
  dispatch_backed : ∀ row ∈ automaton.dispatch,
    row.2 ≠ [] ∧ ∀ entry ∈ row.2, automaton.Backs row.1 entry

namespace Coherent

variable {automaton : Automaton} {next state source target : State}

theorem states_lt (h : automaton.Coherent next) (hstate : state ∈ automaton.states) :
    state < next := by
  obtain ⟨count, rfl, hperm⟩ := h.allocated
  have hmem : state ∈ automaton.allStates := by
    rw [allStates_eq]
    exact List.mem_append_left _ hstate
  have hrange := List.mem_range'_1.mp (hperm.mem_iff.mp hmem)
  exact hrange.2

theorem initial_mem (h : automaton.Coherent next) : automaton.initial ∈ automaton.states :=
  List.mem_of_mem_head? h.head_states

theorem subset_addState (automaton : Automaton) (state : State) :
    automaton.states ⊆ (automaton.addState state).states :=
  List.subset_append_left _ _

theorem mem_addState (automaton : Automaton) (state : State) :
    state ∈ (automaton.addState state).states :=
  List.mem_append_right _ (List.mem_singleton_self _)

theorem single (initial : State) (roles : List Role) :
    Coherent { Automaton.single initial with roles } (initial + 1) where
  head_states := rfl
  ascending := List.pairwise_singleton _ _
  allocated := by
    refine ⟨1, rfl, ?_⟩
    rw [allStates_eq]
    exact List.Perm.refl _
  transitions_own := by simp [Automaton.single]
  entered_once := .nil
  initial_not_entered := by simp [observable, Automaton.single]
  finals_own := by simp [Automaton.single]
  nested_own := by simp [Automaton.single]
  nested_ascending := .nil
  dispatch_backed := by simp [Automaton.single]

theorem congr (h : automaton.Coherent next) {automaton' : Automaton}
    (hinitial : automaton'.initial = automaton.initial)
    (hstates : automaton'.states = automaton.states)
    (htransitions : automaton'.transitions = automaton.transitions)
    (hfinals : automaton'.finals = automaton.finals)
    (hnested : automaton'.nested = automaton.nested)
    (hdispatch : automaton'.dispatch = automaton.dispatch) : automaton'.Coherent next where
  head_states := by rw [hstates, hinitial]; exact h.head_states
  ascending := by rw [hstates]; exact h.ascending
  allocated := h.allocated.congr hinitial hstates hnested
  transitions_own := by rw [htransitions, hstates]; exact h.transitions_own
  entered_once := by rw [observable, htransitions]; exact h.entered_once
  initial_not_entered := by
    rw [observable, htransitions, hinitial]
    exact h.initial_not_entered
  finals_own := by rw [hfinals, hstates]; exact h.finals_own
  nested_own := by rw [hnested, hstates]; exact h.nested_own
  nested_ascending := by rw [hnested]; exact h.nested_ascending
  dispatch_backed := by
    unfold Backs
    rw [hdispatch, htransitions]
    exact h.dispatch_backed

theorem addState (h : automaton.Coherent next) : (automaton.addState next).Coherent (next + 1) where
  head_states := by
    rw [Automaton.addState, List.head?_append, h.head_states]
    rfl
  ascending := by
    rw [Automaton.addState, List.pairwise_append]
    refine ⟨h.ascending, List.pairwise_singleton _ _, ?_⟩
    intro state hstate other hother
    obtain rfl := List.mem_singleton.mp hother
    exact h.states_lt hstate
  allocated := by
    obtain ⟨count, hnext, hperm⟩ := h.allocated
    refine ⟨count + 1, congrArg (· + 1) hnext, ?_⟩
    rw [allStates_eq] at hperm ⊢
    have happend : ((automaton.states ++ [next]) ++ automaton.branches.flatMap allStates).Perm
        ((automaton.states ++ automaton.branches.flatMap allStates) ++ [next]) := by
      rw [List.append_assoc, List.append_assoc]
      exact List.Perm.append_left _ List.perm_append_comm
    refine happend.trans ?_
    rw [hnext, List.range'_1_concat]
    exact hperm.append_right _
  transitions_own := by
    intro transition htransition
    obtain ⟨hsource, htarget⟩ := h.transitions_own transition htransition
    exact ⟨List.mem_append_left _ hsource, List.mem_append_left _ htarget⟩
  entered_once := h.entered_once
  initial_not_entered := h.initial_not_entered
  finals_own := List.Subset.trans h.finals_own (List.subset_append_left _ _)
  nested_own := by
    intro region hregion
    exact List.mem_append_left _ (h.nested_own region hregion)
  nested_ascending := h.nested_ascending
  dispatch_backed := h.dispatch_backed

/-- An observable transition must lead to a state that none has led to yet. -/
theorem addTransition (h : automaton.Coherent next) {transition : Transition}
    (hsource : transition.source ∈ automaton.states)
    (htarget : transition.target ∈ automaton.states)
    (hfresh : transition.label ≠ .silent → transition.target ≠ automaton.initial ∧
      ∀ other ∈ automaton.observable, other.target ≠ transition.target) :
    (automaton.addTransition transition).Coherent next where
  head_states := h.head_states
  ascending := h.ascending
  allocated := h.allocated.congr rfl rfl rfl
  transitions_own := by
    intro other hother
    rcases List.mem_append.mp hother with hother | hother
    · exact h.transitions_own other hother
    · obtain rfl := List.mem_singleton.mp hother
      exact ⟨hsource, htarget⟩
  entered_once := by
    rw [observable, Automaton.addTransition, List.filter_append, List.map_append]
    refine List.Nodup.append h.entered_once ?_ ?_
    · by_cases hsilent : transition.label = .silent <;> simp [hsilent]
    · intro state hstate hother
      obtain ⟨other, hmem, rfl⟩ := List.mem_map.mp hstate
      by_cases hsilent : transition.label = .silent
      · simp [hsilent] at hother
      · simp only [List.filter_cons, hsilent, ne_eq, not_false_eq_true, decide_true, if_true,
          List.filter_nil, List.map_cons, List.map_nil, List.mem_singleton] at hother
        exact (hfresh hsilent).2 other hmem hother
  initial_not_entered := by
    intro other hother
    rw [observable, Automaton.addTransition, List.filter_append, List.mem_append] at hother
    rcases hother with hother | hother
    · exact h.initial_not_entered other hother
    · obtain ⟨hmem, hloud⟩ := List.mem_filter.mp hother
      obtain rfl := List.mem_singleton.mp hmem
      exact (hfresh (by simpa using hloud)).1
  finals_own := h.finals_own
  nested_own := h.nested_own
  nested_ascending := h.nested_ascending
  dispatch_backed := by
    intro row hrow
    obtain ⟨hne, hbacked⟩ := h.dispatch_backed row hrow
    refine ⟨hne, fun entry hentry => ?_⟩
    obtain ⟨backing, hbacking, hspelled⟩ := hbacked entry hentry
    exact ⟨backing, List.mem_append_left _ hbacking, hspelled⟩

theorem addSilent (h : automaton.Coherent next) (hsource : source ∈ automaton.states)
    (htarget : target ∈ automaton.states) :
    (automaton.addTransition (.silent source target)).Coherent next := by
  refine h.addTransition hsource htarget ?_
  intro hlabel
  exact absurd rfl hlabel

theorem addFresh (h : automaton.Coherent next) {transition : Transition}
    (hsource : transition.source ∈ automaton.states) (htarget : transition.target = next) :
    ((automaton.addState next).addTransition transition).Coherent (next + 1) := by
  have hmem : next ∈ (automaton.addState next).states :=
    List.mem_append_right _ (List.mem_singleton_self _)
  refine h.addState.addTransition (List.mem_append_left _ hsource) (htarget ▸ hmem)
    fun _ => ⟨?_, ?_⟩
  · -- All states that are known already are below the one that is allocated now.
    rw [htarget]
    exact ne_of_gt (h.states_lt h.initial_mem)
  · intro other hother
    rw [htarget]
    exact ne_of_lt (h.states_lt (h.transitions_own other (List.mem_of_mem_filter hother)).2)

theorem markFinal (h : automaton.Coherent next) (hstate : state ∈ automaton.states) :
    (automaton.markFinal state).Coherent next :=
  { h with
    allocated := h.allocated.congr rfl rfl rfl
    finals_own := by
      intro other hother
      rcases StateSet.mem_insert.mp hother with rfl | hother
      · exact hstate
      · exact h.finals_own hother }

theorem addDispatch (h : automaton.Coherent next) {entry : DispatchEntry} {transition : Transition}
    (htransition : transition ∈ automaton.transitions) (hsource : transition.source = source)
    (htarget : transition.target = entry.target) (hspelled : entry.key.SpelledBy transition) :
    (automaton.addDispatch source entry).Coherent next :=
  { h with
    allocated := h.allocated.congr rfl rfl rfl
    dispatch_backed := by
      have hbacks : automaton.Backs source entry :=
        ⟨transition, htransition, hsource, htarget, hspelled⟩
      exact Table.forall_append h.dispatch_backed hbacks }

theorem addBranch (h : automaton.Coherent next) {anchor : State} {branch : Automaton} {count : Nat}
    (hanchor : anchor ∈ automaton.states)
    (hbranch : branch.allStates.Perm (List.range' next count)) :
    (automaton.addBranch anchor branch).Coherent (next + count) :=
  { h with
    allocated := by
      obtain ⟨before, hnext, hperm⟩ := h.allocated
      refine ⟨before + count, by rw [hnext, Nat.add_assoc]; rfl, ?_⟩
      rw [allStates_eq] at hperm ⊢
      have hbranches : ((automaton.addBranch anchor branch).branches.flatMap allStates).Perm
          (automaton.branches.flatMap allStates ++ branch.allStates) := by
        have happend : (automaton.addBranch anchor branch).branches.Perm
            (automaton.branches ++ [branch]) := Table.append_perm h.nested_ascending
        have hstates := happend.flatMap_right allStates
        rwa [List.flatMap_append, List.flatMap_singleton] at hstates
      refine (hbranches.append_left _).trans ?_
      subst hnext
      rw [← List.append_assoc, ← List.range'_append_1]
      exact hperm.append hbranch
    nested_own := by
      intro region hregion
      rcases Table.mem_keys_insert (List.mem_map_of_mem hregion) with hkey | hkey
      · rw [hkey]
        exact hanchor
      · obtain ⟨other, hother, heq⟩ := List.mem_map.mp hkey
        rw [← heq]
        exact h.nested_own other hother
    nested_ascending := Table.pairwise_insert h.nested_ascending }

theorem complete (h : automaton.Coherent next) (hlast : state ∈ automaton.states) :
    (automaton.complete state next).Coherent (next + 1) :=
  (h.addFresh hlast rfl).markFinal (List.mem_append_right _ (List.mem_singleton_self _))

theorem wellFormed (h : automaton.Coherent next)
    (hinterrupts : ∀ interrupt ∈ automaton.interrupts, interrupt.anchor ∈ automaton.finals) :
    automaton.WellFormed where
  head_states := h.head_states
  ascending := h.ascending
  transitions_own := h.transitions_own
  finals_own := h.finals_own
  interrupts_own := fun interrupt hinterrupt => h.finals_own (hinterrupts interrupt hinterrupt)
  nested_own := h.nested_own
  dispatch_own := by
    intro row hrow
    obtain ⟨hne, hbacked⟩ := h.dispatch_backed row hrow
    have hown : ∀ entry ∈ row.2, row.1 ∈ automaton.states ∧ entry.target ∈ automaton.states := by
      intro entry hentry
      obtain ⟨transition, htransition, hsource, htarget, -⟩ := hbacked entry hentry
      rw [← hsource, ← htarget]
      exact h.transitions_own transition htransition
    obtain ⟨first, hfirst⟩ := List.exists_mem_of_ne_nil _ hne
    exact ⟨(hown first hfirst).1, fun entry hentry => (hown entry hentry).2⟩
  entered_once := h.entered_once
  initial_not_entered := h.initial_not_entered
  dispatch_backed := fun row hrow => (h.dispatch_backed row hrow).2

end Coherent

end Automaton

theorem Compiler.automaton_interaction {exchange : Interaction} {build final : Build}
    (h : Compiler.interaction exchange build = .ok () final) :
    ∃ roles interrupts, final.scopes.automaton =
      { (build.scopes.automaton.addState build.arena.next).addTransition
          (exchange.transition build.scopes.cursor build.arena.next) with roles, interrupts } := by
  obtain ⟨registered, hregister, rfl⟩ := Compiler.interaction_eq_ok_iff.mp h
  rcases Compiler.registerInterrupt_eq_ok_iff.mp hregister with ⟨-, rfl⟩ | ⟨anchor, -, -, rfl⟩
  · refine ⟨appendNew build.scopes.automaton.roles exchange.partner,
      build.scopes.automaton.interrupts, ?_⟩
    simp only [Build.scopes_modifyScopes, Build.scopes_connect]
    rfl
  · refine ⟨appendNew build.scopes.automaton.roles exchange.partner,
      build.scopes.automaton.interrupts ++
        [⟨anchor, exchange.transition build.scopes.cursor build.arena.next⟩], ?_⟩
    simp only [Build.scopes_modifyScopes, Build.scopes_connect, Build.settle, Build.scopes_record]
    rfl

namespace Build

/-- The compilation only knows states of the automaton under construction. -/
structure Coherent (build : Build) : Prop where
  automaton : build.scopes.automaton.Coherent build.arena.next
  level : build.Level
  cursor_mem : build.scopes.cursor ∈ build.scopes.automaton.states
  resolves : ∀ label start, build.scopes.resolveRecursion label = some start →
    start ∈ build.scopes.automaton.states
  exits : ∀ choice ∈ build.scopes.current.choices, ∀ exit, choice.exit = some exit →
    exit ∈ build.scopes.automaton.states

namespace Coherent

variable {build build' : Build} {piece : Piece} {next cursor : State} {choices : List OpenChoice}

theorem grows (h : build.Coherent) (hgrows : build.Grows piece next cursor choices build')
    (hautomaton : build'.scopes.automaton.Coherent next)
    (hsubset : build.scopes.automaton.states ⊆ build'.scopes.automaton.states)
    (hcursor : cursor ∈ build'.scopes.automaton.states)
    (hexits : ∀ choice ∈ choices, ∀ exit, choice.exit = some exit →
      exit ∈ build'.scopes.automaton.states) : build'.Coherent where
  automaton := hgrows.next_eq.symm ▸ hautomaton
  level := h.level.grows hgrows
  cursor_mem := hgrows.cursor_eq.symm ▸ hcursor
  resolves := fun label start hresolve =>
    hsubset (h.resolves label start (hgrows.resolves label start hresolve))
  exits := hgrows.choices_eq.symm ▸ hexits

/-- The form of all actions that leave the open choices as they are. -/
theorem advance (h : build.Coherent)
    (hgrows : build.Grows piece next cursor build.scopes.current.choices build')
    (hautomaton : build'.scopes.automaton.Coherent next)
    (hsubset : build.scopes.automaton.states ⊆ build'.scopes.automaton.states)
    (hcursor : cursor ∈ build'.scopes.automaton.states) :
    build'.Coherent ∧ build.scopes.automaton.states ⊆ build'.scopes.automaton.states :=
  ⟨h.grows hgrows hautomaton hsubset hcursor fun choice hchoice exit hexit =>
    hsubset (h.exits choice hchoice exit hexit), hsubset⟩

theorem of_single {initial : State} {roles : List Role}
    (hautomaton : build.scopes.automaton = { Automaton.single initial with roles })
    (hposition : build.position = .fresh initial) (hlevel : build.Level)
    (hresolves : ∀ label, build.scopes.resolveRecursion label = none)
    (hchoices : build.scopes.current.choices = []) : build.Coherent := by
  obtain ⟨hnext, hcursor⟩ := Position.mk.inj hposition
  have hstates : build.scopes.automaton.states = [initial] := by rw [hautomaton]; rfl
  refine ⟨?_, hlevel, ?_, ?_, ?_⟩
  · rw [hautomaton, hnext]
    exact .single initial roles
  · rw [hcursor, hstates]
    exact List.mem_singleton_self _
  · simp [hresolves]
  · simp [hchoices]

theorem of_fresh {initial : State} (h : build.Fresh initial) : build.Coherent := by
  obtain ⟨roles, hautomaton⟩ := h.automaton_eq
  exact .of_single hautomaton h.position_eq h.level h.resolveRecursion_eq h.choices_eq

theorem interaction (h : build.Coherent) {exchange : Interaction}
    (hrun : Compiler.interaction exchange build = .ok () build') :
    build'.Coherent ∧ build.scopes.automaton.states ⊆ build'.scopes.automaton.states := by
  have hgrows := build.grows_refl.interaction [] hrun
  obtain ⟨roles, interrupts, hautomaton⟩ := Compiler.automaton_interaction hrun
  have hstates : build'.scopes.automaton.states =
      build.scopes.automaton.states ++ [build.arena.next] := by
    rw [hautomaton]
    rfl
  refine h.advance hgrows ?_ ?_ ?_
  · rw [hautomaton]
    exact (h.automaton.addFresh h.cursor_mem rfl).congr rfl rfl rfl rfl rfl rfl
  · rw [hstates]
    exact List.subset_append_left _ _
  · rw [hstates]
    exact List.mem_append_right _ (List.mem_singleton_self _)

theorem choiceExit (h : build.Coherent) {exit : State} (hexit : build.exit? = some exit) :
    exit ∈ build.scopes.automaton.states := by
  rw [exit?, Option.bind_eq_some_iff] at hexit
  obtain ⟨choice, hchoice, hexit⟩ := hexit
  exact h.exits choice (List.mem_of_mem_head? hchoice) exit hexit

theorem closeChoice (h : build.Coherent) {start : State}
    (hstart : start ∈ build.scopes.automaton.states)
    (hrun : Compiler.closeChoice start build = .ok () build') :
    build'.Coherent ∧ build.scopes.automaton.states ⊆ build'.scopes.automaton.states := by
  have hcursor : build.exit?.getD start ∈ build.scopes.automaton.states := by
    cases hexit : build.exit? with
    | none => exact hstart
    | some exit => exact h.choiceExit hexit
  cases hrun
  have hgrows : build.Grows .empty build.arena.next (build.exit?.getD start)
      build.scopes.current.choices.tail (build.modifyScopes fun scopes =>
        scopes.popChoice.setCursor (build.exit?.getD start)) :=
    build.grows_refl.adjust (.refl _) rfl rfl rfl rfl
  have hautomaton : ((build.modifyScopes fun scopes =>
      scopes.popChoice.setCursor (build.exit?.getD start)).record
        (.choiceLeft (build.exit?.getD start))).scopes.automaton = build.scopes.automaton := by
    rw [scopes_record]
    rfl
  refine ⟨h.grows (hgrows.record _) ?_ ?_ ?_ ?_, ?_⟩
  · exact hautomaton ▸ h.automaton
  · exact hautomaton ▸ List.Subset.refl _
  · exact hautomaton ▸ hcursor
  · intro choice hchoice exit hexit
    exact hautomaton ▸ h.exits choice (List.mem_of_mem_tail hchoice) exit hexit
  · exact hautomaton ▸ List.Subset.refl _

theorem converge (h : build.Coherent) (hopened : build.scopes.current.choices ≠ [])
    (hrun : Compiler.converge build = .ok () build') :
    build'.Coherent ∧ build.scopes.automaton.states ⊆ build'.scopes.automaton.states ∧
      build'.scopes.current.choices ≠ [] := by
  obtain ⟨⟨start, exit⟩, choices, hchoices⟩ := List.exists_cons_of_ne_nil hopened
  have hexit : build.exit? = exit := by simp [exit?, ScopeStack.choice, hchoices]
  have hrefl := build.grows_refl
  rw [hchoices] at hrefl
  cases exit with
  | none =>
      have hgrows := hrefl.converge_none [] hrun
      have hautomaton : build'.scopes.automaton =
          (build.scopes.automaton.addState build.arena.next).addTransition
            (.silent build.scopes.cursor build.arena.next) := by
        rw [Compiler.converge_of_none hexit] at hrun
        cases hrun
        simp [ScopeStack.setChoiceExit, ScopeStack.modifyAutomaton, hchoices, ScopeStack.cursor]
      have hsubset : build.scopes.automaton.states ⊆ build'.scopes.automaton.states := by
        rw [hautomaton]
        exact List.subset_append_left _ _
      have hmem : build.arena.next ∈ build'.scopes.automaton.states := by
        rw [hautomaton]
        exact List.mem_append_right _ (List.mem_singleton_self _)
      refine ⟨h.grows hgrows ?_ hsubset (hsubset h.cursor_mem) ?_, hsubset, ?_⟩
      · rw [hautomaton]
        exact h.automaton.addFresh h.cursor_mem rfl
      · intro choice hchoice exit hexit'
        rcases List.mem_cons.mp hchoice with rfl | hchoice
        · cases hexit'
          exact hmem
        · exact hsubset (h.exits choice (hchoices ▸ List.mem_cons_of_mem _ hchoice) exit hexit')
      · simp [hgrows.choices_eq]
  | some exit =>
      have hgrows := hrefl.converge_some hrun
      have hmem := h.choiceExit hexit
      rw [Compiler.converge_of_some hexit] at hrun
      have hautomaton : build'.scopes.automaton =
          build.scopes.automaton.addTransition (.silent build.scopes.cursor exit) := by
        cases hrun
        exact congrArg ScopeStack.automaton (scopes_connect _ _)
      rw [← hchoices] at hgrows
      obtain ⟨hcoherent, hsubset⟩ := h.advance hgrows (hautomaton ▸ h.automaton.addSilent
        h.cursor_mem hmem) (hautomaton ▸ List.Subset.refl _) (hautomaton ▸ h.cursor_mem)
      exact ⟨hcoherent, hsubset, by simp [hgrows.choices_eq, hchoices]⟩

end Coherent

end Build

/-- The states that some work goes back to belong to the automaton under construction. -/
def Work.Placed (build : Build) : Work → Prop
  | .choiceBranches start _ _ =>
      start ∈ build.scopes.automaton.states ∧ build.scopes.current.choices ≠ []
  | .directedBranches start _ _ =>
      start ∈ build.scopes.automaton.states ∧ build.scopes.current.choices ≠ []
  | .parallelBranches anchor _ _ => anchor ∈ build.scopes.automaton.states
  | _ => True

namespace Build.Coherent

variable {mode : LoopMode} {build build' : Build}

theorem openChoice (h : build.Coherent) {branches : Nat} {start : State}
    (hrun : Compiler.openChoice branches build = .ok start build') :
    build'.Coherent ∧ build'.scopes.automaton = build.scopes.automaton ∧
      start ∈ build'.scopes.automaton.states ∧ build'.scopes.current.choices ≠ [] := by
  obtain ⟨rfl, hgrows⟩ := build.grows_refl.openChoice hrun
  have hautomaton : build'.scopes.automaton = build.scopes.automaton := by
    cases hrun
    simp [ScopeStack.pushChoice]
  refine ⟨h.grows hgrows (hautomaton ▸ h.automaton) (hautomaton ▸ List.Subset.refl _)
    (hautomaton ▸ h.cursor_mem) ?_, hautomaton, hautomaton ▸ h.cursor_mem, ?_⟩
  · intro choice hchoice exit hexit
    rcases List.mem_cons.mp hchoice with rfl | hchoice
    · cases hexit
    · exact hautomaton ▸ h.exits choice hchoice exit hexit
  · simp [hgrows.choices_eq]

theorem openLoop (h : build.Coherent) {head : State}
    (hrun : Compiler.openLoop mode build = .ok head build') :
    build'.Coherent ∧ build.scopes.automaton.states ⊆ build'.scopes.automaton.states ∧
      (mode = .loop → head ∈ build'.scopes.automaton.states) := by
  cases mode with
  | once =>
      have hgrows := build.grows_refl.openLoop_once hrun
      have hautomaton : build'.scopes.automaton = build.scopes.automaton := by
        cases hrun
        exact congrArg ScopeStack.automaton (scopes_record _ _)
      obtain ⟨hcoherent, hsubset⟩ := h.advance hgrows (hautomaton ▸ h.automaton)
        (hautomaton ▸ List.Subset.refl _) (hautomaton ▸ h.cursor_mem)
      exact ⟨hcoherent, hsubset, nofun⟩
  | loop =>
      obtain ⟨rfl, hgrows⟩ := build.grows_refl.openLoop_loop [] hrun
      have hautomaton : build'.scopes.automaton =
          (build.scopes.automaton.addState build.arena.next).addTransition
            (.silent build.scopes.cursor build.arena.next) := by
        rw [Compiler.openLoop_loop_eq] at hrun
        cases hrun
        rw [scopes_record, scopes_modifyScopes, scopes_connect]
        rfl
      have hsubset : build.scopes.automaton.states ⊆ build'.scopes.automaton.states := by
        rw [hautomaton]
        exact List.subset_append_left _ _
      have hmem : build.arena.next ∈ build'.scopes.automaton.states := by
        rw [hautomaton]
        exact List.mem_append_right _ (List.mem_singleton_self _)
      obtain ⟨hcoherent, -⟩ := h.advance hgrows
        (hautomaton ▸ h.automaton.addFresh h.cursor_mem rfl) hsubset hmem
      exact ⟨hcoherent, hsubset, fun _ => hmem⟩

theorem closeLoop (h : build.Coherent) {head : State}
    (hhead : mode = .loop → head ∈ build.scopes.automaton.states)
    (hrun : Compiler.closeLoop mode head build = .ok () build') :
    build'.Coherent ∧ build.scopes.automaton.states ⊆ build'.scopes.automaton.states := by
  cases mode with
  | once =>
      have hautomaton : build'.scopes.automaton = build.scopes.automaton := by
        cases hrun
        exact congrArg ScopeStack.automaton (scopes_record _ _)
      exact h.advance (build.grows_refl.closeLoop_once hrun) (hautomaton ▸ h.automaton)
        (hautomaton ▸ List.Subset.refl _) (hautomaton ▸ h.cursor_mem)
  | loop =>
      have hautomaton : build'.scopes.automaton =
          build.scopes.automaton.addTransition (.silent build.scopes.cursor head) := by
        rw [Compiler.closeLoop_loop_eq] at hrun
        cases hrun
        rw [scopes_record, scopes_connect]
        rfl
      exact h.advance (build.grows_refl.closeLoop_loop hrun)
        (hautomaton ▸ h.automaton.addSilent h.cursor_mem (hhead rfl))
        (hautomaton ▸ List.Subset.refl _) (hautomaton ▸ h.cursor_mem)

theorem call (h : build.Coherent) {label : String}
    (hrun : Compiler.call label build = .ok () build') :
    build'.Coherent ∧ build.scopes.automaton.states ⊆ build'.scopes.automaton.states := by
  obtain ⟨start, hresolve, hgrows⟩ := build.grows_refl.call [] hrun
  have hautomaton : build'.scopes.automaton =
      (build.scopes.automaton.addTransition (.silent build.scopes.cursor start)).addState
        build.arena.next := by
    obtain ⟨start', hresolve', rfl⟩ := Compiler.call_eq_ok_iff.mp hrun
    rw [hresolve] at hresolve'
    cases hresolve'
    simp [ScopeStack.setCursor, ScopeStack.modifyAutomaton]
  exact h.advance hgrows
    (hautomaton ▸ (h.automaton.addSilent h.cursor_mem (h.resolves label start hresolve)).addState)
    (hautomaton ▸ Automaton.Coherent.subset_addState _ _)
    (hautomaton ▸ Automaton.Coherent.mem_addState _ _)

theorem addRoles (h : build.Coherent) (roles : List Role) :
    (roles.foldl addRole build).Coherent ∧
      (roles.foldl addRole build).scopes.automaton.states = build.scopes.automaton.states := by
  induction roles generalizing build with
  | nil => exact ⟨h, rfl⟩
  | cons role rest ih =>
      have hnamed : Compiler.addRole role build = .ok () (build.addRole role) := rfl
      obtain ⟨hcoherent, -⟩ := h.advance (build.grows_refl.addRole hnamed)
        (h.automaton.congr rfl rfl rfl rfl rfl rfl) (List.Subset.refl _) h.cursor_mem
      exact ih hcoherent

theorem markFinal (h : build.Coherent)
    (hgrows : build.Grows piece build.arena.next build.scopes.cursor build.scopes.current.choices
      build')
    (hautomaton : build'.scopes.automaton = build.scopes.automaton.markFinal build.scopes.cursor) :
    build'.Coherent ∧ build.scopes.automaton.states ⊆ build'.scopes.automaton.states :=
  h.advance hgrows (hautomaton ▸ h.automaton.markFinal h.cursor_mem)
    (hautomaton ▸ List.Subset.refl _) (hautomaton ▸ h.cursor_mem)

theorem enterChoiceBranch (h : build.Coherent) {index : Nat} {start : State}
    (hstart : start ∈ build.scopes.automaton.states)
    (hrun : Compiler.enterChoiceBranch index start build = .ok () build') :
    build'.Coherent ∧ build.scopes.automaton.states ⊆ build'.scopes.automaton.states := by
  have hautomaton : build'.scopes.automaton = build.scopes.automaton := by
    rw [Compiler.enterChoiceBranch_eq] at hrun
    cases hrun
    rw [scopes_record]
    rfl
  exact h.advance (build.grows_refl.enterChoiceBranch hrun) (hautomaton ▸ h.automaton)
    (hautomaton ▸ List.Subset.refl _) (hautomaton ▸ hstart)

theorem registerDispatch (h : build.Coherent) {exchange : Interaction} {start : State}
    (hmem : exchange.transition start build.scopes.cursor ∈ build.scopes.automaton.transitions)
    (hrun : Compiler.registerDispatch start exchange.dispatchKey build = .ok () build') :
    build'.Coherent ∧ build.scopes.automaton.states ⊆ build'.scopes.automaton.states := by
  have hautomaton : build'.scopes.automaton =
      build.scopes.automaton.addDispatch start ⟨exchange.dispatchKey, build.scopes.cursor⟩ := by
    rw [Compiler.registerDispatch_eq] at hrun
    cases hrun
    exact congrArg ScopeStack.automaton (scopes_record _ _)
  exact h.advance (build.grows_refl.registerDispatch hrun)
    (hautomaton ▸ h.automaton.addDispatch hmem rfl rfl (exchange.dispatchKey_spelledBy _ _))
    (hautomaton ▸ List.Subset.refl _) (hautomaton ▸ h.cursor_mem)

theorem selectBranch (h : build.Coherent) {index : Nat} {start : State} {exchange : Interaction}
    {entered selected : Build} (hstart : start ∈ build.scopes.automaton.states)
    (henter : Compiler.enterChoiceBranch index start build = .ok () entered)
    (hselect : Compiler.interaction exchange entered = .ok () selected)
    (hregister : Compiler.registerDispatch start exchange.dispatchKey selected = .ok () build') :
    build'.Coherent ∧ build.scopes.automaton.states ⊆ build'.scopes.automaton.states := by
  have hgrows := build.grows_refl.enterChoiceBranch henter
  obtain ⟨hentered, hsubset₁⟩ := h.enterChoiceBranch hstart henter
  obtain ⟨hselected, hsubset₂⟩ := hentered.interaction hselect
  have hmem : exchange.transition start selected.scopes.cursor ∈
      selected.scopes.automaton.transitions := by
    obtain ⟨roles, interrupts, hautomaton⟩ := Compiler.automaton_interaction hselect
    rw [hautomaton, (hgrows.interaction [] hselect).cursor_eq, hgrows.next_eq, hgrows.cursor_eq]
    exact List.mem_append_right _ (List.mem_singleton_self _)
  obtain ⟨hregistered, hsubset₃⟩ := hselected.registerDispatch hmem hregister
  exact ⟨hregistered, List.Subset.trans hsubset₁ (List.Subset.trans hsubset₂ hsubset₃)⟩

theorem openParallel (h : build.Coherent) {branches : Nat} {anchor join : State}
    (hrun : Compiler.openParallel branches build = .ok (anchor, join) build') :
    build'.Coherent ∧ build.scopes.automaton.states ⊆ build'.scopes.automaton.states ∧
      anchor ∈ build'.scopes.automaton.states ∧ join ∈ build'.scopes.automaton.states := by
  obtain ⟨rfl, rfl, hgrows⟩ := build.grows_refl.openParallel [] hrun
  have hautomaton : build'.scopes.automaton =
      build.scopes.automaton.addState build.arena.next := by
    rw [Compiler.openParallel_eq] at hrun
    cases hrun
    exact congrArg ScopeStack.automaton (scopes_record _ _)
  have hsubset : build.scopes.automaton.states ⊆ build'.scopes.automaton.states :=
    hautomaton ▸ Automaton.Coherent.subset_addState _ _
  obtain ⟨hopened, -⟩ := h.advance hgrows (hautomaton ▸ h.automaton.addState) hsubset
    (hsubset h.cursor_mem)
  exact ⟨hopened, hsubset, hsubset h.cursor_mem,
    hautomaton ▸ Automaton.Coherent.mem_addState _ _⟩

theorem closeParallel (h : build.Coherent) {anchor join : State}
    (hanchor : anchor ∈ build.scopes.automaton.states)
    (hjoin : join ∈ build.scopes.automaton.states)
    (hrun : Compiler.closeParallel anchor join build = .ok () build') :
    build'.Coherent ∧ build.scopes.automaton.states ⊆ build'.scopes.automaton.states := by
  have hautomaton : build'.scopes.automaton =
      build.scopes.automaton.addTransition (.silent anchor join) := by
    rw [Compiler.closeParallel_eq] at hrun
    cases hrun
    simp [ScopeStack.setCursor, ScopeStack.modifyAutomaton]
  exact h.advance (build.grows_refl.closeParallel hrun)
    (hautomaton ▸ h.automaton.addSilent hanchor hjoin) (hautomaton ▸ List.Subset.refl _)
    (hautomaton ▸ hjoin)

theorem armInterrupt (h : build.Coherent) {role : Role}
    (hrun : Compiler.armInterrupt role build = .ok () build') :
    build'.Coherent ∧ build.scopes.automaton.states ⊆ build'.scopes.automaton.states := by
  have hautomaton : build'.scopes.automaton =
      build.scopes.automaton.markFinal build.scopes.cursor := by
    obtain ⟨-, rfl⟩ := Compiler.armInterrupt_eq_ok_iff.mp hrun
    rw [scopes_record]
    exact congrArg ScopeStack.automaton (scopes_markFinal _ _)
  exact h.markFinal (build.grows_refl.armInterrupt hrun) hautomaton

theorem disarmInterrupt (h : build.Coherent)
    (hrun : Compiler.disarmInterrupt build = .ok () build') :
    build'.Coherent ∧ build.scopes.automaton.states ⊆ build'.scopes.automaton.states := by
  have hscopes : build'.scopes = build.scopes := by
    cases hrun
    rfl
  exact h.advance (build.grows_refl.disarmInterrupt hrun) (hscopes ▸ h.automaton)
    (hscopes ▸ List.Subset.refl _) (hscopes ▸ h.cursor_mem)

theorem openRecursion (h : build.Coherent) {label : String}
    (hopen : Compiler.openRecursion label build = .ok () build') : build'.Coherent := by
  obtain ⟨harena, hscopes⟩ := Compiler.openRecursion_eq_ok hopen
  have hautomaton : build'.scopes.automaton = build.scopes.automaton := by rw [hscopes]; rfl
  refine ⟨?_, ?_, ?_, ?_, ?_⟩
  · rw [hautomaton, harena]
    exact h.automaton
  · rw [Level, hscopes]
    exact h.level
  · rw [hscopes]
    exact h.cursor_mem
  · intro asked start hresolve
    rw [hscopes, ScopeStack.resolveRecursion_enterRecursion] at hresolve
    rw [hautomaton]
    split at hresolve
    · cases hresolve
      exact h.cursor_mem
    · exact h.resolves asked start hresolve
  · intro choice hchoice
    rw [hscopes] at hchoice
    exact absurd hchoice List.not_mem_nil

theorem recursion (h : build.Coherent) {label : String} {opened closing : Build}
    {last : State} {choices : List OpenChoice}
    (hopen : Compiler.openRecursion label build = .ok () opened)
    (hbody : opened.Coherent → closing.Coherent ∧
      opened.scopes.automaton.states ⊆ closing.scopes.automaton.states)
    (hgrows : opened.Grows piece next last choices closing)
    (hclose : Compiler.closeRecursion label closing = .ok () build') :
    build'.Coherent ∧ build.scopes.automaton.states ⊆ build'.scopes.automaton.states := by
  obtain ⟨-, hscopes⟩ := Compiler.openRecursion_eq_ok hopen
  have hautomaton : opened.scopes.automaton = build.scopes.automaton := by rw [hscopes]; rfl
  obtain ⟨hclosing, hsubset⟩ := hbody (h.openRecursion hopen)
  obtain ⟨-, -, hautomaton'⟩ := Compiler.closeRecursion_eq_ok hopen hgrows hclose
  have hgrows' := Compiler.grows_of_recursion hopen hgrows hclose
  refine h.advance hgrows' ?_ ?_ ?_
  · rw [hautomaton', ← hgrows.next_eq]
    exact hclosing.automaton
  · rw [hautomaton', ← hautomaton]
    exact hsubset
  · rw [hautomaton', ← hgrows.cursor_eq]
    exact hclosing.cursor_mem

theorem parallelBranch (h : build.Coherent) {anchor : State} {index : Nat} {entered ended : Build}
    (hanchor : anchor ∈ build.scopes.automaton.states)
    (henter : Compiler.enterParallelBranch anchor build = .ok () entered)
    (hleave : Compiler.leaveParallelBranch index anchor ended = .ok () build') :
    entered.Coherent ∧ ∀ {piece next cursor choices}, ended.Coherent →
      entered.Grows piece next cursor choices ended →
      build'.Coherent ∧ build'.scopes.automaton.states = build.scopes.automaton.states := by
  have hentered : entered.Coherent := by
    cases henter
    exact .of_single rfl rfl rfl
      (fun label => ScopeStack.resolveRecursion_enterBranch anchor _ label h.level) rfl
  refine ⟨hentered, ?_⟩
  intro piece next cursor choices hended hgrows
  obtain ⟨hnext, hscopes⟩ := Compiler.enterParallelBranch_eq_ok henter
  have hinitial : ended.scopes.automaton.initial = build.arena.next := by
    rw [hgrows.automaton_grows.initial_eq, hscopes]
    rfl
  obtain ⟨hnext', -, hscopes'⟩ := Compiler.leaveParallelBranch_eq_of_grows henter hgrows hleave
  let completed := ended.scopes.automaton.complete ended.scopes.cursor ended.arena.next
  have hautomaton : build'.scopes.automaton =
      build.scopes.automaton.addBranch anchor completed := by
    rw [hscopes']
  obtain ⟨count, hcount, hperm⟩ := (hended.automaton.complete hended.cursor_mem).allocated
  have hcompleted : completed.initial = build.arena.next := hinitial
  rw [hcompleted] at hcount hperm
  obtain ⟨_, -, hgrows'⟩ := Compiler.grows_of_parallelBranch henter hgrows hleave
  rw [← hgrows.next_eq] at hgrows'
  have hstates : build'.scopes.automaton.states = build.scopes.automaton.states := by
    rw [hautomaton]
    rfl
  obtain ⟨hcoherent, -⟩ := h.advance hgrows'
    (by rw [hautomaton, hcount]; exact h.automaton.addBranch hanchor hperm)
    (hstates ▸ List.Subset.refl _) (hstates ▸ h.cursor_mem)
  exact ⟨hcoherent, hstates⟩

/-- A branch of a choice has been started and compiled, and is joined to the exit; then the next one
may be entered. -/
theorem joinBranch {branch : List Activity} {start : State} {started ended converged : Build}
    (hplaced : start ∈ build.scopes.automaton.states ∧ build.scopes.current.choices ≠ [])
    (hstarted : started.Coherent ∧
      build.scopes.automaton.states ⊆ started.scopes.automaton.states)
    (hchoices : started.scopes.current.choices = build.scopes.current.choices)
    (hruns : Runs mode (.activities branch) started ended)
    (hended : ended.Coherent ∧ started.scopes.automaton.states ⊆ ended.scopes.automaton.states)
    (hconverge : Compiler.converge ended = .ok () converged) :
    converged.Coherent ∧ build.scopes.automaton.states ⊆ converged.scopes.automaton.states ∧
      start ∈ converged.scopes.automaton.states ∧ converged.scopes.current.choices ≠ [] := by
  obtain ⟨piece, hgrows⟩ := hruns.grows_of_activities hstarted.1.level
  have hopened : ended.scopes.current.choices ≠ [] := by
    rw [hgrows.choices_eq, hchoices]
    exact hplaced.2
  obtain ⟨hconverged, hsubset, hopened'⟩ := hended.1.converge hopened hconverge
  have hsubset' := List.Subset.trans hstarted.2 (List.Subset.trans hended.2 hsubset)
  exact ⟨hconverged, hsubset', hsubset' hplaced.1, hopened'⟩

end Build.Coherent

theorem Runs.coherent {mode : LoopMode} {work : Work} {build build' : Build}
    (h : Runs mode work build build') (hcoherent : build.Coherent) (hplaced : work.Placed build) :
    build'.Coherent ∧ build.scopes.automaton.states ⊆ build'.scopes.automaton.states := by
  -- No state is ever taken away, so what a part goes back to is still there after the parts before.
  induction h with
  | nil => exact ⟨hcoherent, List.Subset.refl _⟩
  | cons _ _ ih₁ ih₂ =>
      obtain ⟨hcoherent₁, hsubset₁⟩ := ih₁ hcoherent trivial
      obtain ⟨hcoherent₂, hsubset₂⟩ := ih₂ hcoherent₁ trivial
      exact ⟨hcoherent₂, List.Subset.trans hsubset₁ hsubset₂⟩
  | interaction hrun => exact hcoherent.interaction hrun
  | choice _ _ hopen _ hclose ih =>
      obtain ⟨hopened, hautomaton, hstart, hchoices⟩ := hcoherent.openChoice hopen
      obtain ⟨hclosing, hsubset⟩ := ih hopened ⟨hstart, hchoices⟩
      obtain ⟨hfinal, hsubset'⟩ := hclosing.closeChoice (hsubset hstart) hclose
      exact ⟨hfinal, hautomaton ▸ List.Subset.trans hsubset hsubset'⟩
  | @directedChoice sender receivers branches start build named₁ named₂ _ _ _ _ _ hsender hreceivers
      hopen _ hclose ih =>
      rw [Compiler.addRoles_eq] at hreceivers
      cases hsender
      cases hreceivers
      obtain ⟨hnamed, hstates⟩ := hcoherent.addRoles (sender :: receivers)
      obtain ⟨hopened, hautomaton, hstart, hchoices⟩ := hnamed.openChoice hopen
      obtain ⟨hclosing, hsubset⟩ := ih hopened ⟨hstart, hchoices⟩
      obtain ⟨hfinal, hsubset'⟩ := hclosing.closeChoice (hsubset hstart) hclose
      refine ⟨hfinal, ?_⟩
      rw [← hstates]
      exact hautomaton ▸ List.Subset.trans hsubset hsubset'
  | parallel _ _ hopen _ hclose ih =>
      obtain ⟨hopened, hsubset₁, hanchor, hjoin⟩ := hcoherent.openParallel hopen
      obtain ⟨hclosing, hsubset₂⟩ := ih hopened hanchor
      obtain ⟨hfinal, hsubset₃⟩ :=
        hclosing.closeParallel (hsubset₂ hanchor) (hsubset₂ hjoin) hclose
      exact ⟨hfinal, List.Subset.trans hsubset₁ (List.Subset.trans hsubset₂ hsubset₃)⟩
  | @loop body head build opened closing final _ hopen _ hclose ih =>
      obtain ⟨hopened, hsubset, hhead⟩ := hcoherent.openLoop hopen
      obtain ⟨hclosing, hsubset'⟩ := ih hopened trivial
      obtain ⟨hfinal, hsubset''⟩ := hclosing.closeLoop (fun hmode => hsubset' (hhead hmode)) hclose
      exact ⟨hfinal, List.Subset.trans hsubset (List.Subset.trans hsubset' hsubset'')⟩
  | recursion _ hopen hbody hclose ih =>
      obtain ⟨piece, hgrows⟩ := hbody.grows_of_activities (hcoherent.level.openRecursion hopen)
      exact hcoherent.recursion hopen (fun hopened => ih hopened trivial) hgrows hclose
  | call hrun => exact hcoherent.call hrun
  | @escape body handler role _ _ _ _ _ _ _ _ _ hrole _ harm _ hdisarm ih₁ ih₂ =>
      cases hrole
      obtain ⟨hnamed, hstates⟩ := hcoherent.addRoles [role]
      obtain ⟨hanchored, hsubset₁⟩ := ih₁ hnamed trivial
      obtain ⟨harmed, hsubset₂⟩ := hanchored.armInterrupt harm
      obtain ⟨hhandled, hsubset₃⟩ := ih₂ harmed trivial
      obtain ⟨hfinal, hsubset₄⟩ := hhandled.disarmInterrupt hdisarm
      refine ⟨hfinal, ?_⟩
      rw [← hstates]
      exact List.Subset.trans hsubset₁ (List.Subset.trans hsubset₂
        (List.Subset.trans hsubset₃ hsubset₄))
  | @finish build =>
      exact hcoherent.markFinal (build.grows_refl.markFinal _)
        (congrArg ScopeStack.automaton (Build.scopes_markFinal _ _))
  | choiceBranchesNil => exact ⟨hcoherent, List.Subset.refl _⟩
  | @choiceBranchesCons start index branch others build entered ended converged final henter hbranch
      hconverge _ ih₁ ih₂ =>
      have hentered := hcoherent.enterChoiceBranch hplaced.1 henter
      obtain ⟨hconverged, hsubset, hnext⟩ := Build.Coherent.joinBranch hplaced hentered
        (build.grows_refl.enterChoiceBranch henter).choices_eq hbranch (ih₁ hentered.1 trivial)
        hconverge
      obtain ⟨hfinal, hsubset'⟩ := ih₂ hconverged hnext
      exact ⟨hfinal, List.Subset.trans hsubset hsubset'⟩
  | directedBranchesNil => exact ⟨hcoherent, List.Subset.refl _⟩
  | @directedBranchesCons start index exchange body others build entered selected registered ended
      converged final henter hselect hregister hbody hconverge _ ih₁ ih₂ =>
      have hgrows := ((build.grows_refl.enterChoiceBranch henter).interaction []
        hselect).registerDispatch hregister
      have hregistered := hcoherent.selectBranch hplaced.1 henter hselect hregister
      obtain ⟨hconverged, hsubset, hnext⟩ := Build.Coherent.joinBranch hplaced hregistered
        hgrows.choices_eq hbody (ih₁ hregistered.1 trivial) hconverge
      obtain ⟨hfinal, hsubset'⟩ := ih₂ hconverged hnext
      exact ⟨hfinal, List.Subset.trans hsubset hsubset'⟩
  | parallelBranchesNil => exact ⟨hcoherent, List.Subset.refl _⟩
  | @parallelBranchesCons anchor index branch others build entered ended left final henter hbranch
      hleave _ ih₁ ih₂ =>
      obtain ⟨hentered, hleft⟩ := hcoherent.parallelBranch hplaced henter hleave
      obtain ⟨hended, -⟩ := ih₁ hentered trivial
      obtain ⟨piece, hgrows⟩ := hbranch.grows_of_activities hentered.level
      obtain ⟨hleft, hstates⟩ := hleft hended hgrows
      have hanchor : anchor ∈ left.scopes.automaton.states := by
        rw [hstates]
        exact hplaced
      obtain ⟨hfinal, hsubset⟩ := ih₂ hleft hanchor
      exact ⟨hfinal, hstates ▸ hsubset⟩

theorem Build.Registers.anchors_final {mode : LoopMode} {build build' : Build}
    {escapes : List Escape} {selections : List Selection} {branches : List (List Activity)}
    (h : build.Registers mode escapes selections branches build')
    (hnone : build.scopes.automaton.interrupts = []) :
    ∀ interrupt ∈ build'.scopes.automaton.interrupts,
      interrupt.anchor ∈ build'.scopes.automaton.finals := by
  obtain ⟨interrupts, heq, hserves⟩ := h.interrupts
  rw [heq, hnone, List.nil_append]
  intro interrupt hinterrupt
  obtain ⟨escape, hserve⟩ := exists_of_forall₂ hserves hinterrupt
  rw [hserve.anchor_eq]
  exact hserve.mem_finals

theorem Runs.label_ne {mode : LoopMode} {list : List Activity} {build build' : Build}
    (h : Runs mode (.activities list) build build') (hlevel : build.Level)
    (hnone : build.scopes.automaton.transitions = []) :
    ∀ transition ∈ build'.scopes.automaton.transitions, transition.label ≠ .parallelEnd := by
  obtain ⟨piece, next, target, hlays, hgrows⟩ := h.laysOut _ [] [] hlevel.suits
  rw [hgrows.automaton_grows.transitions_eq, hnone, List.nil_append]
  exact hlays.label_ne

theorem Builds.coherent {mode : LoopMode} {activities : List Activity} {automaton : Automaton}
    (h : Builds mode activities automaton) : ∃ next, automaton.Coherent next := by
  obtain ⟨build, ended, hfresh, hruns, rfl⟩ := h
  obtain ⟨hended, -⟩ := hruns.coherent (.of_fresh hfresh) trivial
  exact ⟨_, hended.automaton.complete hended.cursor_mem⟩

/-- The automaton of a parallel branch is well formed and ends in one way. -/
theorem Builds.wellFormed {mode : LoopMode} {activities : List Activity} {automaton : Automaton}
    (h : Builds mode activities automaton) : automaton.WellFormed ∧ automaton.EndsOnce := by
  obtain ⟨build, ended, hfresh, hruns, rfl⟩ := h
  obtain ⟨hended, -⟩ := hruns.coherent (.of_fresh hfresh) trivial
  obtain ⟨-, hregisters⟩ := hruns.registers (.of_idle hfresh.level hfresh.pending_eq trivial)
  obtain ⟨roles, hautomaton⟩ := hfresh.automaton_eq
  have hanchors := hregisters.anchors_final (by rw [hautomaton]; rfl)
  have hlabels := hruns.label_ne hfresh.level (by rw [hautomaton]; rfl)
  constructor
  · refine (hended.automaton.complete hended.cursor_mem).wellFormed ?_
    intro interrupt hinterrupt
    exact StateSet.mem_insert.mpr (.inr (hanchors interrupt hinterrupt))
  · refine ⟨_, _, _, rfl, hlabels, List.getLast?_concat, StateSet.mem_insert.mpr (.inl rfl), ?_⟩
    intro transition htransition
    rcases List.mem_append.mp htransition with htransition | htransition
    · exact ne_of_lt (hended.automaton.states_lt
        (hended.automaton.transitions_own transition htransition).1)
    · obtain rfl := List.mem_singleton.mp htransition
      exact ne_of_lt (hended.automaton.states_lt hended.cursor_mem)

theorem Protocol.coherent_of_compile {protocol : Protocol} {options : CompileOptions}
    {automaton : Automaton} (h : protocol.compile options = .ok automaton) :
    ∃ next, automaton.Coherent next ∧ automaton.WellFormed ∧
      ∀ transition ∈ automaton.transitions, transition.label ≠ .parallelEnd := by
  obtain ⟨ended, hruns, -, hautomaton⟩ := exists_run_of_compile h
  have hfresh := protocol.fresh_opening
  obtain ⟨hended, -⟩ := hruns.coherent (.of_fresh hfresh) trivial
  obtain ⟨-, hregisters⟩ := hruns.registers (protocol.ready_opening _)
  obtain ⟨roles, hopening⟩ := hfresh.automaton_eq
  have hanchors := hregisters.anchors_final (by rw [hopening]; rfl)
  have hlabels := hruns.label_ne hfresh.level (by rw [hopening]; rfl)
  have hcoherent : automaton.Coherent ended.arena.next := by
    rw [hautomaton]
    exact (hended.automaton.markFinal hended.cursor_mem).congr rfl rfl rfl rfl rfl rfl
  refine ⟨ended.arena.next, hcoherent, hcoherent.wellFormed ?_, ?_⟩
  · rw [hautomaton]
    intro interrupt hinterrupt
    exact StateSet.mem_insert.mpr (.inr (hanchors interrupt hinterrupt))
  · rw [hautomaton]
    exact hlabels

theorem Protocol.nodup_allStates_of_compile {protocol : Protocol} {options : CompileOptions}
    {automaton : Automaton} (h : protocol.compile options = .ok automaton) :
    automaton.allStates.Nodup := by
  obtain ⟨next, hcoherent, -⟩ := coherent_of_compile h
  obtain ⟨count, -, hperm⟩ := hcoherent.allocated
  exact hperm.nodup_iff.mpr (List.nodup_range' ..)

theorem Protocol.coherent_of_mem_family {protocol : Protocol} {options : CompileOptions}
    {automaton : Automaton} (h : protocol.compile options = .ok automaton) :
    ∀ member ∈ automaton.family, ∃ next, member.Coherent next := by
  obtain ⟨next, hcoherent, -⟩ := coherent_of_compile h
  have hinner : ∀ member ∈ automaton.branches.flatMap Automaton.family,
      ∃ next, member.Coherent next :=
    (eachBranch_builds h).forall_family fun hbuilds => hbuilds.coherent
  rw [Automaton.family_eq]
  exact List.forall_mem_cons.mpr ⟨⟨next, hcoherent⟩, hinner⟩

/-- Every compiled automaton and all automata nested in it are well formed. Together they have
exactly the states that were handed out, and each state belongs to one of them; only the automata
of parallel branches have a completion, and each of them has one. -/
theorem Protocol.family_wellFormed {protocol : Protocol} {options : CompileOptions}
    {automaton : Automaton} (h : protocol.compile options = .ok automaton) :
    automaton.allStates.Perm (List.range automaton.totalStateCount) ∧
      automaton.family.Pairwise (fun first second => first.states.Disjoint second.states) ∧
      (∀ member ∈ automaton.family, member.WellFormed) ∧
      (∀ transition ∈ automaton.transitions, transition.label ≠ .parallelEnd) ∧
      ∀ member ∈ automaton.family.tail, member.EndsOnce := by
  have hnested : ∀ member ∈ automaton.branches.flatMap Automaton.family,
      member.WellFormed ∧ member.EndsOnce :=
    (eachBranch_builds h).forall_family fun hbuilds => hbuilds.wellFormed
  obtain ⟨next, hcoherent, hwellFormed, hlabels⟩ := coherent_of_compile h
  obtain ⟨-, -, hinitial, -⟩ := exists_run_of_compile h
  have hperm : automaton.allStates.Perm (List.range automaton.totalStateCount) := by
    obtain ⟨count, -, hperm⟩ := hcoherent.allocated
    have hcount : automaton.totalStateCount = count := by
      rw [← Automaton.length_allStates, hperm.length_eq, List.length_range']
    rw [hinitial] at hperm
    rwa [hcount, List.range_eq_range']
  have hnodup : automaton.allStates.Nodup := hperm.nodup_iff.mpr List.nodup_range
  refine ⟨hperm, (List.nodup_flatMap.mp hnodup).2, ?_, hlabels, ?_⟩
  · rw [Automaton.family_eq]
    intro member hmember
    rcases List.mem_cons.mp hmember with rfl | hmember
    · exact hwellFormed
    · exact (hnested member hmember).1
  · rw [Automaton.family_eq]
    exact fun member hmember => (hnested member hmember).2

/-- A protocol in which every kind of activity occurs, some of them in a parallel branch. -/
def auction : Protocol :=
  .bare "Auction"
    [.parallel
      [[.escape [.loop [.interaction (.bare .receive (some "bid") ⟨"Buyer"⟩)]] ⟨"Seller"⟩
          [.interaction (.bare .receive (some "stop") ⟨"Seller"⟩)]],
        [.recursion "wait"
          [.choice
            [[.interaction (.bare .receive (some "tick") ⟨"Clock"⟩), .call "wait"], [.finish]]]]],
      .directedChoice ⟨"Seller"⟩ [⟨"Buyer"⟩]
        [.mk (.bare .receive (some "sold") ⟨"Seller"⟩) [],
          .mk (.bare .receive (some "withdrawn") ⟨"Seller"⟩)
            [.interaction (.bare .send (some "noted") ⟨"Buyer"⟩)]]]

theorem auction_wellFormed : ∃ automaton, auction.compile ⟨.loop⟩ = .ok automaton ∧
    automaton.allStates.Perm (List.range automaton.totalStateCount) ∧
      automaton.family.Pairwise (fun first second => first.states.Disjoint second.states) ∧
      (∀ member ∈ automaton.family, member.WellFormed) ∧
      (∀ transition ∈ automaton.transitions, transition.label ≠ .parallelEnd) ∧
      ∀ member ∈ automaton.family.tail, member.EndsOnce := by
  have hok : (auction.compile ⟨.loop⟩).isOk = true := by decide +kernel
  obtain ⟨automaton, hcompile⟩ := Protocol.exists_eq_ok hok
  exact ⟨automaton, hcompile, Protocol.family_wellFormed hcompile⟩

end Conversation

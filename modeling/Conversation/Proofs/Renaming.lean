import Mathlib.Order.Monotone.Basic
import Conversation.Proofs.ContributionsOfRuns

namespace Conversation

section Ordered

variable {f : State → State} (hf : StrictMono f)

include hf

theorem StateSet.insert_map (state : State) (set : StateSet) :
    StateSet.insert (f state) (set.map f) = (StateSet.insert state set).map f := by
  induction set with
  | nil => rfl
  | cons other rest ih =>
      simp only [List.map_cons, StateSet.insert, hf.lt_iff_lt, hf.injective.eq_iff, ih]
      split_ifs <;> rfl

namespace Table

variable {α β : Type} (g : α → β)

theorem insert_map (state : State) (value : α) (table : Table α) :
    insert (f state) (g value) (table.map (Prod.map f g)) =
      (insert state value table).map (Prod.map f g) := by
  induction table with
  | nil => rfl
  | cons entry rest ih =>
      obtain ⟨key, old⟩ := entry
      simp only [List.map_cons, Prod.map_apply, insert, hf.lt_iff_lt, hf.injective.eq_iff, ih]
      split_ifs <;> rfl

theorem listAt_map (state : State) (table : Table (List α)) :
    listAt (f state) (table.map (Prod.map f (List.map g))) = (listAt state table).map g := by
  induction table with
  | nil => rfl
  | cons entry rest ih =>
      obtain ⟨key, list⟩ := entry
      simp only [listAt] at ih
      simp only [List.map_cons, Prod.map_apply, listAt, find?, hf.injective.eq_iff]
      split_ifs
      · rfl
      · exact ih

theorem append_map (state : State) (value : α) (table : Table (List α)) :
    append (f state) (g value) (table.map (Prod.map f (List.map g))) =
      (append state value table).map (Prod.map f (List.map g)) := by
  rw [append, append, listAt_map hf g, ← insert_map hf (List.map g), List.map_append]
  rfl

theorem extend_map (table : Table (List α)) (entries : List (State × α)) :
    extend (table.map (Prod.map f (List.map g))) (entries.map (Prod.map f g)) =
      (extend table entries).map (Prod.map f (List.map g)) := by
  induction entries generalizing table with
  | nil => rfl
  | cons entry rest ih =>
      rw [List.map_cons, extend, List.foldl_cons, Prod.map_fst, Prod.map_snd, append_map hf g]
      exact ih _

end Table

end Ordered

def Transition.rename (f : State → State) (transition : Transition) : Transition :=
  { transition with source := f transition.source, target := f transition.target }

@[simp] theorem Transition.rename_silent (f : State → State) (source target : State) :
    (Transition.silent source target).rename f = .silent (f source) (f target) := rfl

def Interrupt.rename (f : State → State) (interrupt : Interrupt) : Interrupt :=
  ⟨f interrupt.anchor, interrupt.transition.rename f⟩

def DispatchEntry.rename (f : State → State) (entry : DispatchEntry) : DispatchEntry :=
  { entry with target := f entry.target }

mutual

/-- An automaton with its states renamed, at every depth. -/
def Automaton.rename (f : State → State) : Automaton → Automaton
  | { name, checksum, initial, states, transitions, finals, roles, nested, interrupts, dispatch,
      anchors } =>
    { name := name
      checksum := checksum
      initial := f initial
      states := states.map f
      transitions := transitions.map (Transition.rename f)
      finals := finals.map f
      roles := roles
      nested := renameRegions f nested
      interrupts := interrupts.map (Interrupt.rename f)
      dispatch := dispatch.map (Prod.map f (List.map (DispatchEntry.rename f)))
      anchors := anchors.map (Prod.map f f) }

def renameRegions (f : State → State) :
    List (State × List Automaton) → List (State × List Automaton)
  | [] => []
  | (anchor, branches) :: rest => (f anchor, renameBranches f branches) :: renameRegions f rest

def renameBranches (f : State → State) : List Automaton → List Automaton
  | [] => []
  | branch :: rest => branch.rename f :: renameBranches f rest

end

theorem renameBranches_eq_map (f : State → State) (branches : List Automaton) :
    renameBranches f branches = branches.map (Automaton.rename f) := by
  induction branches with
  | nil => rfl
  | cons branch rest ih => rw [renameBranches, List.map_cons, ih]

theorem renameRegions_eq_map (f : State → State) (regions : List (State × List Automaton)) :
    renameRegions f regions = regions.map (Prod.map f (List.map (Automaton.rename f))) := by
  induction regions with
  | nil => rfl
  | cons region rest ih =>
      obtain ⟨anchor, branches⟩ := region
      rw [renameRegions, renameBranches_eq_map, ih]
      rfl

namespace Contribution

def rename (f : State → State) (contribution : Contribution) : Contribution where
  states := contribution.states.map f
  transitions := contribution.transitions.map (Transition.rename f)
  finals := contribution.finals.map f
  roles := contribution.roles
  branches := contribution.branches.map (Prod.map f (Automaton.rename f))
  interrupts := contribution.interrupts.map (Interrupt.rename f)
  dispatch := contribution.dispatch.map (Prod.map f (DispatchEntry.rename f))

section Rename

variable (f : State → State)

@[simp] theorem rename_append (first second : Contribution) :
    (first ++ second).rename f = first.rename f ++ second.rename f := by
  change rename f (append first second) = append (rename f first) (rename f second)
  simp [rename, append]

@[simp] theorem rename_empty : empty.rename f = empty := rfl

@[simp] theorem rename_place (state : State) : (place state).rename f = place (f state) := rfl

@[simp] theorem rename_edge (transition : Transition) :
    (edge transition).rename f = edge (transition.rename f) := rfl

@[simp] theorem rename_mark (state : State) : (mark state).rename f = mark (f state) := rfl

@[simp] theorem rename_name (roles : List Role) : (name roles).rename f = name roles := rfl

@[simp] theorem rename_branch (anchor : State) (automaton : Automaton) :
    (branch anchor automaton).rename f = branch (f anchor) (automaton.rename f) := rfl

@[simp] theorem rename_interrupt (due : Option State) (transition : Transition) :
    (interrupt due transition).rename f = interrupt (due.map f) (transition.rename f) := by
  cases due <;> rfl

@[simp] theorem rename_select (state : State) (entry : DispatchEntry) :
    (select state entry).rename f = select (f state) (entry.rename f) := rfl

end Rename

end Contribution

section Positions

variable {f : State → State} {position position' : Position}

theorem Interaction.rename_contribution (exchange : Interaction) (due : Option State)
    (hcursor : f position.cursor = position'.cursor) (hnext : f position.next = position'.next) :
    exchange.contribution (due.map f) position' =
      (exchange.contribution due position).rename f := by
  simp [Interaction.contribution, Transition.rename, Interaction.transition, hcursor, hnext]

theorem Position.rename_joining {exit : Option State}
    (hcursor : f position.cursor = position'.cursor)
    (hexit : f (position.exit exit) = position'.exit (exit.map f)) :
    position'.joining (exit.map f) = (position.joining exit).rename f := by
  rw [joining, joining, Contribution.rename_append, Contribution.rename_edge,
    Transition.rename_silent, hcursor, hexit]
  cases exit with
  | none => exact congrArg (Contribution.place · ++ _) hexit.symm
  | some state => rfl

end Positions

namespace Automaton

theorem rename_single (f : State → State) (initial : State) :
    (single initial).rename f = single (f initial) := rfl

theorem foldl_insert_map {f : State → State} (hf : StrictMono f) (finals : List State)
    (set : StateSet) :
    (finals.map f).foldl (fun set state => StateSet.insert state set) (set.map f) =
      (finals.foldl (fun set state => StateSet.insert state set) set).map f := by
  induction finals generalizing set with
  | nil => rfl
  | cons state rest ih =>
      rw [List.map_cons, List.foldl_cons, List.foldl_cons, StateSet.insert_map hf, ih]

theorem rename_extend {f : State → State} (hf : StrictMono f) (automaton : Automaton)
    (contribution : Contribution) :
    (automaton.extend contribution).rename f =
      (automaton.rename f).extend (contribution.rename f) := by
  cases automaton
  simp only [extend, rename, Contribution.rename, renameRegions_eq_map, List.map_append,
    foldl_insert_map hf, Table.extend_map hf]

theorem rename_complete {f : State → State} (hf : StrictMono f) (automaton : Automaton)
    (last done : State) :
    (automaton.complete last done).rename f = (automaton.rename f).complete (f last) (f done) := by
  cases automaton
  simp only [complete, addState, addTransition, markFinal, rename, List.map_append, List.map_cons,
    List.map_nil, StateSet.insert_map hf]
  rfl

end Automaton

end Conversation

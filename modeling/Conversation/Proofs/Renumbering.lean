import Mathlib.Logic.Equiv.Basic
import Conversation.Automaton.Shape
import Conversation.Proofs.Families
import Conversation.Proofs.Renaming
import Conversation.Proofs.TableKeys

/-!
Shapes under a renumbering of the states. A shape gives states by their positions and by their
number, but it lists the regions in the order of their anchors. So it does depend on the numbers of
the states: an injective renaming that does not keep the order of the anchors reorders the regions,
at every depth, and that is all it does.
-/

namespace Conversation

theorem StateSet.ofList_perm {states : List State} (h : states.Nodup) :
    (ofList states).Perm states :=
  (List.perm_ext_iff_of_nodup ((pairwise_ofList states).imp ne_of_lt) h).mpr fun _ => mem_ofList

namespace Shape

/-- The shapes differ in the order in which regions are listed, at any depth, and in nothing
else. -/
inductive Reordered : Shape → Shape → Prop
  | refl (shape : Shape) : Reordered shape shape
  | trans {shape shape' shape'' : Shape} :
      Reordered shape shape' → Reordered shape' shape'' → Reordered shape shape''
  /-- Two regions that stand next to each other change places. -/
  | swap (states transitions silent finals interrupts : Nat)
      (before after : List (Option Nat × List Shape)) (first second : Option Nat × List Shape) :
      Reordered
        (.mk states transitions silent finals interrupts (before ++ first :: second :: after))
        (.mk states transitions silent finals interrupts (before ++ second :: first :: after))
  /-- The regions of one branch of a region are reordered. -/
  | inside (states transitions silent finals interrupts : Nat)
      (before after : List (Option Nat × List Shape)) (position : Option Nat)
      (earlier later : List Shape) {branch branch' : Shape} : Reordered branch branch' →
      Reordered
        (.mk states transitions silent finals interrupts
          (before ++ (position, earlier ++ branch :: later) :: after))
        (.mk states transitions silent finals interrupts
          (before ++ (position, earlier ++ branch' :: later) :: after))

namespace Reordered

variable {states transitions silent finals interrupts : Nat}
  {regions regions' : List (Option Nat × List Shape)}

theorem of_perm (h : regions.Perm regions') (before : List (Option Nat × List Shape)) :
    Reordered (.mk states transitions silent finals interrupts (before ++ regions))
      (.mk states transitions silent finals interrupts (before ++ regions')) := by
  induction h generalizing before with
  | nil => exact .refl _
  | cons region _ ih =>
      have hrest := ih (before ++ [region])
      rwa [List.append_assoc, List.append_assoc] at hrest
  | swap first second after => exact .swap _ _ _ _ _ before after second first
  | trans _ _ ih₁ ih₂ => exact (ih₁ before).trans (ih₂ before)

theorem of_branches {branches branches' : List Shape} (position : Option Nat)
    (h : List.Forall₂ Reordered branches branches')
    (before after : List (Option Nat × List Shape)) (earlier : List Shape) :
    Reordered
      (.mk states transitions silent finals interrupts
        (before ++ (position, earlier ++ branches) :: after))
      (.mk states transitions silent finals interrupts
        (before ++ (position, earlier ++ branches') :: after)) := by
  induction h generalizing earlier with
  | nil => exact .refl _
  | @cons branch branch' rest rest' hbranch _ ih =>
      have hrest := ih (earlier ++ [branch'])
      rw [List.append_assoc, List.append_assoc] at hrest
      exact (Reordered.inside _ _ _ _ _ before after position earlier rest hbranch).trans hrest

theorem of_regions
    (h : List.Forall₂ (fun region region' => region.1 = region'.1 ∧
      List.Forall₂ Reordered region.2 region'.2) regions regions')
    (before : List (Option Nat × List Shape)) :
    Reordered (.mk states transitions silent finals interrupts (before ++ regions))
      (.mk states transitions silent finals interrupts (before ++ regions')) := by
  induction h generalizing before with
  | nil => exact .refl _
  | @cons region region' rest rest' hregion _ ih =>
      obtain ⟨position, branches⟩ := region
      obtain ⟨position', branches'⟩ := region'
      obtain ⟨rfl, hbranches⟩ := hregion
      have hrest := ih (before ++ [(position, branches')])
      rw [List.append_assoc, List.append_assoc] at hrest
      exact (of_branches position hbranches before rest []).trans hrest

end Reordered

end Shape

mutual

/-- The automaton with its set and its tables listed in their order, at every depth. -/
def Automaton.relisted : Automaton → Automaton
  | automaton@{ finals, nested, dispatch, anchors, .. } =>
    { automaton with
      finals := StateSet.ofList finals
      nested := Table.insertAll [] (relistedRegions nested)
      dispatch := Table.insertAll [] dispatch
      anchors := Table.insertAll [] anchors }

def relistedRegions : List (State × List Automaton) → List (State × List Automaton)
  | [] => []
  | (anchor, branches) :: rest => (anchor, relistedBranches branches) :: relistedRegions rest

def relistedBranches : List Automaton → List Automaton
  | [] => []
  | branch :: rest => branch.relisted :: relistedBranches rest

end

theorem relistedBranches_eq_map (branches : List Automaton) :
    relistedBranches branches = branches.map Automaton.relisted := by
  induction branches with
  | nil => rfl
  | cons branch rest ih => rw [relistedBranches, List.map_cons, ih]

theorem relistedRegions_eq_map (regions : List (State × List Automaton)) :
    relistedRegions regions = regions.map (Prod.map id (List.map Automaton.relisted)) := by
  induction regions with
  | nil => rfl
  | cons region rest ih =>
      obtain ⟨anchor, branches⟩ := region
      rw [relistedRegions, relistedBranches_eq_map, ih]
      rfl

namespace Automaton

/-- The automaton with its states renamed, which are listed in their new order where the order is
that of the states. -/
def renumbered (f : State → State) (automaton : Automaton) : Automaton :=
  (automaton.rename f).relisted

/-- The set and the tables of the automaton itself list theirs in ascending order. -/
@[mk_iff]
structure Listed (automaton : Automaton) : Prop where
  finals : automaton.finals.Pairwise (· < ·)
  nested : (automaton.nested.map Prod.fst).Pairwise (· < ·)
  dispatch : (automaton.dispatch.map Prod.fst).Pairwise (· < ·)
  anchors : (automaton.anchors.map Prod.fst).Pairwise (· < ·)

/-- The regions of the automaton itself hang off states of it. -/
def Anchored (automaton : Automaton) : Prop :=
  ∀ region ∈ automaton.nested, region.1 ∈ automaton.states

/-- The renaming keeps the order of the states that the regions of the automaton itself hang off. -/
def KeepsOrder (f : State → State) (automaton : Automaton) : Prop :=
  (automaton.nested.map fun region => f region.1).Pairwise (· < ·)

instance (automaton : Automaton) : Decidable automaton.Listed :=
  decidable_of_iff _ (listed_iff automaton).symm

instance (automaton : Automaton) : Decidable automaton.Anchored :=
  inferInstanceAs (Decidable (∀ region ∈ automaton.nested, region.1 ∈ automaton.states))

instance (f : State → State) (automaton : Automaton) : Decidable (automaton.KeepsOrder f) :=
  inferInstanceAs (Decidable (List.Pairwise _ _))

section Fields

variable (f : State → State) (automaton : Automaton)

@[simp] theorem states_renumbered :
    (automaton.renumbered f).states = automaton.states.map f := by
  cases automaton
  rfl

@[simp] theorem transitions_renumbered :
    (automaton.renumbered f).transitions = automaton.transitions.map (Transition.rename f) := by
  cases automaton
  rfl

@[simp] theorem finals_renumbered :
    (automaton.renumbered f).finals = StateSet.ofList (automaton.finals.map f) := by
  cases automaton
  rfl

@[simp] theorem interrupts_renumbered :
    (automaton.renumbered f).interrupts = automaton.interrupts.map (Interrupt.rename f) := by
  cases automaton
  rfl

@[simp] theorem nested_renumbered :
    (automaton.renumbered f).nested =
      Table.insertAll [] (automaton.nested.map (Prod.map f (List.map (renumbered f)))) := by
  cases automaton
  simp only [renumbered, rename, relisted, renameRegions_eq_map, relistedRegions_eq_map,
    List.map_map, Prod.map_comp_map, Function.id_comp, List.map_comp_map]
  rfl

@[simp] theorem silentCount_renumbered :
    (automaton.renumbered f).silentCount = automaton.silentCount := by
  rw [silentCount, silentCount, transitions_renumbered, List.filter_map, List.length_map]
  rfl

end Fields

theorem shapeOfBranches_eq_map (branches : List Automaton) :
    shapeOfBranches branches = branches.map shape := by
  induction branches with
  | nil => rfl
  | cons branch rest ih => rw [shapeOfBranches, List.map_cons, ih]

theorem shapeOfRegions_eq_map (states : List State) (regions : List (State × List Automaton)) :
    shapeOfRegions states regions =
      regions.map (Prod.map (positionOf states) (List.map shape)) := by
  induction regions with
  | nil => rfl
  | cons region rest ih =>
      obtain ⟨anchor, branches⟩ := region
      rw [shapeOfRegions, shapeOfBranches_eq_map, ih]
      rfl

theorem shape_eq (automaton : Automaton) :
    automaton.shape =
      .mk automaton.states.length automaton.transitions.length automaton.silentCount
        automaton.finals.length automaton.interrupts.length
        (automaton.nested.map (Prod.map (positionOf automaton.states) (List.map shape))) := by
  cases automaton
  rw [shape, shapeOfRegions_eq_map]

theorem positionOf_map {f : State → State} (hf : Function.Injective f) (states : List State)
    (state : State) : positionOf (states.map f) (f state) = positionOf states state := by
  rw [positionOf, List.findIdx?_map, positionOf]
  simp only [Function.comp_def, hf.eq_iff]

theorem getElem?_positionOf {states : List State} {state : State} (h : state ∈ states) :
    (positionOf states state).bind (fun position => states[position]?) = some state := by
  cases hposition : positionOf states state with
  | none =>
      have habsent := List.findIdx?_eq_none_iff.mp hposition state h
      simp at habsent
  | some position =>
      obtain ⟨hlt, hstate, -⟩ := List.findIdx?_eq_some_iff_getElem.mp hposition
      rw [Option.bind_some, List.getElem?_eq_getElem hlt, of_decide_eq_true hstate]

/-- States of a list are the same if their positions in it are. -/
theorem eq_of_map_positionOf_eq {states list list' : List State} (hlist : list ⊆ states)
    (hlist' : list' ⊆ states)
    (h : list.map (positionOf states) = list'.map (positionOf states)) : list = list' := by
  have hfound : ∀ list ⊆ states, (list.map (positionOf states)).map
      (fun found => found.bind fun position => states[position]?) = list.map some := by
    intro list hlist
    rw [List.map_map]
    exact List.map_congr_left fun state hstate => getElem?_positionOf (hlist hstate)
  have hsome : list.map some = list'.map some := by
    rw [← hfound list hlist, h, hfound list' hlist']
  exact (List.map_injective_iff.mpr (Option.some_injective State)) hsome

section Regions

variable {f : State → State} (hf : Function.Injective f)

include hf

theorem nested_renumbered_perm {automaton : Automaton} (h : automaton.Listed) :
    (automaton.renumbered f).nested.Perm
      (automaton.nested.map (Prod.map f (List.map (renumbered f)))) := by
  rw [nested_renumbered]
  refine (Table.insertAll_perm ?_).trans (by simp)
  rw [List.nil_append, List.map_map, Prod.map_fst', ← List.map_map]
  exact List.Nodup.map hf (h.nested.imp ne_of_lt)

theorem map_shape_renumbered (states : List State) (regions : List (State × List Automaton)) :
    (regions.map (Prod.map f (List.map (renumbered f)))).map
        (Prod.map (positionOf (states.map f)) (List.map shape)) =
      regions.map (Prod.map (positionOf states) (List.map fun branch =>
        (branch.renumbered f).shape)) := by
  rw [List.map_map]
  refine List.map_congr_left ?_
  rintro ⟨anchor, branches⟩ _
  simp [positionOf_map hf, Function.comp_def]

theorem shape_renumbered_eq {automaton : Automaton} (h : automaton.Listed) :
    (automaton.renumbered f).shape =
      .mk automaton.states.length automaton.transitions.length automaton.silentCount
        automaton.finals.length automaton.interrupts.length
        ((automaton.renumbered f).nested.map
          (Prod.map (positionOf (automaton.states.map f)) (List.map shape))) := by
  have hfinals : (automaton.finals.map f).Nodup :=
    List.Nodup.map hf (h.finals.imp ne_of_lt)
  rw [shape_eq, states_renumbered, transitions_renumbered, silentCount_renumbered,
    finals_renumbered, interrupts_renumbered, List.length_map, List.length_map, List.length_map,
    (StateSet.ofList_perm hfinals).length_eq, List.length_map]

theorem reordered_renumbered (automaton : Automaton)
    (h : ∀ member ∈ automaton.family, member.Listed) :
    automaton.shape.Reordered (automaton.renumbered f).shape := by
  have hlisted := h automaton automaton.self_mem_family
  rw [shape_renumbered_eq hf hlisted, shape_eq]
  -- The branches are reordered where they are, and the regions change places after that.
  have hinside : List.Forall₂ (fun region region' => region.1 = region'.1 ∧
      List.Forall₂ Shape.Reordered region.2 region'.2)
      (automaton.nested.map (Prod.map (positionOf automaton.states) (List.map shape)))
      (automaton.nested.map (Prod.map (positionOf automaton.states) (List.map fun branch =>
        (branch.renumbered f).shape))) := by
    rw [List.forall₂_map_left_iff, List.forall₂_map_right_iff, List.forall₂_same]
    intro region hregion
    refine ⟨rfl, ?_⟩
    rw [Prod.map_snd, Prod.map_snd, List.forall₂_map_left_iff, List.forall₂_map_right_iff,
      List.forall₂_same]
    intro branch hbranch
    have hmem : branch ∈ automaton.branches := List.mem_flatMap.mpr ⟨region, hregion, hbranch⟩
    have := sizeOf_lt_of_mem_branches hmem
    exact reordered_renumbered branch fun member hmember =>
      h member (branch_family_subset hmem hmember)
  have hmoved := ((nested_renumbered_perm hf hlisted).map
    (Prod.map (positionOf (automaton.states.map f)) (List.map shape))).symm
  rw [map_shape_renumbered hf] at hmoved
  exact (Shape.Reordered.of_regions hinside []).trans (.of_perm hmoved [])
termination_by sizeOf automaton

/-- Where the renaming keeps the order of the anchors, the shapes are the same if those of the
branches are. -/
theorem shape_renumbered_eq_iff {automaton : Automaton} (h : automaton.Listed)
    (horder : automaton.KeepsOrder f) :
    (automaton.renumbered f).shape = automaton.shape ↔
      ∀ branch ∈ automaton.branches, (branch.renumbered f).shape = branch.shape := by
  have hascending : ((automaton.nested.map (Prod.map f (List.map (renumbered f)))).map
      Prod.fst).Pairwise (· < ·) := by
    rw [List.map_map]
    exact horder
  have hnested : (automaton.renumbered f).nested =
      automaton.nested.map (Prod.map f (List.map (renumbered f))) := by
    rw [nested_renumbered]
    exact Table.insertAll_eq_of_perm hascending (.refl _)
  rw [shape_renumbered_eq hf h, shape_eq automaton, hnested, map_shape_renumbered hf]
  simp only [Shape.mk.injEq, true_and, List.map_inj_left, Prod.ext_iff, Prod.map_fst, Prod.map_snd]
  constructor
  · intro hregions branch hbranch
    obtain ⟨region, hregion, hbranch⟩ := List.mem_flatMap.mp hbranch
    exact hregions region hregion branch hbranch
  · intro hbranches region hregion branch hbranch
    exact hbranches branch (List.mem_flatMap.mpr ⟨region, hregion, hbranch⟩)

/-- The positions of the anchors tell them apart, so the shape of the renumbered automaton shows in
which order they are. -/
theorem keepsOrder_of_shape_renumbered_eq {automaton : Automaton} (h : automaton.Listed)
    (hanchored : automaton.Anchored)
    (hshape : (automaton.renumbered f).shape = automaton.shape) : automaton.KeepsOrder f := by
  rw [shape_renumbered_eq hf h, shape_eq automaton] at hshape
  obtain ⟨-, -, -, -, -, hregions⟩ := Shape.mk.inj hshape
  have hkeys : ((automaton.renumbered f).nested.map Prod.fst).Perm
      (automaton.nested.map fun region => f region.1) := by
    have hmoved := (nested_renumbered_perm hf h).map Prod.fst
    rwa [List.map_map] at hmoved
  have hsubset : (automaton.nested.map fun region => f region.1) ⊆ automaton.states.map f := by
    intro state hstate
    obtain ⟨region, hregion, rfl⟩ := List.mem_map.mp hstate
    exact List.mem_map_of_mem (hanchored region hregion)
  -- The anchors as listed now have the positions of the anchors as listed before.
  have hpositions : ((automaton.renumbered f).nested.map Prod.fst).map
      (positionOf (automaton.states.map f)) =
        (automaton.nested.map fun region => f region.1).map
          (positionOf (automaton.states.map f)) := by
    have hfirst := congrArg (List.map Prod.fst) hregions
    simp only [List.map_map, Prod.map_fst'] at hfirst
    rw [List.map_map, hfirst, List.map_map]
    refine List.map_congr_left ?_
    intro region _
    exact (positionOf_map hf _ _).symm
  have hsame := eq_of_map_positionOf_eq (List.Subset.trans hkeys.subset hsubset) hsubset hpositions
  rw [KeepsOrder, ← hsame, nested_renumbered]
  exact Table.pairwise_insertAll .nil

theorem shape_renumbered_of_keepsOrder (automaton : Automaton)
    (h : ∀ member ∈ automaton.family, member.Listed)
    (horder : ∀ member ∈ automaton.family, member.KeepsOrder f) :
    (automaton.renumbered f).shape = automaton.shape := by
  have hself := automaton.self_mem_family
  rw [shape_renumbered_eq_iff hf (h automaton hself) (horder automaton hself)]
  intro branch hbranch
  have := sizeOf_lt_of_mem_branches hbranch
  have hsubset := branch_family_subset hbranch
  exact shape_renumbered_of_keepsOrder branch (fun member hmember => h member (hsubset hmember))
    fun member hmember => horder member (hsubset hmember)
termination_by sizeOf automaton

theorem keepsOrder_of_mem_family (automaton : Automaton)
    (h : ∀ member ∈ automaton.family, member.Listed)
    (hanchored : ∀ member ∈ automaton.family, member.Anchored)
    (hshape : (automaton.renumbered f).shape = automaton.shape) :
    ∀ member ∈ automaton.family, member.KeepsOrder f := by
  have hself := automaton.self_mem_family
  have horder := keepsOrder_of_shape_renumbered_eq hf (h automaton hself)
    (hanchored automaton hself) hshape
  intro member hmember
  rw [family_eq, List.mem_cons] at hmember
  rcases hmember with rfl | hmember
  · exact horder
  · obtain ⟨branch, hbranch, hmember⟩ := List.mem_flatMap.mp hmember
    have := sizeOf_lt_of_mem_branches hbranch
    have hsubset := branch_family_subset hbranch
    refine keepsOrder_of_mem_family branch (fun other hother => h other (hsubset hother))
      (fun other hother => hanchored other (hsubset hother)) ?_ member hmember
    exact (shape_renumbered_eq_iff hf (h automaton hself) horder).mp hshape branch hbranch
termination_by sizeOf automaton

/-- The set and the tables of a renumbered automaton are in order, at every depth. -/
theorem listed_of_mem_family_renumbered (automaton : Automaton)
    (h : ∀ member ∈ automaton.family, member.Listed) :
    ∀ member ∈ (automaton.renumbered f).family, member.Listed := by
  intro member hmember
  rw [family_eq, List.mem_cons] at hmember
  rcases hmember with rfl | hmember
  · cases automaton
    exact
      { finals := StateSet.pairwise_ofList _
        nested := Table.pairwise_insertAll .nil
        dispatch := Table.pairwise_insertAll .nil
        anchors := Table.pairwise_insertAll .nil }
  · obtain ⟨branch, hbranch, hmember⟩ := List.mem_flatMap.mp hmember
    obtain ⟨region, hregion, hbranch⟩ := List.mem_flatMap.mp hbranch
    have hperm := nested_renumbered_perm hf (h automaton automaton.self_mem_family)
    obtain ⟨old, hold, rfl⟩ := List.mem_map.mp (hperm.mem_iff.mp hregion)
    obtain ⟨oldBranch, hmem, rfl⟩ := List.mem_map.mp hbranch
    have hinside : oldBranch ∈ automaton.branches := List.mem_flatMap.mpr ⟨old, hold, hmem⟩
    have := sizeOf_lt_of_mem_branches hinside
    exact listed_of_mem_family_renumbered oldBranch
      (fun other hother => h other (branch_family_subset hinside hother)) member hmember
termination_by sizeOf automaton

end Regions

/-- An injective renaming of the states gives an automaton again whose set and tables are in order,
at every depth. It reorders the regions in the shape and does nothing else to it. The shape stays
the same if the renaming keeps the order of the anchors at every depth, and not otherwise where the
anchors are states of their automata. -/
theorem shape_renumbered {f : State → State} {automaton : Automaton} (hf : Function.Injective f)
    (h : ∀ member ∈ automaton.family, member.Listed) :
    (∀ member ∈ (automaton.renumbered f).family, member.Listed) ∧
      automaton.shape.Reordered (automaton.renumbered f).shape ∧
      ((∀ member ∈ automaton.family, member.KeepsOrder f) →
        (automaton.renumbered f).shape = automaton.shape) ∧
      ((∀ member ∈ automaton.family, member.Anchored) →
        ((automaton.renumbered f).shape = automaton.shape ↔
          ∀ member ∈ automaton.family, member.KeepsOrder f)) := by
  have hkeeps := shape_renumbered_of_keepsOrder hf automaton h
  exact ⟨listed_of_mem_family_renumbered hf automaton h,
    reordered_renumbered hf automaton h, hkeeps,
    fun hanchored => ⟨keepsOrder_of_mem_family hf automaton h hanchored, hkeeps⟩⟩

/-- Two regions, one of them with a region inside. -/
def fork : Automaton :=
  { single 1 with
    states := [1, 2, 3]
    transitions := [.silent 1 2, .silent 2 3]
    finals := [3]
    nested := [(1, [single 4]), (2, [{ single 5 with nested := [(5, [single 6])] }])] }

/-- The states up to a bound in the opposite order. -/
def mirrored (bound state : Nat) : Nat :=
  if state ≤ bound then bound - state else state

theorem mirrored_injective (bound : Nat) : Function.Injective (mirrored bound) := by
  intro first second h
  simp only [mirrored] at h
  split_ifs at h <;> omega

/-- The shape of the fork is the same when two states that are no anchors are exchanged; it is a
different one, with the regions reordered, when the order of all states is turned around. -/
theorem shape_fork_renumbered :
    (∀ member ∈ (fork.renumbered (mirrored 13)).family, member.Listed) ∧
      (fork.renumbered (Equiv.swap 3 4)).shape = fork.shape ∧
      fork.shape.Reordered (fork.renumbered (mirrored 13)).shape ∧
      ((fork.renumbered (mirrored 13)).shape = fork.shape ↔
        ∀ member ∈ fork.family, member.KeepsOrder (mirrored 13)) := by
  have hlisted : ∀ member ∈ fork.family, member.Listed := by decide +kernel
  have horder : ∀ member ∈ fork.family, member.KeepsOrder (Equiv.swap 3 4) := by decide +kernel
  have hanchored : ∀ member ∈ fork.family, member.Anchored := by decide +kernel
  obtain ⟨-, -, hsame, -⟩ := shape_renumbered (Equiv.swap 3 4).injective hlisted
  obtain ⟨hrenumbered, hreordered, -, hiff⟩ := shape_renumbered (mirrored_injective 13) hlisted
  exact ⟨hrenumbered, hsame horder, hreordered, hiff hanchored⟩

theorem shape_fork_mirrored_ne :
    Function.Injective (mirrored 13) ∧ (∀ member ∈ fork.family, member.Listed) ∧
      (fork.renumbered (mirrored 13)).shape ≠ fork.shape := by
  refine ⟨mirrored_injective 13, by decide +kernel, ?_⟩
  intro hshape
  rw [shape_eq, shape_eq fork] at hshape
  obtain ⟨-, -, -, -, -, hregions⟩ := Shape.mk.inj hshape
  have hpositions := congrArg (List.map Prod.fst) hregions
  revert hpositions
  rw [List.map_map, List.map_map, Prod.map_fst', Prod.map_fst']
  decide +kernel

end Automaton

end Conversation

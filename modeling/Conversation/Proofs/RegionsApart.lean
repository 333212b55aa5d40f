import Conversation.Proofs.Regions

/-!
Which parallel regions an automaton tells apart. Under a state are the branches of all regions that
are entered there, so those of one region can be read back exactly if no other region is entered at
the same state; and the regions of an automaton are counted by their states.
-/

namespace Conversation

theorem forall₂_and {α β : Type} {related related' : α → β → Prop} {as : List α} {bs : List β}
    (h : List.Forall₂ related as bs) (h' : List.Forall₂ related' as bs) :
    List.Forall₂ (fun a b => related a b ∧ related' a b) as bs := by
  induction h with
  | nil => exact .nil
  | cons hhead _ ih =>
      obtain ⟨hhead', hrest'⟩ := List.forall₂_cons.mp h'
      exact .cons ⟨hhead, hhead'⟩ (ih hrest')

theorem forall₂_of_flatMap {α β γ : Type} {related : β → γ → Prop} {f : α → List β}
    {g : α → List γ} {list : List α} (hlength : ∀ a, (f a).length = (g a).length)
    (h : List.Forall₂ related (list.flatMap f) (list.flatMap g)) :
    ∀ a ∈ list, List.Forall₂ related (f a) (g a) := by
  induction list with
  | nil => simp
  | cons first rest ih =>
      rw [List.flatMap_cons, List.flatMap_cons] at h
      have hfirst := List.forall₂_take_append _ _ _ h
      have hrest := List.forall₂_drop_append _ _ _ h
      rw [← hlength, List.take_left] at hfirst
      rw [← hlength, List.drop_left] at hrest
      exact List.forall_mem_cons.mpr ⟨hfirst, ih hrest⟩

theorem eq_of_ascending_initials {branches branches' : List Automaton}
    (hperm : branches.Perm branches')
    (h : branches.Pairwise fun first second => first.initial < second.initial)
    (h' : branches'.Pairwise fun first second => first.initial < second.initial) :
    branches = branches' :=
  hperm.eq_of_pairwise (fun _ _ _ _ hlt hlt' => absurd hlt (lt_asymm hlt')) h h'

namespace EachBranch

variable {holds holds' : List Activity → Automaton → Prop}

theorem and {activities : List Activity} {automaton : Automaton}
    (h : EachBranch holds activities automaton) (h' : EachBranch holds' activities automaton) :
    EachBranch (fun activities branch => holds activities branch ∧ holds' activities branch)
      activities automaton := by
  obtain ⟨branches, hperm, hascending, hholds, heach⟩ := h
  obtain ⟨branches', hperm', hascending', hholds', heach'⟩ := h'
  obtain rfl := eq_of_ascending_initials (hperm.trans hperm'.symm) hascending hascending'
  refine .intro branches hperm hascending (forall₂_and hholds hholds') ?_
  refine forall₂_imp_of_mem ?_ (forall₂_and heach heach')
  rintro list branch hbranch ⟨hlist, hlist'⟩
  have := Automaton.sizeOf_lt_of_mem_branches (hperm.mem_iff.mp hbranch)
  exact hlist.and hlist'
termination_by sizeOf automaton

theorem deepen {activities : List Activity} {automaton : Automaton}
    (h : EachBranch holds activities automaton) :
    EachBranch (fun activities branch => holds activities branch ∧
      EachBranch holds activities branch) activities automaton := by
  obtain ⟨branches, hperm, hascending, hholds, heach⟩ := h
  refine .intro branches hperm hascending (forall₂_and hholds heach) ?_
  refine forall₂_imp_of_mem ?_ heach
  intro list branch hbranch hlist
  have := Automaton.sizeOf_lt_of_mem_branches (hperm.mem_iff.mp hbranch)
  exact hlist.deepen
termination_by sizeOf automaton

end EachBranch

def Work.RegionsFilled (mode : LoopMode) : Work → Prop
  | .activity one =>
      ∀ inner position, ∀ region ∈ one.regions mode inner position, region.branches ≠ []
  | .activities list =>
      ∀ inner position, ∀ region ∈ regionsOf mode inner list position, region.branches ≠ []
  | .choiceBranches _ _ branches => ∀ inner exit position,
      ∀ region ∈ regionsOfChoices mode inner exit branches position, region.branches ≠ []
  | .directedBranches _ _ branches => ∀ inner exit position,
      ∀ region ∈ regionsOfDirected mode inner exit branches position, region.branches ≠ []
  | .parallelBranches _ _ branches =>
      ∀ next, ∀ region ∈ regionsWithin mode branches next, region.branches ≠ []

theorem Runs.regionsFilled {mode : LoopMode} {work : Work} {build build' : Build}
    (h : Runs mode work build build') : work.RegionsFilled mode := by
  induction h with
  | nil => simp [Work.RegionsFilled, regionsOf]
  | cons _ _ ih₁ ih₂ =>
      exact fun inner position =>
        List.forall_mem_append.mpr ⟨ih₁ inner position, ih₂ inner _⟩
  | interaction => simp [Work.RegionsFilled, Activity.regions]
  | choice _ _ _ _ _ ih => exact fun inner => ih inner none
  | directedChoice _ _ _ _ _ _ _ ih => exact fun inner => ih inner none
  | parallel hne _ _ _ _ ih =>
      intro inner position
      refine List.forall_mem_cons.mpr ⟨hne, ?_⟩
      cases inner with
      | false => simp
      | true => exact ih (position.next + 1)
  | loop _ _ _ _ ih => exact fun inner position => ih inner _
  | recursion _ _ _ _ ih => exact ih
  | call => simp [Work.RegionsFilled, Activity.regions]
  | escape _ _ _ _ _ _ _ _ ih₁ ih₂ =>
      exact fun inner position =>
        List.forall_mem_append.mpr ⟨ih₁ inner position, ih₂ inner _⟩
  | finish => simp [Work.RegionsFilled, Activity.regions]
  | choiceBranchesNil => simp [Work.RegionsFilled, regionsOfChoices]
  | choiceBranchesCons _ _ _ _ ih₁ ih₂ =>
      exact fun inner exit position =>
        List.forall_mem_append.mpr ⟨ih₁ inner position, ih₂ inner _ _⟩
  | directedBranchesNil => simp [Work.RegionsFilled, regionsOfDirected]
  | directedBranchesCons _ _ _ _ _ _ ih₁ ih₂ =>
      exact fun inner exit position =>
        List.forall_mem_append.mpr ⟨ih₁ inner _, ih₂ inner _ _⟩
  | parallelBranchesNil => simp [Work.RegionsFilled, regionsWithin]
  | parallelBranchesCons _ _ _ _ ih₁ ih₂ =>
      exact fun next => List.forall_mem_append.mpr ⟨ih₁ true _, ih₂ _⟩

mutual

theorem Activity.regions_eq_flatMap (mode : LoopMode) :
    ∀ (one : Activity) (position : Position), one.regions mode true position =
      (one.regions mode false position).flatMap fun region =>
        region :: regionsWithin mode region.branches (region.join + 1)
  | .interaction _, _ => rfl
  | .choice branches, position => regionsOfChoices_eq_flatMap mode none branches position
  | .directedChoice _ _ branches, position =>
      regionsOfDirected_eq_flatMap mode none branches position
  | .parallel branches, position => by simp [Activity.regions]
  | .loop body, position => regionsOf_eq_flatMap mode body _
  | .recursion _ body, position => regionsOf_eq_flatMap mode body position
  | .call _, _ => rfl
  | .escape body _ handler, position => by
      rw [Activity.regions, Activity.regions, List.flatMap_append, regionsOf_eq_flatMap mode body,
        regionsOf_eq_flatMap mode handler]
  | .finish, _ => rfl

/-- The regions at all depths are those of the outermost automaton, each with the regions inside of
its branches. -/
theorem regionsOf_eq_flatMap (mode : LoopMode) :
    ∀ (list : List Activity) (position : Position), regionsOf mode true list position =
      (regionsOf mode false list position).flatMap fun region =>
        region :: regionsWithin mode region.branches (region.join + 1)
  | [], _ => rfl
  | first :: rest, position => by
      rw [regionsOf, regionsOf, List.flatMap_append, first.regions_eq_flatMap,
        regionsOf_eq_flatMap mode rest]

theorem regionsOfChoices_eq_flatMap (mode : LoopMode) (exit : Option State) :
    ∀ (branches : List (List Activity)) (position : Position),
      regionsOfChoices mode true exit branches position =
        (regionsOfChoices mode false exit branches position).flatMap fun region =>
          region :: regionsWithin mode region.branches (region.join + 1)
  | [], _ => rfl
  | branch :: rest, position => by
      rw [regionsOfChoices, regionsOfChoices, List.flatMap_append,
        regionsOf_eq_flatMap mode branch, regionsOfChoices_eq_flatMap mode _ rest]

theorem regionsOfDirected_eq_flatMap (mode : LoopMode) (exit : Option State) :
    ∀ (branches : List DirectedBranch) (position : Position),
      regionsOfDirected mode true exit branches position =
        (regionsOfDirected mode false exit branches position).flatMap fun region =>
          region :: regionsWithin mode region.branches (region.join + 1)
  | [], _ => rfl
  | .mk _ body :: rest, position => by
      rw [regionsOfDirected, regionsOfDirected, List.flatMap_append,
        regionsOf_eq_flatMap mode body, regionsOfDirected_eq_flatMap mode _ rest]

end

mutual

def Activity.parallelCount : Activity → Nat
  | .interaction _ => 0
  | .choice branches => parallelCountOfAll branches
  | .directedChoice _ _ branches => parallelCountOfDirected branches
  | .parallel branches => 1 + parallelCountOfAll branches
  | .loop body => parallelCountOf body
  | .recursion _ body => parallelCountOf body
  | .call _ => 0
  | .escape body _ handler => parallelCountOf body + parallelCountOf handler
  | .finish => 0

def parallelCountOf : List Activity → Nat
  | [] => 0
  | first :: rest => first.parallelCount + parallelCountOf rest

def parallelCountOfAll : List (List Activity) → Nat
  | [] => 0
  | list :: rest => parallelCountOf list + parallelCountOfAll rest

def parallelCountOfDirected : List DirectedBranch → Nat
  | [] => 0
  | .mk _ body :: rest => parallelCountOf body + parallelCountOfDirected rest

end

mutual

theorem Activity.length_regions (mode : LoopMode) : ∀ (one : Activity) (position : Position),
    (one.regions mode true position).length = one.parallelCount
  | .interaction _, _ => rfl
  | .choice branches, position => length_regionsOfChoices mode none branches position
  | .directedChoice _ _ branches, position => length_regionsOfDirected mode none branches position
  | .parallel branches, position => by
      rw [Activity.regions, if_pos rfl, List.length_cons, length_regionsWithin mode branches,
        Activity.parallelCount, Nat.add_comm]
  | .loop body, position => length_regionsOf mode body _
  | .recursion _ body, position => length_regionsOf mode body position
  | .call _, _ => rfl
  | .escape body _ handler, position => by
      rw [Activity.regions, List.length_append, length_regionsOf mode body,
        length_regionsOf mode handler, Activity.parallelCount]
  | .finish, _ => rfl

theorem length_regionsOf (mode : LoopMode) : ∀ (list : List Activity) (position : Position),
    (regionsOf mode true list position).length = parallelCountOf list
  | [], _ => rfl
  | first :: rest, position => by
      rw [regionsOf, List.length_append, first.length_regions, length_regionsOf mode rest,
        parallelCountOf]

theorem length_regionsOfChoices (mode : LoopMode) (exit : Option State) :
    ∀ (branches : List (List Activity)) (position : Position),
      (regionsOfChoices mode true exit branches position).length = parallelCountOfAll branches
  | [], _ => rfl
  | branch :: rest, position => by
      rw [regionsOfChoices, List.length_append, length_regionsOf mode branch,
        length_regionsOfChoices mode _ rest, parallelCountOfAll]

theorem length_regionsOfDirected (mode : LoopMode) (exit : Option State) :
    ∀ (branches : List DirectedBranch) (position : Position),
      (regionsOfDirected mode true exit branches position).length =
        parallelCountOfDirected branches
  | [], _ => rfl
  | .mk _ body :: rest, position => by
      rw [regionsOfDirected, List.length_append, length_regionsOf mode body,
        length_regionsOfDirected mode _ rest, parallelCountOfDirected]

theorem length_regionsWithin (mode : LoopMode) :
    ∀ (branches : List (List Activity)) (next : State),
      (regionsWithin mode branches next).length = parallelCountOfAll branches
  | [], _ => rfl
  | branch :: rest, next => by
      rw [regionsWithin, List.length_append, length_regionsOf mode branch,
        length_regionsWithin mode rest, parallelCountOfAll]

end

namespace Table

variable {α : Type}

theorem mem_keys_append_iff {state key : State} {value : α} {table : Table (List α)} :
    key ∈ (append state value table).map Prod.fst ↔ key = state ∨ key ∈ table.map Prod.fst := by
  rw [append]
  generalize listAt state table ++ [value] = values
  induction table with
  | nil => simp [insert]
  | cons entry rest ih =>
      obtain ⟨first, old⟩ := entry
      rw [insert]
      split_ifs with hlt heq
      · simp
      · subst heq
        simp
      · simp only [List.map_cons, List.mem_cons, ih]
        tauto

theorem mem_keys_extend_iff {key : State} {table : Table (List α)} {entries : List (State × α)} :
    key ∈ (extend table entries).map Prod.fst ↔
      key ∈ table.map Prod.fst ∨ key ∈ entries.map Prod.fst := by
  induction entries generalizing table with
  | nil => simp [extend]
  | cons entry rest ih =>
      rw [extend, List.foldl_cons]
      refine ih.trans ?_
      rw [mem_keys_append_iff, List.map_cons, List.mem_cons]
      tauto

theorem pairwise_extend {table : Table (List α)} {entries : List (State × α)}
    (h : (table.map Prod.fst).Pairwise (· < ·)) :
    ((extend table entries).map Prod.fst).Pairwise (· < ·) := by
  induction entries generalizing table with
  | nil => exact h
  | cons entry rest ih => exact ih (pairwise_insert h)

end Table

theorem mem_keys_rows {mode : LoopMode} {regions : List Region}
    (hfilled : ∀ region ∈ regions, region.branches ≠ []) {state : State} :
    state ∈ (regions.flatMap (Region.rows mode)).map Prod.fst ↔
      state ∈ regions.map Region.anchor := by
  have hrow : ∀ region ∈ regions, (state ∈ (region.rows mode).map Prod.fst ↔
      state = region.anchor) := by
    intro region hregion
    obtain ⟨branch, rest, hbranches⟩ := List.exists_cons_of_ne_nil (hfilled region hregion)
    simp [Region.rows, Region.automata, hbranches, branchAutomata]
  rw [List.map_flatMap, List.mem_flatMap, List.mem_map]
  exact exists_congr fun region => and_congr_right fun hregion =>
    (hrow region hregion).trans eq_comm

/-- The states that the branches of an automaton or of the automata nested in it hang off. -/
def Automaton.hooks (automaton : Automaton) : List State :=
  automaton.family.flatMap fun member => member.nested.map Prod.fst

theorem Automaton.hooks_eq (automaton : Automaton) :
    automaton.hooks = automaton.nested.map Prod.fst ++ automaton.branches.flatMap hooks := by
  rw [hooks, family_eq, List.flatMap_cons, List.flatMap_assoc]
  rfl

theorem mem_hooks_branchAutomata {mode : LoopMode} {state : State}
    {branches : List (List Activity)}
    (h : ∀ branch ∈ branches, ∀ initial,
      (∀ region ∈ regionsOf mode true branch (.fresh initial), region.branches ≠ []) →
        (state ∈ (branchAutomaton mode branch initial).hooks ↔
          state ∈ (regionsOf mode true branch (.fresh initial)).map Region.anchor))
    {next : State} (hfilled : ∀ region ∈ regionsWithin mode branches next, region.branches ≠ []) :
    state ∈ (branchAutomata mode branches next).flatMap Automaton.hooks ↔
      state ∈ (regionsWithin mode branches next).map Region.anchor := by
  induction branches generalizing next with
  | nil => simp [branchAutomata, regionsWithin]
  | cons branch rest ih =>
      obtain ⟨hbranch, hrest⟩ := List.forall_mem_cons.mp h
      obtain ⟨hfirst, hothers⟩ := List.forall_mem_append.mp hfilled
      rw [branchAutomata, regionsWithin, List.flatMap_cons, List.map_append, List.mem_append,
        List.mem_append, hbranch next hfirst, ih hrest hothers]

/-- The branches hang off the states at which the regions are entered. -/
theorem mem_hooks_iff {mode : LoopMode} (activities : List Activity) {position : Position}
    {automaton : Automaton}
    (hnested : automaton.nested =
      Table.extend [] ((regionsOf mode false activities position).flatMap (Region.rows mode)))
    (hfilled : ∀ region ∈ regionsOf mode true activities position, region.branches ≠ [])
    (state : State) : state ∈ automaton.hooks ↔
      state ∈ (regionsOf mode true activities position).map Region.anchor := by
  rw [regionsOf_eq_flatMap] at hfilled ⊢
  simp only [List.mem_flatMap, forall_exists_index, and_imp] at hfilled
  have hown : ∀ region ∈ regionsOf mode false activities position, region.branches ≠ [] :=
    fun region hregion => hfilled region region hregion List.mem_cons_self
  have hinner : ∀ region ∈ regionsOf mode false activities position,
      (state ∈ (region.automata mode).flatMap Automaton.hooks ↔
        state ∈ (regionsWithin mode region.branches (region.join + 1)).map Region.anchor) := by
    intro region hregion
    refine mem_hooks_branchAutomata ?_ fun other hother =>
      hfilled other region hregion (List.mem_cons_of_mem _ hother)
    intro branch hbranch initial hinside
    have hmem : branch ∈ parallelBranchesOf activities := by
      rw [← flatMap_regionsOf mode activities position]
      exact List.mem_flatMap.mpr ⟨region, hregion, hbranch⟩
    have := sizeOf_lt_of_mem_parallelBranchesOf activities branch hmem
    exact mem_hooks_iff branch (congrArg (Table.extend [])
      (contributionOf_branches mode _ branch none (.fresh initial))) hinside state
  have hkeys := @mem_keys_rows mode _ hown state
  rw [Automaton.hooks_eq, List.mem_append, hnested, Table.mem_keys_extend_iff, hkeys,
    ((branches_perm hnested).flatMap_right _).mem_iff, automataOf, List.flatMap_assoc,
    List.map_flatMap, List.mem_flatMap, List.mem_flatMap]
  simp only [List.map_nil, List.not_mem_nil, false_or, List.mem_map, List.map_cons, List.mem_cons]
  constructor
  · rintro (⟨region, hregion, rfl⟩ | ⟨region, hregion, hmem⟩)
    · exact ⟨region, hregion, .inl rfl⟩
    · exact ⟨region, hregion, .inr (List.mem_map.mp ((hinner region hregion).mp hmem))⟩
  · rintro ⟨region, hregion, rfl | hmem⟩
    · exact .inl ⟨region, hregion, rfl⟩
    · exact .inr ⟨region, hregion, (hinner region hregion).mpr (List.mem_map.mpr hmem)⟩
termination_by sizeOf activities

namespace Automaton

/-- Of the regions of a list of activities, those that are entered at one state have their branches
there, in order. -/
structure Hosts (mode : LoopMode) (activities : List Activity) (automaton : Automaton) : Prop where
  /-- Each branch of a region has an automaton, which is built from it. -/
  built : ∀ region ∈ regionsOf mode false activities (.fresh automaton.initial),
    List.Forall₂ (Builds mode) region.branches (region.automata mode)
  branchesAt_eq : ∀ state, automaton.branchesAt state =
    ((regionsOf mode false activities (.fresh automaton.initial)).filter fun region =>
      region.anchor = state).flatMap (Region.automata mode)
  /-- The branches at the state of a region are its own if no other region is entered there. -/
  branchesAt_iff : ∀ before region after,
    regionsOf mode false activities (.fresh automaton.initial) = before ++ region :: after →
      (automaton.branchesAt region.anchor = region.automata mode ↔
        ∀ other ∈ before ++ after, other.anchor ≠ region.anchor)
  joined_once : ∀ region ∈ regionsOf mode false activities (.fresh automaton.initial),
    automaton.transitions.count (.silent region.anchor region.join) = 1

theorem flatMap_filter_eq_iff {mode : LoopMode} {before after : List Region} {region : Region}
    (hfilled : ∀ other ∈ before ++ after, other.automata mode ≠ []) :
    ((before ++ region :: after).filter fun other =>
        other.anchor = region.anchor).flatMap (Region.automata mode) = region.automata mode ↔
      ∀ other ∈ before ++ after, other.anchor ≠ region.anchor := by
  constructor
  · intro heq other hother hanchor
    have hlength := congrArg List.length heq
    simp only [List.filter_append, List.filter_cons_of_pos, decide_true, List.flatMap_append,
      List.flatMap_cons, List.length_append] at hlength
    have hnone : ((before ++ after).filter fun other =>
        other.anchor = region.anchor).flatMap (Region.automata mode) = [] := by
      rw [← List.length_eq_zero_iff, List.filter_append, List.flatMap_append, List.length_append]
      omega
    rw [List.flatMap_eq_nil_iff] at hnone
    exact hfilled other hother (hnone other (List.mem_filter.mpr ⟨hother, by simpa using hanchor⟩))
  · intro halone
    obtain ⟨hbefore, hafter⟩ := List.forall_mem_append.mp halone
    have hnone : ∀ others : List Region, (∀ other ∈ others, other.anchor ≠ region.anchor) →
        (others.filter fun other => other.anchor = region.anchor) = [] := by
      intro others h
      exact List.filter_eq_nil_iff.mpr fun other hother => by simpa using h other hother
    rw [List.filter_append, List.filter_cons_of_pos (by simp), hnone before hbefore,
      hnone after hafter]
    simp

theorem map_snd_filter_rows (mode : LoopMode) (state : State) (regions : List Region) :
    ((regions.flatMap (Region.rows mode)).filter fun row => row.1 = state).map Prod.snd =
      (regions.filter fun region => region.anchor = state).flatMap (Region.automata mode) := by
  induction regions with
  | nil => rfl
  | cons region rest ih =>
      rw [List.flatMap_cons, List.filter_append, List.map_append, ih]
      by_cases hanchor : region.anchor = state
      · simp [Region.rows, hanchor, List.filter_map, Function.comp_def]
      · simp [Region.rows, hanchor, List.filter_map, Function.comp_def]

theorem Hosts.of_nested {mode : LoopMode} {activities : List Activity} {automaton : Automaton}
    {ends : List Transition}
    (hnested : automaton.nested = Table.extend []
      ((regionsOf mode false activities (.fresh automaton.initial)).flatMap (Region.rows mode)))
    (htransitions : automaton.transitions = (contributionOf mode (fun _ => none) activities none
      (.fresh automaton.initial)).transitions ++ ends)
    (hends : ∀ transition ∈ ends, transition.label ≠ .silent)
    (hfilled : (Work.activities activities).RegionsFilled mode)
    (hbuilds : EachBranch (Builds mode) activities automaton) :
    automaton.Hosts mode activities := by
  have hat : ∀ state, automaton.branchesAt state =
      ((regionsOf mode false activities (.fresh automaton.initial)).filter fun region =>
        region.anchor = state).flatMap (Region.automata mode) := by
    intro state
    rw [branchesAt, hnested, Table.listAt_extend, map_snd_filter_rows]
    rfl
  have hbuilt : ∀ region ∈ regionsOf mode false activities (.fresh automaton.initial),
      List.Forall₂ (Builds mode) region.branches (region.automata mode) := by
    obtain ⟨branches, hperm, hascending, hbuilt, -⟩ := hbuilds
    obtain rfl := eq_of_ascending_initials (hperm.trans (branches_perm hnested)) hascending
      (automataOf_ascending mode _ _)
    rw [automataOf, ← flatMap_regionsOf mode activities (.fresh automaton.initial)] at hbuilt
    exact forall₂_of_flatMap (fun region => region.length_automata mode) hbuilt
  refine ⟨hbuilt, hat, ?_, ?_⟩
  · intro before region after hregions
    rw [hat, hregions]
    refine flatMap_filter_eq_iff fun other hother hnil => ?_
    have hmem : other ∈ regionsOf mode false activities (.fresh automaton.initial) := by
      rw [hregions]
      exact List.mem_append.mpr ((List.mem_append.mp hother).imp_right (List.mem_cons_of_mem _))
    refine hfilled false _ other hmem (List.length_eq_zero_iff.mp ?_)
    rw [other.length_automata mode, hnil, List.length_nil]
  · intro region hregion
    have hjoins := joinsOf mode (fun _ => none) activities none (.fresh automaton.initial)
      (Nat.lt_succ_self _) (by simp [Starts.UpTo])
    have hnone : ends.count (.silent region.anchor region.join) = 0 :=
      List.count_eq_zero.mpr fun hmem => hends _ hmem rfl
    rw [htransitions, List.count_append, (hjoins.once region hregion).2, hnone]

end Automaton

namespace Protocol

/-- The states at which the parallel activities of a protocol are entered, one for each of them. -/
def regionAnchors (mode : LoopMode) (protocol : Protocol) : List State :=
  (regionsOf mode true protocol.activities (.fresh 0)).map Region.anchor

variable {protocol : Protocol} {options : CompileOptions} {automaton : Automaton}

theorem outermost_of_compile (h : protocol.compile options = .ok automaton) :
    automaton.initial = 0 ∧
      automaton.transitions = (contributionOf options.loops (fun _ => none) protocol.activities none
        (.fresh 0)).transitions ∧
      automaton.nested = Table.extend []
        ((regionsOf options.loops false protocol.activities (.fresh 0)).flatMap
          (Region.rows options.loops)) := by
  obtain ⟨ended, -, -, hended, -, hautomaton⟩ := eq_of_compile h
  obtain ⟨roles, hopening⟩ := protocol.fresh_opening.automaton_eq
  rw [hopening] at hended
  rw [hautomaton, hended, ← contributionOf_branches options.loops (fun _ => none)
    protocol.activities none]
  exact ⟨rfl, rfl, rfl⟩

/-- The states that branches hang off are as many as the regions that are counted, and they are
different states. -/
theorem hooks_of_compile (h : protocol.compile options = .ok automaton) :
    automaton.hooks.Nodup ∧ automaton.hooks.length = automaton.regionCount := by
  obtain ⟨next, hcoherent, hwellFormed, -⟩ := coherent_of_compile h
  obtain ⟨-, -, hnested⟩ := outermost_of_compile h
  obtain ⟨count, -, hallocated⟩ := hcoherent.allocated
  have hdisjoint := (List.nodup_flatMap.mp (hallocated.nodup_iff.mpr List.nodup_range')).2
  have hbranches : ∀ member ∈ automaton.branches.flatMap Automaton.family,
      member.WellFormed ∧ (member.nested.map Prod.fst).Nodup := by
    refine ((eachBranch_builds h).and (eachBranch_isBranch hnested)).forall_family ?_
    rintro list branch ⟨hbuilds, hbranch⟩
    rw [hbranch] at hbuilds ⊢
    exact ⟨hbuilds.wellFormed.1, (Table.pairwise_extend .nil).imp ne_of_lt⟩
  have hfamily : ∀ member ∈ automaton.family,
      member.WellFormed ∧ (member.nested.map Prod.fst).Nodup := by
    rw [Automaton.family_eq]
    refine List.forall_mem_cons.mpr ⟨⟨hwellFormed, ?_⟩, hbranches⟩
    rw [hnested]
    exact (Table.pairwise_extend .nil).imp ne_of_lt
  constructor
  · refine List.nodup_flatMap.mpr ⟨fun member hmember => (hfamily member hmember).2, ?_⟩
    refine hdisjoint.imp_of_mem fun {first second} hfirst hsecond hstates => ?_
    intro state hstate hstate'
    obtain ⟨row, hrow, rfl⟩ := List.mem_map.mp hstate
    obtain ⟨row', hrow', heq⟩ := List.mem_map.mp hstate'
    have hown := (hfamily second hsecond).1.nested_own row' hrow'
    exact hstates ((hfamily first hfirst).1.nested_own row hrow) (heq ▸ hown)
  · rw [Automaton.hooks, List.length_flatMap, Automaton.regionCount, List.sum]
    simp

/-- Every compiled automaton and all automata nested in it have the branches of their regions under
the states at which the regions are entered, and they join each region once. The regions that are
counted are those states, so they are as many as the parallel activities exactly if no two of these
are entered at one state. -/
theorem hosts_of_compile (h : protocol.compile options = .ok automaton) :
    automaton.Hosts options.loops protocol.activities ∧
      EachBranch (fun activities branch => branch.Hosts options.loops activities)
        protocol.activities automaton ∧
      (protocol.regionAnchors options.loops).length = parallelCountOf protocol.activities ∧
      automaton.regionCount = (protocol.regionAnchors options.loops).dedup.length ∧
      (automaton.regionCount = parallelCountOf protocol.activities ↔
        (protocol.regionAnchors options.loops).Nodup) := by
  obtain ⟨hinitial, htransitions, hnested⟩ := outermost_of_compile h
  obtain ⟨ended, hruns, -⟩ := exists_run_of_compile h
  have hbuilds := eachBranch_builds h
  have hfilled := hruns.regionsFilled
  refine ⟨?_, ?_, ?_⟩
  · rw [← hinitial] at hnested htransitions
    exact .of_nested hnested (htransitions.trans (List.append_nil _).symm) (by simp) hfilled hbuilds
  · refine ((eachBranch_isBranch hnested).and hbuilds.deepen).imp ?_
    rintro list branch ⟨hbranch, ⟨_, _, _, hruns', -⟩, hbuilds'⟩
    refine .of_nested ?_ (congrArg Automaton.transitions hbranch)
      (by simp [Transition.completion]) hruns'.regionsFilled hbuilds'
    rw [← contributionOf_branches options.loops (fun _ => none) list none]
    exact congrArg Automaton.nested hbranch
  · obtain ⟨hnodup, hcount⟩ := hooks_of_compile h
    have hmem := mem_hooks_iff protocol.activities hnested (hfilled true _)
    have hlength : (protocol.regionAnchors options.loops).length =
        parallelCountOf protocol.activities := by
      rw [regionAnchors, List.length_map, length_regionsOf]
    have hdedup : automaton.regionCount =
        (protocol.regionAnchors options.loops).dedup.length := by
      rw [← hcount]
      have hset := List.perm_ext_iff_of_nodup hnodup
        (protocol.regionAnchors options.loops).nodup_dedup
      refine (hset.mpr fun state => ?_).length_eq
      rw [List.mem_dedup]
      exact hmem state
    refine ⟨hlength, hdedup, ?_⟩
    rw [hdedup, ← hlength, ← List.dedup_eq_self]
    exact ⟨(List.dedup_sublist _).eq_of_length, congrArg List.length⟩

end Protocol

/-- Two parallel activities that are entered at one state, as branches of a choice. -/
def crossroads : Protocol :=
  .bare "Crossroads"
    [.choice
      [[.parallel [[.interaction (.bare .receive (some "a") ⟨"B"⟩)]]],
        [.parallel [[.interaction (.bare .receive (some "b") ⟨"B"⟩)]]]]]

theorem crossroads_hosts : ∃ automaton, crossroads.compile ⟨.loop⟩ = .ok automaton ∧
    automaton.Hosts .loop crossroads.activities ∧
      EachBranch (fun activities branch => branch.Hosts .loop activities)
        crossroads.activities automaton ∧
      (crossroads.regionAnchors .loop).length = parallelCountOf crossroads.activities ∧
      automaton.regionCount = (crossroads.regionAnchors .loop).dedup.length ∧
      (automaton.regionCount = parallelCountOf crossroads.activities ↔
        (crossroads.regionAnchors .loop).Nodup) := by
  have hok : (crossroads.compile ⟨.loop⟩).isOk = true := by decide +kernel
  obtain ⟨automaton, hcompile⟩ := Protocol.exists_eq_ok hok
  exact ⟨automaton, hcompile, Protocol.hosts_of_compile hcompile⟩

/-- Both parallel activities have one branch, but there are two under the state at which they are
entered; and together they count as one region. -/
theorem crossroads_merged : ∃ automaton, crossroads.compile ⟨.loop⟩ = .ok automaton ∧
    ((regionsOf .loop false crossroads.activities (.fresh 0)).map fun region =>
      (region.anchor, region.branches.length)) = [(0, 1), (0, 1)] ∧
    (automaton.branchesAt 0).length = 2 ∧
    automaton.regionCount = 1 ∧ parallelCountOf crossroads.activities = 2 := by
  have hok : (crossroads.compile ⟨.loop⟩).isOk = true := by decide +kernel
  obtain ⟨automaton, hcompile⟩ := Protocol.exists_eq_ok hok
  have hbranches : (crossroads.compile ⟨.loop⟩).map (fun automaton =>
      (automaton.branchesAt 0).length) = .ok 2 := by
    decide +kernel
  have hcount : (crossroads.compile ⟨.loop⟩).map Automaton.regionCount = .ok 1 := by
    decide +kernel
  rw [hcompile] at hbranches hcount
  simp only [Except.map, Except.ok.injEq] at hbranches hcount
  exact ⟨automaton, hcompile, by decide, hbranches, hcount, by decide⟩

end Conversation

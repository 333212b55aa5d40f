import Conversation.Proofs.Families

namespace Conversation

/-- A directed choice: the state that it is entered at, and the keys of its branches. -/
structure Fork where
  state : State
  keys : List DispatchKey

def keysOf (branches : List DirectedBranch) : List DispatchKey :=
  branches.map fun branch => branch.exchange.dispatchKey

mutual

/-- The directed choices of an activity, without those inside of parallel branches. -/
def Activity.forks (mode : LoopMode) : Activity → Position → List Fork
  | .interaction _, _ => []
  | .choice branches, position => forksOfChoices mode none branches position
  | .directedChoice _ _ branches, position =>
      ⟨position.cursor, keysOf branches⟩ :: forksOfDirected mode none branches position
  | .parallel _, _ => []
  | .loop body, position => forksOf mode body (position.enterLoop mode)
  | .recursion _ body, position => forksOf mode body position
  | .call _, _ => []
  | .escape body _ handler, position =>
      forksOf mode body position ++ forksOf mode handler (afterAll mode body position)
  | .finish, _ => []

def forksOf (mode : LoopMode) : List Activity → Position → List Fork
  | [], _ => []
  | first :: rest, position =>
      first.forks mode position ++ forksOf mode rest (first.after mode position)

def forksOfChoices (mode : LoopMode) :
    (exit : Option State) → List (List Activity) → Position → List Fork
  | _, [], _ => []
  | exit, branch :: rest, position =>
      let ended := afterAll mode branch position
      forksOf mode branch position ++
        forksOfChoices mode (some (ended.exit exit)) rest (ended.resume exit position.cursor)

def forksOfDirected (mode : LoopMode) :
    (exit : Option State) → List DirectedBranch → Position → List Fork
  | _, [], _ => []
  | exit, .mk _ body :: rest, position =>
      let ended := afterAll mode body (.fresh position.next)
      forksOf mode body (.fresh position.next) ++
        forksOfDirected mode (some (ended.exit exit)) rest (ended.resume exit position.cursor)

end

def forkKeysAt (state : State) (forks : List Fork) : List DispatchKey :=
  (forks.filter fun fork => fork.state = state).flatMap Fork.keys

def selectionKeysAt (state : State) (selections : List Selection) : List DispatchKey :=
  (selections.filter fun selection => selection.state = state).map Selection.key

section Keys

variable (state : State)

@[simp] theorem forkKeysAt_nil : forkKeysAt state [] = [] := rfl

@[simp] theorem forkKeysAt_append (first second : List Fork) :
    forkKeysAt state (first ++ second) = forkKeysAt state first ++ forkKeysAt state second := by
  simp [forkKeysAt]

theorem forkKeysAt_cons (fork : Fork) (forks : List Fork) :
    forkKeysAt state (fork :: forks) =
      (if fork.state = state then fork.keys else []) ++ forkKeysAt state forks := by
  by_cases hstate : fork.state = state <;> simp [forkKeysAt, hstate]

@[simp] theorem selectionKeysAt_nil : selectionKeysAt state [] = [] := rfl

@[simp] theorem selectionKeysAt_append (first second : List Selection) :
    selectionKeysAt state (first ++ second) =
      selectionKeysAt state first ++ selectionKeysAt state second := by
  simp [selectionKeysAt]

theorem selectionKeysAt_cons (selection : Selection) (selections : List Selection) :
    selectionKeysAt state (selection :: selections) =
      (if selection.state = state then [selection.key] else []) ++
        selectionKeysAt state selections := by
  by_cases hstate : selection.state = state <;> simp [selectionKeysAt, hstate]

end Keys

mutual

theorem Activity.keys_perm (mode : LoopMode) (state : State) :
    ∀ (one : Activity) (position : Position),
      (selectionKeysAt state (one.selections mode position)).Perm
        (forkKeysAt state (one.forks mode position))
  | .interaction _, _ => .refl _
  | .choice branches, position => keysOfChoices_perm mode state none branches position
  | .directedChoice _ _ branches, position => by
      rw [Activity.selections, Activity.forks, forkKeysAt_cons]
      exact keysOfDirected_perm mode state none branches position
  | .parallel _, _ => .refl _
  | .loop body, position => keysOf_perm mode state body _
  | .recursion _ body, position => keysOf_perm mode state body position
  | .call _, _ => .refl _
  | .escape body _ handler, position => by
      rw [Activity.selections, Activity.forks, selectionKeysAt_append, forkKeysAt_append]
      exact (keysOf_perm mode state body position).append (keysOf_perm mode state handler _)
  | .finish, _ => .refl _

theorem keysOf_perm (mode : LoopMode) (state : State) :
    ∀ (list : List Activity) (position : Position),
      (selectionKeysAt state (selectionsOf mode list position)).Perm
        (forkKeysAt state (forksOf mode list position))
  | [], _ => .refl _
  | first :: rest, position => by
      rw [selectionsOf, forksOf, selectionKeysAt_append, forkKeysAt_append]
      exact (first.keys_perm mode state position).append (keysOf_perm mode state rest _)

theorem keysOfChoices_perm (mode : LoopMode) (state : State) (exit : Option State) :
    ∀ (branches : List (List Activity)) (position : Position),
      (selectionKeysAt state (selectionsOfChoices mode exit branches position)).Perm
        (forkKeysAt state (forksOfChoices mode exit branches position))
  | [], _ => .refl _
  | branch :: rest, position => by
      rw [selectionsOfChoices, forksOfChoices, selectionKeysAt_append, forkKeysAt_append]
      exact (keysOf_perm mode state branch position).append
        (keysOfChoices_perm mode state _ rest _)

theorem keysOfDirected_perm (mode : LoopMode) (state : State) (exit : Option State) :
    ∀ (branches : List DirectedBranch) (position : Position),
      (selectionKeysAt state (selectionsOfDirected mode exit branches position)).Perm
        ((if position.cursor = state then keysOf branches else []) ++
          forkKeysAt state (forksOfDirected mode exit branches position))
  | [], position => by simp [keysOf, selectionsOfDirected, forksOfDirected]
  | .mk exchange body :: rest, position => by
      have hbody := keysOf_perm mode state body (.fresh position.next)
      have hrest := keysOfDirected_perm mode state
        (some ((afterAll mode body (.fresh position.next)).exit exit)) rest
        ((afterAll mode body (.fresh position.next)).resume exit position.cursor)
      rw [selectionsOfDirected, forksOfDirected, List.cons_append, selectionKeysAt_cons,
        selectionKeysAt_append, forkKeysAt_append]
      refine ((hbody.append hrest).append_left _).trans ?_
      -- The keys of the rest move in front of those inside the first branch.
      rw [← List.append_assoc, ← List.append_assoc, ← List.append_assoc]
      refine List.Perm.append_right _ ?_
      by_cases hstate : position.cursor = state
      · simp only [Position.resume, hstate, if_true, keysOf, List.map_cons,
          List.cons_append, List.nil_append]
        exact (List.perm_append_comm).cons _
      · simp [Position.resume, hstate]

end

theorem Compiler.firstRepeated_eq_none_iff {seen keys : List DispatchKey} :
    firstRepeated seen keys = none ↔ keys.Nodup ∧ ∀ key ∈ keys, key ∉ seen := by
  induction keys generalizing seen with
  | nil => simp [firstRepeated]
  | cons key rest ih =>
      rw [firstRepeated]
      by_cases hkey : key ∈ seen
      · simp [hkey]
      · simp only [hkey, if_false, ih, List.nodup_cons, List.mem_cons, not_or, forall_eq_or_imp,
          not_false_eq_true, true_and]
        constructor
        · rintro ⟨hnodup, hrest⟩
          exact ⟨⟨fun hmem => (hrest key hmem).1 rfl, hnodup⟩, fun other h => (hrest other h).2⟩
        · rintro ⟨⟨hfirst, hnodup⟩, hrest⟩
          refine ⟨hnodup, fun other h => ⟨?_, hrest other h⟩⟩
          rintro rfl
          exact hfirst h

def Work.KeysDistinct (mode : LoopMode) : Work → Prop
  | .activity one => ∀ position, ∀ fork ∈ one.forks mode position, fork.keys.Nodup
  | .activities list => ∀ position, ∀ fork ∈ forksOf mode list position, fork.keys.Nodup
  | .choiceBranches _ _ branches =>
      ∀ exit position, ∀ fork ∈ forksOfChoices mode exit branches position, fork.keys.Nodup
  | .directedBranches _ _ branches =>
      ∀ exit position, ∀ fork ∈ forksOfDirected mode exit branches position, fork.keys.Nodup
  | .parallelBranches .. => True

theorem Runs.keysDistinct {mode : LoopMode} {work : Work} {build build' : Build}
    (h : Runs mode work build build') : work.KeysDistinct mode := by
  induction h with
  | nil => simp [Work.KeysDistinct, forksOf]
  | cons _ _ ih₁ ih₂ =>
      intro position fork hfork
      rcases List.mem_append.mp hfork with hfork | hfork
      · exact ih₁ position fork hfork
      · exact ih₂ _ fork hfork
  | interaction => simp [Work.KeysDistinct, Activity.forks]
  | choice _ _ _ _ _ ih => exact ih none
  | directedChoice _ hkeys _ _ _ _ _ ih =>
      intro position fork hfork
      rcases List.mem_cons.mp hfork with rfl | hfork
      · exact (Compiler.firstRepeated_eq_none_iff.mp hkeys).1
      · exact ih none position fork hfork
  | parallel => simp [Work.KeysDistinct, Activity.forks]
  | loop _ _ _ _ ih => exact fun position => ih _
  | recursion _ _ _ _ ih => exact ih
  | call => simp [Work.KeysDistinct, Activity.forks]
  | escape _ _ _ _ _ _ _ _ ih₁ ih₂ =>
      intro position fork hfork
      rcases List.mem_append.mp hfork with hfork | hfork
      · exact ih₁ position fork hfork
      · exact ih₂ _ fork hfork
  | finish => simp [Work.KeysDistinct, Activity.forks]
  | choiceBranchesNil => simp [Work.KeysDistinct, forksOfChoices]
  | choiceBranchesCons _ _ _ _ ih₁ ih₂ =>
      intro exit position fork hfork
      rcases List.mem_append.mp hfork with hfork | hfork
      · exact ih₁ position fork hfork
      · exact ih₂ _ _ fork hfork
  | directedBranchesNil => simp [Work.KeysDistinct, forksOfDirected]
  | directedBranchesCons _ _ _ _ _ _ ih₁ ih₂ =>
      intro exit position fork hfork
      rcases List.mem_append.mp hfork with hfork | hfork
      · exact ih₁ _ fork hfork
      · exact ih₂ _ _ fork hfork
  | parallelBranchesNil => trivial
  | parallelBranchesCons => trivial

/-- The branches lead to states that are ascending and lie in a range. -/
structure Selection.Ascending (selections : List Selection) (next next' : State) : Prop where
  ascending : (selections.map Selection.target).Pairwise (· < ·)
  mem_range : ∀ selection ∈ selections, next ≤ selection.target ∧ selection.target < next'

namespace Selection.Ascending

variable {first second : List Selection} {next middle next' : State}

theorem nil (next next' : State) : Ascending [] next next' := ⟨.nil, by simp⟩

theorem append (hle : next ≤ middle) (hle' : middle ≤ next') (h₁ : Ascending first next middle)
    (h₂ : Ascending second middle next') : Ascending (first ++ second) next next' where
  ascending := Piece.ascending_append h₁.ascending h₂.ascending h₁.mem_range h₂.mem_range
  mem_range := Piece.range_append hle hle' h₁.mem_range h₂.mem_range

theorem single (selection : Selection) :
    Ascending [selection] selection.target (selection.target + 1) :=
  ⟨List.pairwise_singleton _ _, by simp⟩

theorem weaken (h : Ascending first middle next') (hle : next ≤ middle) :
    Ascending first next next' :=
  ⟨h.ascending, fun selection hmem =>
    ⟨hle.trans (h.mem_range selection hmem).1, (h.mem_range selection hmem).2⟩⟩

end Selection.Ascending

mutual

theorem Activity.selections_ascending (mode : LoopMode) :
    ∀ (one : Activity) (position : Position),
      Selection.Ascending (one.selections mode position) position.next
        (one.after mode position).next
  | .interaction _, _ => .nil _ _
  | .choice branches, position => selectionsOfChoices_ascending mode none branches position
  | .directedChoice _ _ branches, position =>
      selectionsOfDirected_ascending mode none branches position
  | .parallel _, _ => .nil _ _
  | .loop body, position =>
      (selectionsOf_ascending mode body _).weaken (position.next_le_enterLoop mode)
  | .recursion _ body, position => selectionsOf_ascending mode body position
  | .call _, _ => .nil _ _
  | .escape body _ handler, position =>
      .append (next_le_afterAll mode body position) (next_le_afterAll mode handler _)
        (selectionsOf_ascending mode body position) (selectionsOf_ascending mode handler _)
  | .finish, _ => .nil _ _

theorem selectionsOf_ascending (mode : LoopMode) :
    ∀ (list : List Activity) (position : Position),
      Selection.Ascending (selectionsOf mode list position) position.next
        (afterAll mode list position).next
  | [], _ => .nil _ _
  | first :: rest, position =>
      .append (first.next_le_after mode position) (next_le_afterAll mode rest _)
        (first.selections_ascending mode position) (selectionsOf_ascending mode rest _)

theorem selectionsOfChoices_ascending (mode : LoopMode) (exit : Option State) :
    ∀ (branches : List (List Activity)) (position : Position),
      Selection.Ascending (selectionsOfChoices mode exit branches position) position.next
        (afterChoices mode exit branches position).next
  | [], _ => .nil _ _
  | branch :: rest, position =>
      have hresume := Position.next_le_resume (afterAll mode branch position) exit position.cursor
      have hrest := selectionsOfChoices_ascending mode
        (some ((afterAll mode branch position).exit exit)) rest _
      .append (next_le_afterAll mode branch position)
        (hresume.trans (next_le_afterChoices mode _ rest _))
        (selectionsOf_ascending mode branch position) (hrest.weaken hresume)

theorem selectionsOfDirected_ascending (mode : LoopMode) (exit : Option State) :
    ∀ (branches : List DirectedBranch) (position : Position),
      Selection.Ascending (selectionsOfDirected mode exit branches position) position.next
        (afterDirected mode exit branches position).next
  | [], _ => .nil _ _
  | .mk exchange body :: rest, position =>
      have hbody := next_le_afterAll mode body (.fresh position.next)
      have hresume :=
        Position.next_le_resume (afterAll mode body (.fresh position.next)) exit position.cursor
      have hrest := selectionsOfDirected_ascending mode
        (some ((afterAll mode body (.fresh position.next)).exit exit)) rest _
      .append (hbody.trans' (Nat.le_succ _)) (hresume.trans (next_le_afterDirected mode _ rest _))
        (.append (Nat.le_succ _) hbody (.single ⟨position.cursor, exchange, position.next⟩)
          (selectionsOf_ascending mode body (.fresh position.next)))
        (hrest.weaken hresume)

end

namespace Automaton

structure Dispatches (mode : LoopMode) (activities : List Activity) (automaton : Automaton) :
    Prop where
  dispatchAt_eq : ∀ state, automaton.dispatchAt state =
    ((selectionsOf mode activities (.fresh automaton.initial)).filter fun selection =>
      selection.state = state).map Selection.entry
  forks_distinct : ∀ fork ∈ forksOf mode activities (.fresh automaton.initial), fork.keys.Nodup
  /-- The table at a state is unambiguous if the directed choices that are entered there share no
  key. -/
  keys_nodup_iff : ∀ state, ((automaton.dispatchAt state).map DispatchEntry.key).Nodup ↔
    ((forksOf mode activities (.fresh automaton.initial)).filter fun fork =>
      fork.state = state).Pairwise fun first second => first.keys.Disjoint second.keys
  /-- A branch is dispatched to if it is the first of its state with its key. -/
  dispatchTarget_iff : ∀ before selection after,
    selectionsOf mode activities (.fresh automaton.initial) = before ++ selection :: after →
      (automaton.dispatchTarget selection.state selection.key = some selection.target ↔
        ∀ earlier ∈ before, earlier.state = selection.state → earlier.key ≠ selection.key)
  mem_step : ∀ selection ∈ selectionsOf mode activities (.fresh automaton.initial),
    selection.target ∈ automaton.step selection.state selection.exchange.message

theorem dispatchTarget_eq {automaton : Automaton} {selections : List Selection} {state : State}
    (h : automaton.dispatchAt state =
      (selections.filter fun selection => selection.state = state).map Selection.entry)
    (key : DispatchKey) :
    automaton.dispatchTarget state key =
      (selections.find? fun selection => selection.state = state ∧ selection.key = key).map
        Selection.target := by
  rw [dispatchTarget, h, List.find?_map, List.find?_filter, Option.map_map]
  congr 1
  apply List.find?_congr
  intro selection _
  by_cases hstate : selection.state = state <;> by_cases hkey : selection.key = key <;>
    simp [Selection.entry, hstate, hkey]

theorem dispatchTarget_eq_target_iff {automaton : Automaton} {before after : List Selection}
    {selection : Selection}
    (h : automaton.dispatchAt selection.state =
      ((before ++ selection :: after).filter fun other =>
        other.state = selection.state).map Selection.entry)
    (hascending : ((before ++ selection :: after).map Selection.target).Pairwise (· < ·)) :
    automaton.dispatchTarget selection.state selection.key = some selection.target ↔
      ∀ earlier ∈ before, earlier.state = selection.state → earlier.key ≠ selection.key := by
  rw [dispatchTarget_eq h, List.find?_append]
  cases hfind : before.find? fun other =>
      decide (other.state = selection.state ∧ other.key = selection.key) with
  | none =>
      simp only [List.find?_eq_none, decide_eq_true_eq, not_and] at hfind
      simpa using hfind
  | some earlier =>
      have hmem := List.mem_of_find?_eq_some hfind
      have hmatches := List.find?_some hfind
      simp only [decide_eq_true_eq] at hmatches
      rw [List.map_append, List.map_cons, List.pairwise_append] at hascending
      have hlt := hascending.2.2 _ (List.mem_map_of_mem hmem) _ (List.mem_cons_self ..)
      constructor
      · intro htarget
        simp only [Option.some_or, Option.map_some, Option.some.injEq] at htarget
        exact absurd htarget (ne_of_lt hlt)
      · intro hnone
        exact absurd hmatches.2 (hnone earlier hmem hmatches.1)

theorem Dispatches.of_registers {mode : LoopMode} {activities : List Activity}
    {automaton : Automaton} {build ended : Build} {escapes : List Escape}
    {branches : List (List Activity)} (hfresh : build.Fresh automaton.initial)
    (hruns : Runs mode (.activities activities) build ended)
    (hregisters : build.Registers mode escapes
      (Work.selections mode build (.activities activities)) branches ended)
    (hdispatch : automaton.dispatch = ended.scopes.automaton.dispatch)
    (htransitions : ended.scopes.automaton.transitions ⊆ automaton.transitions) :
    automaton.Dispatches mode activities := by
  rw [Work.selections, hfresh.position_eq] at hregisters
  have hat : ∀ state, automaton.dispatchAt state =
      ((selectionsOf mode activities (.fresh automaton.initial)).filter fun selection =>
        selection.state = state).map Selection.entry := by
    intro state
    obtain ⟨roles, hautomaton⟩ := hfresh.automaton_eq
    have hregistered := hregisters.dispatch state
    rw [hautomaton] at hregistered
    rw [dispatchAt, hdispatch]
    exact hregistered
  have hdistinct := hruns.keysDistinct (.fresh automaton.initial)
  refine ⟨hat, hdistinct, ?_, ?_, ?_⟩
  · intro state
    have hkeys : (automaton.dispatchAt state).map DispatchEntry.key =
        selectionKeysAt state (selectionsOf mode activities (.fresh automaton.initial)) := by
      rw [hat, List.map_map]
      rfl
    rw [hkeys, (keysOf_perm mode state activities _).nodup_iff, forkKeysAt, List.nodup_flatMap]
    refine and_iff_right ?_
    intro fork hfork
    exact hdistinct fork (List.mem_of_mem_filter hfork)
  · intro before selection after hselections
    have hascending := (selectionsOf_ascending mode activities (.fresh automaton.initial)).ascending
    rw [hselections] at hascending
    exact dispatchTarget_eq_target_iff (hselections ▸ hat selection.state) hascending
  · intro selection hselection
    have htransition := htransitions (hregisters.selected selection hselection)
    exact mem_step_iff.mpr
      ⟨selection.state, .refl _, selection.transition, htransition, rfl, rfl, rfl⟩

end Automaton

theorem Builds.dispatches {mode : LoopMode} {activities : List Activity} {automaton : Automaton}
    (h : Builds mode activities automaton) : automaton.Dispatches mode activities := by
  obtain ⟨build, ended, hfresh, hruns, rfl⟩ := h
  obtain ⟨-, hregisters⟩ := hruns.registers (.of_idle hfresh.level hfresh.pending_eq trivial)
  exact .of_registers hfresh hruns hregisters rfl (List.subset_append_left _ _)

/-- Every compiled automaton and all automata nested in it dispatch the directed choices of their
activities. -/
theorem Protocol.dispatches_of_compile {protocol : Protocol} {options : CompileOptions}
    {automaton : Automaton} (h : protocol.compile options = .ok automaton) :
    automaton.Dispatches options.loops protocol.activities ∧
      EachBranch (fun activities branch => branch.Dispatches options.loops activities)
        protocol.activities automaton := by
  refine ⟨?_, (eachBranch_builds h).imp fun hbuilds => hbuilds.dispatches⟩
  obtain ⟨ended, hruns, hinitial, hautomaton⟩ := exists_run_of_compile h
  obtain ⟨-, hregisters⟩ := hruns.registers (protocol.ready_opening _)
  refine .of_registers (hinitial ▸ protocol.fresh_opening) hruns hregisters ?_ ?_
  · rw [hautomaton]
    rfl
  · rw [hautomaton]
    exact List.Subset.refl _

/-- Two directed choices that are entered at one state, as branches of a choice. -/
def rivals : Protocol :=
  .bare "Rivals"
    [.choice
      [[.directedChoice ⟨"Seller"⟩ [] [.mk (.bare .receive (some "offer") ⟨"Seller"⟩) []]],
        [.directedChoice ⟨"Buyer"⟩ [] [.mk (.bare .receive (some "offer") ⟨"Buyer"⟩) []]]]]

theorem rivals_dispatch : ∃ automaton, rivals.compile ⟨.loop⟩ = .ok automaton ∧
    automaton.Dispatches .loop rivals.activities ∧
      EachBranch (fun activities branch => branch.Dispatches .loop activities)
        rivals.activities automaton := by
  have hok : (rivals.compile ⟨.loop⟩).isOk = true := by decide +kernel
  obtain ⟨automaton, hcompile⟩ := Protocol.exists_eq_ok hok
  exact ⟨automaton, hcompile, Protocol.dispatches_of_compile hcompile⟩

/-- The rivals select on the same key, and the second is dispatched to where the first leads, which
its own message does not reach. -/
theorem rivals_clash : ∃ automaton, rivals.compile ⟨.loop⟩ = .ok automaton ∧
    let second : Interaction := .bare .receive (some "offer") ⟨"Buyer"⟩
    ¬ ((automaton.dispatchAt 0).map DispatchEntry.key).Nodup ∧
      second.transition 0 4 ∈ automaton.transitions ∧
      automaton.dispatchTarget 0 second.dispatchKey = some 1 ∧
      1 ∉ automaton.step 0 second.message := by
  have hok : (rivals.compile ⟨.loop⟩).isOk = true := by decide +kernel
  obtain ⟨automaton, hcompile⟩ := Protocol.exists_eq_ok hok
  have hdispatch : (rivals.compile ⟨.loop⟩).map (Automaton.dispatchAt · 0) =
      .ok [⟨⟨some "offer", []⟩, 1⟩, ⟨⟨some "offer", []⟩, 4⟩] := by
    decide +kernel
  have htransitions : (rivals.compile ⟨.loop⟩).map Automaton.transitions =
      .ok [(Interaction.bare .receive (some "offer") ⟨"Seller"⟩).transition 0 1, .silent 1 2,
        .silent 2 3, (Interaction.bare .receive (some "offer") ⟨"Buyer"⟩).transition 0 4,
        .silent 4 5, .silent 5 3] := by
    decide +kernel
  have hstep : (rivals.compile ⟨.loop⟩).map
      (Automaton.step · 0 ⟨.receive, some "offer", ⟨"Buyer"⟩⟩) = .ok [4] := by
    decide +kernel
  rw [hcompile] at hdispatch htransitions hstep
  simp only [Except.map, Except.ok.injEq] at hdispatch htransitions hstep
  refine ⟨automaton, hcompile, ?_, ?_, ?_, ?_⟩
  · simp [hdispatch]
  · simp [htransitions]
  · simp [Automaton.dispatchTarget, hdispatch, Interaction.bare, Interaction.dispatchKey]
  · rw [show Interaction.message _ = ⟨.receive, some "offer", ⟨"Buyer"⟩⟩ from rfl, hstep]
    decide

end Conversation

import Conversation.Proofs.LoopFolding

namespace Conversation

/-- The interactions of a part of a protocol, in order, and how many states and silent transitions
it adds to an automaton. -/
@[ext]
structure Measure where
  exchanges : List Interaction
  states : Nat
  silents : Nat

namespace Measure

def none : Measure := ⟨[], 0, 0⟩

def append (first second : Measure) : Measure where
  exchanges := first.exchanges ++ second.exchanges
  states := first.states + second.states
  silents := first.silents + second.silents

instance : Append Measure := ⟨append⟩

section Fields

variable (first second : Measure)

@[simp] theorem exchanges_append :
    (first ++ second).exchanges = first.exchanges ++ second.exchanges := rfl

@[simp] theorem states_append : (first ++ second).states = first.states + second.states := rfl

@[simp] theorem silents_append : (first ++ second).silents = first.silents + second.silents := rfl

@[simp] theorem none_append : none ++ second = second := by
  apply Measure.ext <;> simp [none]

@[simp] theorem append_none : first ++ none = first := by
  apply Measure.ext <;> simp [none]

end Fields

/-- A loop as such has a head, which is entered once and led back to once. -/
def ofLoop : LoopMode → Measure
  | .once => none
  | .loop => ⟨[], 1, 2⟩

end Measure

mutual

/-- A choice with `k` branches adds its exit and `k` silent transitions to it; what is inside of
parallel branches does not count. -/
def Activity.measure (mode : LoopMode) : Activity → Measure
  | .interaction exchange => ⟨[exchange], 1, 0⟩
  | .choice branches => ⟨[], 1, branches.length⟩ ++ measureOfAll mode branches
  | .directedChoice _ _ branches => ⟨[], 1, branches.length⟩ ++ measureOfDirected mode branches
  | .parallel _ => ⟨[], 1, 1⟩
  | .loop body => .ofLoop mode ++ measureOf mode body
  | .recursion _ body => measureOf mode body
  | .call _ => ⟨[], 1, 1⟩
  | .escape body _ handler => measureOf mode body ++ measureOf mode handler
  | .finish => .none

def measureOf (mode : LoopMode) : List Activity → Measure
  | [] => .none
  | first :: rest => first.measure mode ++ measureOf mode rest

def measureOfAll (mode : LoopMode) : List (List Activity) → Measure
  | [] => .none
  | list :: rest => measureOf mode list ++ measureOfAll mode rest

def measureOfDirected (mode : LoopMode) : List DirectedBranch → Measure
  | [] => .none
  | .mk exchange body :: rest =>
      ⟨[exchange], 1, 0⟩ ++ measureOf mode body ++ measureOfDirected mode rest

end

/-- The transition emits the message of the interaction, under its assertion and with its
payload. -/
def Interaction.ShownBy (exchange : Interaction) (transition : Transition) : Prop :=
  transition = exchange.transition transition.source transition.target

def messagesIn (transitions : List Transition) : List Transition :=
  transitions.filter fun transition => transition.label.message?.isSome

def silentsIn (transitions : List Transition) : List Transition :=
  transitions.filter fun transition => transition.label = .silent

def completionsIn (transitions : List Transition) : List Transition :=
  transitions.filter fun transition => transition.label = .parallelEnd

section Append

variable (first second : List Transition)

@[simp] theorem messagesIn_append :
    messagesIn (first ++ second) = messagesIn first ++ messagesIn second := List.filter_append ..

@[simp] theorem silentsIn_append :
    silentsIn (first ++ second) = silentsIn first ++ silentsIn second := List.filter_append ..

@[simp] theorem completionsIn_append :
    completionsIn (first ++ second) = completionsIn first ++ completionsIn second :=
  List.filter_append ..

end Append

namespace Label

@[simp] theorem message?_message (shown : Message) : (message shown).message? = some shown := rfl

@[simp] theorem message?_silent : silent.message? = none := rfl

@[simp] theorem message?_parallelEnd : parallelEnd.message? = none := rfl

end Label

section Completions

variable {ends : List Transition} (h : ∀ transition ∈ ends, transition.label = .parallelEnd)

include h

theorem messagesIn_eq_nil : messagesIn ends = [] :=
  List.filter_eq_nil_iff.mpr fun transition htransition => by simp [h transition htransition]

theorem silentsIn_eq_nil : silentsIn ends = [] :=
  List.filter_eq_nil_iff.mpr fun transition htransition => by simp [h transition htransition]

theorem completionsIn_eq_self : completionsIn ends = ends :=
  List.filter_eq_self.mpr fun transition htransition => by simp [h transition htransition]

end Completions

theorem length_eq_of_labels (transitions : List Transition) :
    transitions.length = (messagesIn transitions).length + (silentsIn transitions).length +
      (completionsIn transitions).length := by
  induction transitions with
  | nil => rfl
  | cons transition rest ih =>
      simp only [messagesIn, silentsIn, completionsIn, List.filter_cons] at ih ⊢
      cases transition.label with
      | message shown => simp; omega
      | silent => simp; omega
      | parallelEnd => simp; omega

/-- What a part of a protocol contributes is as large as it is measured. -/
structure Contribution.Measures (contribution : Contribution) (measure : Measure) : Prop where
  exchanges : List.Forall₂ Interaction.ShownBy measure.exchanges
    (messagesIn contribution.transitions)
  length_states : contribution.states.length = measure.states
  length_silents : (silentsIn contribution.transitions).length = measure.silents
  length_completions : (completionsIn contribution.transitions).length = 0

namespace Contribution.Measures

variable {first second : Contribution} {measure measure' : Measure}

theorem of_nil (hstates : first.states = []) (htransitions : first.transitions = []) :
    first.Measures .none where
  exchanges := by rw [htransitions]; exact .nil
  length_states := by rw [hstates]; rfl
  length_silents := by rw [htransitions]; rfl
  length_completions := by rw [htransitions]; rfl

theorem mark (state : State) : (Contribution.mark state).Measures .none := of_nil rfl rfl

theorem name (roles : List Role) : (Contribution.name roles).Measures .none := of_nil rfl rfl

theorem select (state : State) (entry : DispatchEntry) :
    (Contribution.select state entry).Measures .none :=
  of_nil rfl rfl

theorem place (state : State) : (Contribution.place state).Measures ⟨[], 1, 0⟩ :=
  ⟨.nil, rfl, rfl, rfl⟩

theorem silent (source target : State) :
    (Contribution.edge (.silent source target)).Measures ⟨[], 0, 1⟩ :=
  ⟨.nil, rfl, rfl, rfl⟩

theorem exchange (exchange : Interaction) (source target : State) :
    (Contribution.edge (exchange.transition source target)).Measures ⟨[exchange], 0, 0⟩ :=
  ⟨.cons rfl .nil, rfl, rfl, rfl⟩

theorem append (h : first.Measures measure) (h' : second.Measures measure') :
    (first ++ second).Measures (measure ++ measure') where
  exchanges := by
    rw [transitions_append, messagesIn_append]
    exact List.rel_append h.exchanges h'.exchanges
  length_states := by
    rw [states_append, List.length_append, h.length_states, h'.length_states,
      Measure.states_append]
  length_silents := by
    rw [transitions_append, silentsIn_append, List.length_append, h.length_silents,
      h'.length_silents, Measure.silents_append]
  length_completions := by
    rw [transitions_append, completionsIn_append, List.length_append, h.length_completions,
      h'.length_completions]

theorem congr (h : first.Measures measure) (heq : measure = measure') : first.Measures measure' :=
  heq ▸ h

theorem interaction (exchange : Interaction) (due : Option State) (position : Position) :
    (exchange.contribution due position).Measures ⟨[exchange], 1, 0⟩ :=
  (((place position.next).append (name [exchange.partner])).append (of_nil rfl rfl)).append
    (.exchange exchange position.cursor position.next)

theorem joining (ended : Position) (exit : Option State) :
    (ended.joining exit).Measures ⟨[], exit.elim 1 fun _ => 0, 1⟩ := by
  cases exit with
  | none => exact (place ended.next).append (silent ended.cursor ended.next)
  | some exit => exact silent ended.cursor exit

theorem openingLoop (position : Position) (mode : LoopMode) :
    (position.openingLoop mode).Measures
      (match mode with
        | .once => .none
        | .loop => ⟨[], 1, 1⟩) := by
  cases mode with
  | once => exact of_nil rfl rfl
  | loop => exact (place position.next).append (silent position.cursor position.next)

theorem closingLoop (ended : Position) (head : State) (mode : LoopMode) :
    (ended.closingLoop head mode).Measures
      (match mode with
        | .once => .none
        | .loop => ⟨[], 0, 1⟩) := by
  cases mode with
  | once => exact of_nil rfl rfl
  | loop => exact silent ended.cursor head

end Contribution.Measures

def Work.Measured (mode : LoopMode) : Work → Prop
  | .activity one => ∀ starts due position,
      (one.contribution mode starts due position).Measures (one.measure mode)
  | .activities list => ∀ starts due position,
      (contributionOf mode starts list due position).Measures (measureOf mode list)
  | .choiceBranches _ _ branches => ∀ starts exit position, exit.isSome ∨ branches ≠ [] →
      (contributionOfChoices mode starts exit branches position).Measures
        (⟨[], exit.elim 1 fun _ => 0, branches.length⟩ ++ measureOfAll mode branches)
  | .directedBranches _ _ branches => ∀ starts exit position, exit.isSome ∨ branches ≠ [] →
      (contributionOfDirected mode starts exit branches position).Measures
        (⟨[], exit.elim 1 fun _ => 0, branches.length⟩ ++ measureOfDirected mode branches)
  | .parallelBranches _ _ branches => ∀ anchor next,
      (contributionOfRegions mode anchor branches next).Measures .none

theorem Runs.measured {mode : LoopMode} {work : Work} {build build' : Build}
    (h : Runs mode work build build') : work.Measured mode := by
  induction h with
  | nil => exact fun _ _ _ => .of_nil rfl rfl
  | cons _ _ ih₁ ih₂ =>
      intro starts due position
      exact (ih₁ starts due position).append (ih₂ starts none _)
  | interaction => exact fun _ due position => .interaction _ due position
  | choice hne _ _ _ _ ih => exact fun starts _ position => ih starts none position (.inr hne)
  | directedChoice hne _ _ _ _ _ _ ih =>
      intro starts due position
      have hbranches := ih starts none position (.inr hne)
      exact ((Contribution.Measures.name _).append hbranches).congr (by simp [Activity.measure])
  | parallel _ _ _ _ _ ih =>
      intro starts due position
      exact ((Contribution.Measures.place position.next).append (ih position.cursor _)).append
        (.silent position.cursor position.next)
  | loop _ _ _ _ ih =>
      intro starts due position
      have hbody := ih starts due (position.enterLoop mode)
      have hopened := (Contribution.Measures.openingLoop position mode).append hbody
      refine (hopened.append (.closingLoop _ (position.enterLoop mode).cursor mode)).congr ?_
      cases mode with
      | once => simp [Activity.measure, Measure.ofLoop]
      | loop => apply Measure.ext <;> simp [Activity.measure, Measure.ofLoop]; omega
  | recursion _ _ _ _ ih => exact fun starts due position => ih _ due position
  | call => exact fun _ _ position => (Contribution.Measures.silent _ _).append (.place _)
  | escape _ _ _ _ _ _ _ _ ih₁ ih₂ =>
      intro starts due position
      refine .congr (.append (.append (.append (.name _) (ih₁ starts none position)) (.mark _))
        (ih₂ starts (some _) _)) ?_
      simp [Activity.measure]
  | finish => exact fun _ _ position => .mark position.cursor
  | choiceBranchesNil =>
      intro starts exit position hexit
      obtain ⟨exit, rfl⟩ := Option.isSome_iff_exists.mp (hexit.resolve_right (by simp))
      exact .of_nil rfl rfl
  | choiceBranchesCons _ _ _ _ ih₁ ih₂ =>
      intro starts exit position _
      refine .congr (.append (.append (ih₁ starts none position) (.joining _ exit))
        (ih₂ starts (some _) _ (.inl rfl))) ?_
      apply Measure.ext <;> simp [measureOfAll] <;> omega
  | directedBranchesNil =>
      intro starts exit position hexit
      obtain ⟨exit, rfl⟩ := Option.isSome_iff_exists.mp (hexit.resolve_right (by simp))
      exact .of_nil rfl rfl
  | directedBranchesCons _ _ _ _ _ _ ih₁ ih₂ =>
      intro starts exit position _
      refine .congr (.append (.append (.append (.append (.interaction _ none position)
        (.select _ _)) (ih₁ starts none (.fresh position.next))) (.joining _ exit))
          (ih₂ starts (some _) _ (.inl rfl))) ?_
      apply Measure.ext <;> simp [measureOfDirected] <;> omega
  | parallelBranchesNil => exact fun _ _ => .of_nil rfl rfl
  | parallelBranchesCons _ _ _ _ _ ih =>
      intro anchor next
      exact (Contribution.Measures.of_nil rfl rfl).append (ih anchor _)

namespace Automaton

/-- An automaton is as large as its activities are measured, but for its initial state and for what
completes it. Its message transitions are the interactions of the activities, in the same order. -/
structure Measures (mode : LoopMode) (activities : List Activity) (completions : Nat)
    (automaton : Automaton) : Prop where
  exchanges : List.Forall₂ Interaction.ShownBy (measureOf mode activities).exchanges
    (messagesIn automaton.transitions)
  length_states :
    automaton.states.length = 1 + (measureOf mode activities).states + completions
  silentCount_eq : automaton.silentCount = (measureOf mode activities).silents
  length_completions : (completionsIn automaton.transitions).length = completions
  length_transitions : automaton.transitions.length =
    (measureOf mode activities).exchanges.length + (measureOf mode activities).silents + completions

variable {mode : LoopMode} {activities : List Activity} {automaton : Automaton}

theorem Measures.of_contribution {contribution : Contribution} (ends : List Transition)
    (h : contribution.Measures (measureOf mode activities))
    (hstates : automaton.states.length = 1 + contribution.states.length + ends.length)
    (htransitions : automaton.transitions = contribution.transitions ++ ends)
    (hends : ∀ transition ∈ ends, transition.label = .parallelEnd) :
    automaton.Measures mode activities ends.length := by
  have hmessages : messagesIn automaton.transitions = messagesIn contribution.transitions := by
    rw [htransitions, messagesIn_append, messagesIn_eq_nil hends, List.append_nil]
  have hsilents : silentsIn automaton.transitions = silentsIn contribution.transitions := by
    rw [htransitions, silentsIn_append, silentsIn_eq_nil hends, List.append_nil]
  have hcompletions : (completionsIn automaton.transitions).length = ends.length := by
    rw [htransitions, completionsIn_append, List.length_append, h.length_completions,
      completionsIn_eq_self hends, Nat.zero_add]
  have hlength : (measureOf mode activities).exchanges.length =
      (messagesIn automaton.transitions).length := by
    rw [hmessages]
    exact h.exchanges.length_eq
  have hcount : (silentsIn automaton.transitions).length = (measureOf mode activities).silents := by
    rw [hsilents, h.length_silents]
  constructor
  · rw [hmessages]
    exact h.exchanges
  · rw [hstates, h.length_states]
  · exact hcount
  · exact hcompletions
  · rw [length_eq_of_labels, ← hlength, hcount, hcompletions]

end Automaton

/-- Every compiled automaton and all automata nested in it are as large as their activities are
measured, and have their interactions as message transitions, in the same order; the automaton of a
parallel branch is completed by one more state and one more transition. -/
theorem Protocol.measures_of_compile {protocol : Protocol} {options : CompileOptions}
    {automaton : Automaton} (h : protocol.compile options = .ok automaton) :
    automaton.Measures options.loops protocol.activities 0 ∧
      EachBranch (fun activities branch => branch.Measures options.loops activities 1)
        protocol.activities automaton := by
  constructor
  · obtain ⟨ended, hruns, -⟩ := exists_run_of_compile h
    obtain ⟨-, -, hconsists⟩ := consists_of_compile h
    have hmeasured := hruns.measured (fun _ => none) none (.fresh 0)
    refine .of_contribution [] hmeasured ?_ ?_ (by simp)
    · rw [hconsists.states_eq]
      simp [Contribution.mark, Contribution.empty, Nat.add_comm]
    · rw [hconsists.transitions_eq]
      rfl
  · refine (branches_consist_of_compile h).imp ?_
    rintro activities branch ⟨⟨build, ended, -, hruns, -⟩, hconsists⟩
    have hmeasured := hruns.measured (fun _ => none) none (.fresh branch.initial)
    refine .of_contribution [_] hmeasured ?_ hconsists.transitions_eq ?_
    · rw [hconsists.states_eq]
      simp [Position.completing, Contribution.place, Contribution.edge, Contribution.mark,
        Contribution.empty]
      omega
    · intro transition htransition
      obtain rfl := List.mem_singleton.mp htransition
      rfl

theorem auction_measures : ∃ automaton, auction.compile ⟨.loop⟩ = .ok automaton ∧
    (measureOf .loop auction.activities).states = 5 ∧
    (measureOf .loop auction.activities).silents = 3 ∧
    automaton.Measures .loop auction.activities 0 ∧
      EachBranch (fun activities branch => branch.Measures .loop activities 1)
        auction.activities automaton := by
  have hok : (auction.compile ⟨.loop⟩).isOk = true := by decide +kernel
  obtain ⟨automaton, hcompile⟩ := Protocol.exists_eq_ok hok
  exact ⟨automaton, hcompile, by decide, by decide, Protocol.measures_of_compile hcompile⟩

end Conversation

import Conversation.Proofs.Measures

namespace Conversation

/-- The transitions of the interrupts are message transitions, in the same order. -/
def Contribution.Backed (contribution : Contribution) : Prop :=
  (contribution.interrupts.map Interrupt.transition).Sublist (messagesIn contribution.transitions)

namespace Contribution.Backed

variable {first second : Contribution}

theorem of_nil (h : first.interrupts = []) : first.Backed := by
  rw [Backed, h]
  exact List.nil_sublist _

theorem append (h : first.Backed) (h' : second.Backed) : (first ++ second).Backed := by
  rw [Backed, interrupts_append, transitions_append, List.map_append, messagesIn_append]
  exact List.Sublist.append h h'

theorem interaction (exchange : Interaction) (due : Option State) (position : Position) :
    (exchange.contribution due position).Backed := by
  cases due with
  | none => exact of_nil rfl
  | some anchor => exact List.Sublist.refl [exchange.transition position.cursor position.next]

theorem joining (ended : Position) (exit : Option State) : (ended.joining exit).Backed := by
  cases exit <;> exact of_nil rfl

end Contribution.Backed

mutual

theorem Activity.contribution_backed (mode : LoopMode) :
    ∀ (starts : Starts) (one : Activity) (due : Option State) (position : Position),
      (one.contribution mode starts due position).Backed
  | _, .interaction exchange, due, position => .interaction exchange due position
  | starts, .choice branches, _, position =>
      contributionOfChoices_backed mode starts none branches position
  | starts, .directedChoice sender receivers branches, _, position =>
      .append (.of_nil rfl) (contributionOfDirected_backed mode starts none branches position)
  | _, .parallel branches, _, position => by
      rw [Activity.contribution, contributionOfRegions_eq]
      exact .of_nil rfl
  | starts, .loop body, due, position => by
      have hbody := contributionOf_backed mode starts body due (position.enterLoop mode)
      cases mode with
      | once => exact .append (.append (.of_nil rfl) hbody) (.of_nil rfl)
      | loop => exact .append (.append (.of_nil rfl) hbody) (.of_nil rfl)
  | starts, .recursion label body, due, position =>
      contributionOf_backed mode (starts.within label position.cursor) body due position
  | _, .call _, _, _ => .of_nil rfl
  | starts, .escape body role handler, _, position =>
      .append (.append (.append (.of_nil rfl) (contributionOf_backed mode starts body none position))
        (.of_nil rfl)) (contributionOf_backed mode starts handler _ _)
  | _, .finish, _, _ => .of_nil rfl

theorem contributionOf_backed (mode : LoopMode) :
    ∀ (starts : Starts) (list : List Activity) (due : Option State) (position : Position),
      (contributionOf mode starts list due position).Backed
  | _, [], _, _ => .of_nil rfl
  | starts, first :: rest, due, position =>
      .append (first.contribution_backed mode starts due position)
        (contributionOf_backed mode starts rest none _)

theorem contributionOfChoices_backed (mode : LoopMode) :
    ∀ (starts : Starts) (exit : Option State) (branches : List (List Activity))
      (position : Position), (contributionOfChoices mode starts exit branches position).Backed
  | _, _, [], _ => .of_nil rfl
  | starts, exit, branch :: rest, position =>
      .append (.append (contributionOf_backed mode starts branch none position) (.joining _ exit))
        (contributionOfChoices_backed mode starts _ rest _)

theorem contributionOfDirected_backed (mode : LoopMode) :
    ∀ (starts : Starts) (exit : Option State) (branches : List DirectedBranch)
      (position : Position), (contributionOfDirected mode starts exit branches position).Backed
  | _, _, [], _ => .of_nil rfl
  | starts, exit, .mk exchange body :: rest, position =>
      .append (.append (.append (.append (.interaction exchange none position) (.of_nil rfl))
        (contributionOf_backed mode starts body none _)) (.joining _ exit))
          (contributionOfDirected_backed mode starts _ rest _)

end

namespace Automaton

variable {automaton : Automaton} {next : State}

theorem filter_mem_eq_of_sublist {α : Type} [DecidableEq α] {part list : List α}
    (h : part.Sublist list) (hnodup : list.Nodup) : list.filter (· ∈ part) = part := by
  have hall : part.filter (· ∈ part) = part := List.filter_eq_self.mpr (by simp)
  have hsublist := h.filter (· ∈ part)
  rw [hall] at hsublist
  have hshort : (list.filter (· ∈ part)).Subperm part :=
    (hnodup.filter _).subperm fun _ hmem => by simpa using (List.mem_filter.mp hmem).2
  exact (hsublist.eq_of_length_le hshort.length_le).symm

theorem Consists.interrupts_sublist {contribution : Contribution}
    (h : automaton.Consists contribution) (hbacked : contribution.Backed) :
    (automaton.interrupts.map Interrupt.transition).Sublist (messagesIn automaton.transitions) := by
  rw [h.interrupts_eq, h.transitions_eq]
  exact hbacked

theorem Coherent.nodup_messages (h : automaton.Coherent next) :
    (messagesIn automaton.transitions).Nodup := by
  have hobservable : automaton.observable.Nodup := .of_map _ h.entered_once
  refine hobservable.sublist (List.monotone_filter_right _ ?_)
  intro transition hmessage
  cases hlabel : transition.label with
  | silent => simp [hlabel] at hmessage
  | _ => simp

/-- Whoever looks for the transitions of interrupts by value finds them all, each once. -/
theorem Coherent.filter_interrupts_eq (h : automaton.Coherent next)
    (hsublist : (automaton.interrupts.map Interrupt.transition).Sublist
      (messagesIn automaton.transitions)) :
    (automaton.transitions.filter fun transition =>
      automaton.interrupts.any fun interrupt => interrupt.transition = transition) =
        automaton.interrupts.map Interrupt.transition := by
  generalize hbacked : automaton.interrupts.map Interrupt.transition = backed at hsublist ⊢
  have hfound : ∀ transition, (automaton.interrupts.any fun interrupt =>
      interrupt.transition = transition) = decide (transition ∈ backed) := by
    intro transition
    simp [← hbacked, List.any_eq]
  have hmessages : automaton.transitions.filter (· ∈ backed) =
      (messagesIn automaton.transitions).filter (· ∈ backed) := by
    rw [messagesIn, List.filter_filter]
    refine List.filter_congr fun transition _ => ?_
    by_cases hmem : transition ∈ backed
    · simp [(List.mem_filter.mp (hsublist.subset hmem)).2]
    · simp [hmem]
  rw [funext hfound, hmessages]
  exact filter_mem_eq_of_sublist hsublist h.nodup_messages

end Automaton

/-- In every automaton of the family, the interrupts have transitions of its own, in the same
order. -/
theorem Protocol.interrupts_sublist_of_compile {protocol : Protocol} {options : CompileOptions}
    {automaton : Automaton} (h : protocol.compile options = .ok automaton) :
    ∀ member ∈ automaton.family,
      (member.interrupts.map Interrupt.transition).Sublist (messagesIn member.transitions) := by
  obtain ⟨-, -, hconsists⟩ := consists_of_compile h
  have hbacked := contributionOf_backed options.loops (fun _ => none) protocol.activities none
    (.fresh 0)
  have hinner : ∀ member ∈ automaton.branches.flatMap Automaton.family,
      (member.interrupts.map Interrupt.transition).Sublist (messagesIn member.transitions) := by
    refine (branches_consist_of_compile h).forall_family ?_
    rintro activities branch ⟨-, hconsists⟩
    exact hconsists.interrupts_sublist
      ((contributionOf_backed options.loops _ activities none _).append (.of_nil rfl))
  rw [Automaton.family_eq]
  exact List.forall_mem_cons.mpr
    ⟨hconsists.interrupts_sublist (hbacked.append (.of_nil rfl)), hinner⟩

end Conversation

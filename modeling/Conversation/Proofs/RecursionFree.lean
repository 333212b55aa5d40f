import Conversation.Proofs.Soundness

namespace Conversation

mutual

/-- An activity contains neither recursions nor calls, at any depth. -/
def Activity.recursionFree : Activity → Bool
  | .interaction _ => true
  | .choice branches => recursionFreeAll branches
  | .directedChoice _ _ branches => recursionFreeDirected branches
  | .parallel branches => recursionFreeAll branches
  | .loop body => recursionFree body
  | .recursion _ _ => false
  | .call _ => false
  | .escape body _ handler => recursionFree body && recursionFree handler
  | .finish => true

def recursionFree : List Activity → Bool
  | [] => true
  | first :: rest => first.recursionFree && recursionFree rest

def recursionFreeAll : List (List Activity) → Bool
  | [] => true
  | list :: rest => recursionFree list && recursionFreeAll rest

def recursionFreeDirected : List DirectedBranch → Bool
  | [] => true
  | .mk _ body :: rest => recursionFree body && recursionFreeDirected rest

end

def Protocol.recursionFree (protocol : Protocol) : Bool :=
  Conversation.recursionFree protocol.activities

theorem recursionFreeAll_iff {lists : List (List Activity)} :
    recursionFreeAll lists = true ↔ ∀ list ∈ lists, recursionFree list = true := by
  induction lists with
  | nil => simp [recursionFreeAll]
  | cons list rest ih => simp [recursionFreeAll, ih]

theorem recursionFreeDirected_iff {branches : List DirectedBranch} :
    recursionFreeDirected branches = true ↔
      ∀ branch ∈ branches, recursionFree branch.activities = true := by
  induction branches with
  | nil => simp [recursionFreeDirected]
  | cons branch rest ih =>
      obtain ⟨exchange, body⟩ := branch
      simp [recursionFreeDirected, ih, DirectedBranch.activities, DirectedBranch.body,
        recursionFree, Activity.recursionFree]

mutual

theorem Activity.recursionFree_of_mem_parallelBranches : ∀ activity : Activity,
    activity.recursionFree = true →
      ∀ branch ∈ activity.parallelBranches, Conversation.recursionFree branch = true
  | .interaction _, _ => by simp [Activity.parallelBranches]
  | .choice branches, h => by
      rw [Activity.recursionFree] at h
      exact recursionFree_of_mem_parallelBranchesOfAll branches h
  | .directedChoice _ _ branches, h => by
      rw [Activity.recursionFree] at h
      exact recursionFree_of_mem_parallelBranchesOfDirected branches h
  | .parallel branches, h => by
      rw [Activity.recursionFree] at h
      exact recursionFreeAll_iff.mp h
  | .loop body, h => by
      rw [Activity.recursionFree] at h
      exact recursionFree_of_mem_parallelBranchesOf body h
  | .recursion _ _, h => by simp [Activity.recursionFree] at h
  | .call _, h => by simp [Activity.recursionFree] at h
  | .escape body _ handler, h => by
      rw [Activity.recursionFree, Bool.and_eq_true] at h
      exact List.forall_mem_append.mpr ⟨recursionFree_of_mem_parallelBranchesOf body h.1,
        recursionFree_of_mem_parallelBranchesOf handler h.2⟩
  | .finish, _ => by simp [Activity.parallelBranches]

theorem recursionFree_of_mem_parallelBranchesOf : ∀ list : List Activity,
    recursionFree list = true → ∀ branch ∈ parallelBranchesOf list, recursionFree branch = true
  | [], _ => by simp [parallelBranchesOf]
  | first :: rest, h => by
      rw [recursionFree, Bool.and_eq_true] at h
      exact List.forall_mem_append.mpr ⟨first.recursionFree_of_mem_parallelBranches h.1,
        recursionFree_of_mem_parallelBranchesOf rest h.2⟩

theorem recursionFree_of_mem_parallelBranchesOfAll : ∀ lists : List (List Activity),
    recursionFreeAll lists = true →
      ∀ branch ∈ parallelBranchesOfAll lists, recursionFree branch = true
  | [], _ => by simp [parallelBranchesOfAll]
  | list :: rest, h => by
      rw [recursionFreeAll, Bool.and_eq_true] at h
      exact List.forall_mem_append.mpr ⟨recursionFree_of_mem_parallelBranchesOf list h.1,
        recursionFree_of_mem_parallelBranchesOfAll rest h.2⟩

theorem recursionFree_of_mem_parallelBranchesOfDirected : ∀ branches : List DirectedBranch,
    recursionFreeDirected branches = true →
      ∀ branch ∈ parallelBranchesOfDirected branches, recursionFree branch = true
  | [], _ => by simp [parallelBranchesOfDirected]
  | .mk _ body :: rest, h => by
      rw [recursionFreeDirected, Bool.and_eq_true] at h
      exact List.forall_mem_append.mpr ⟨recursionFree_of_mem_parallelBranchesOf body h.1,
        recursionFree_of_mem_parallelBranchesOfDirected rest h.2⟩

end

def Task.recursionFree : Task → Bool
  | .run activity => activity.recursionFree
  | .again body => Conversation.recursionFree body
  | .handle handler => Conversation.recursionFree handler
  | .join => true
  | .leave _ _ => false

def Agenda.recursionFree (agenda : Agenda) : Bool :=
  agenda.all Task.recursionFree

namespace Agenda

variable {mode : LoopMode} {agenda next rest : Agenda} {shown : Option Message}

@[simp] theorem recursionFree_cons (task : Task) (rest : Agenda) :
    Agenda.recursionFree (task :: rest) = (task.recursionFree && Agenda.recursionFree rest) := rfl

@[simp] theorem recursionFree_agendaOf_append (list : List Activity) (rest : Agenda) :
    Agenda.recursionFree (agendaOf list ++ rest) =
      (Conversation.recursionFree list && Agenda.recursionFree rest) := by
  induction list with
  | nil => rfl
  | cons first others ih =>
      rw [Conversation.recursionFree, Bool.and_assoc, ← ih]
      rfl

theorem recursionFree_tail {task : Task} (h : Agenda.recursionFree (task :: rest) = true) :
    rest.recursionFree = true := by
  rw [recursionFree_cons, Bool.and_eq_true] at h
  exact h.2

theorem recursionFree_of_unfolds (h : Unfolds mode agenda next)
    (hfree : agenda.recursionFree = true) : next.recursionFree = true := by
  cases h with
  | choice hbranch =>
      simp only [recursionFree_cons, Task.recursionFree, Activity.recursionFree, Bool.and_eq_true,
        recursionFree_agendaOf_append] at hfree ⊢
      exact ⟨recursionFreeAll_iff.mp hfree.1 _ hbranch, trivial, hfree.2⟩
  | directedChoice hbranch =>
      simp only [recursionFree_cons, Task.recursionFree, Activity.recursionFree, Bool.and_eq_true,
        recursionFree_agendaOf_append] at hfree ⊢
      exact ⟨recursionFreeDirected_iff.mp hfree.1 _ hbranch, trivial, hfree.2⟩
  | loopOnce _ => simpa [Task.recursionFree, Activity.recursionFree] using hfree
  | loopLeft => exact recursionFree_tail hfree
  | recursionLeft => simp [Task.recursionFree] at hfree
  | escape => simpa [Task.recursionFree, Activity.recursionFree, and_assoc] using hfree
  | handle => simpa [Task.recursionFree] using hfree
  | finish => exact recursionFree_tail hfree

theorem recursionFree_of_moves (h : Moves mode agenda shown next)
    (hfree : agenda.recursionFree = true) : next.recursionFree = true := by
  cases h with
  | interaction => exact recursionFree_tail hfree
  | parallel => exact recursionFree_tail hfree
  | join => exact recursionFree_tail hfree
  | loop _ =>
      simp only [recursionFree_cons, Task.recursionFree, Activity.recursionFree, Bool.and_eq_true,
        recursionFree_agendaOf_append] at hfree ⊢
      exact ⟨hfree.1, hfree.1, hfree.2⟩
  | again =>
      simp only [recursionFree_cons, Task.recursionFree, Bool.and_eq_true,
        recursionFree_agendaOf_append] at hfree ⊢
      exact ⟨hfree.1, hfree.1, hfree.2⟩
  | call _ => simp [Task.recursionFree, Activity.recursionFree] at hfree

end Agenda

theorem Resumes.advances {mode : LoopMode} {point next : Point} {shown : Option Message}
    (h : Resumes mode point shown next) (hfree : point.ahead.recursionFree = true) :
    Advances mode point.ahead shown next.ahead ∧ next.ahead.recursionFree = true := by
  cases h with
  | unfold hunfolds => exact ⟨.unfold hunfolds, Agenda.recursionFree_of_unfolds hunfolds hfree⟩
  | move hmoves => exact ⟨.move hmoves, Agenda.recursionFree_of_moves hmoves hfree⟩
  | enter => simp [Task.recursionFree, Activity.recursionFree] at hfree

theorem emits_advances_of_resumes {mode : LoopMode} {point next : Point} {word : List Message}
    (h : Emits (Resumes mode) point word next) (hfree : point.ahead.recursionFree = true) :
    Emits (Advances mode) point.ahead word next.ahead := by
  obtain ⟨agenda, hemits, rfl, -⟩ := h.simulate
    (fun point agenda => point.ahead = agenda ∧ agenda.recursionFree = true)
    (by
      rintro point next shown agenda ⟨rfl, hfree⟩ hstep
      obtain ⟨hadvances, hnext⟩ := hstep.advances hfree
      exact ⟨next.ahead, .single hadvances, rfl, hnext⟩)
    ⟨rfl, hfree⟩
  exact hemits

theorem recursionFree_agendaOf {list : List Activity} (h : recursionFree list = true) :
    Agenda.recursionFree (agendaOf list) = true := by
  have happend := Agenda.recursionFree_agendaOf_append list []
  rw [List.append_nil, h] at happend
  exact happend

theorem Protocol.recursionFree_agenda {protocol : Protocol}
    (h : protocol.recursionFree = true) : protocol.agenda.recursionFree = true := by
  have happend := Agenda.recursionFree_agendaOf_append protocol.activities (agendaOf [.finish])
  rw [agendaOf, agendaOf, ← List.map_append,
    show Conversation.recursionFree protocol.activities = true from h] at happend
  exact happend

/-- No conversation is let in by compilation, for protocols without recursion: every word that the
automaton accepts is admitted by the protocol, and every word that completes the automaton of a
parallel branch is emitted by the branch up to its end. -/
theorem Protocol.admits_of_accepts {protocol : Protocol} {options : CompileOptions}
    {automaton : Automaton} (h : protocol.compile options = .ok automaton)
    (hfree : protocol.recursionFree = true) :
    (∀ word, automaton.Accepts word → Admits options.loops protocol.agenda word) ∧
      EachBranch
        (fun branch nested => ∀ word,
          nested.Completes word → Emits (Advances options.loops) (agendaOf branch) word [])
        protocol.activities automaton := by
  constructor
  · intro word haccepts
    obtain ⟨last, hemits, hstops⟩ := (accepts_iff_resumes h).mp haccepts
    exact ⟨last.ahead, emits_advances_of_resumes hemits (recursionFree_agenda hfree), hstops⟩
  · refine eachBranch_of_compile
      (fun {activities} => recursionFree_of_mem_parallelBranchesOf activities) ?_ h hfree
    intro branch nested piece initial last done hbranch houtline hcompleted word hcompletes
    obtain ⟨assigned, hassigned⟩ := houtline.exists_assignment
    have hpath := (houtline.completes_iff hcompleted).mp hcompletes
    have hemits := (houtline.resumes_of_path hassigned hpath).trans_silent hassigned.ended
    rw [hassigned.initial] at hemits
    exact emits_advances_of_resumes hemits (recursionFree_agendaOf hbranch)

/-- A protocol of a loop over a choice, and a region with an escape in one of its branches. -/
def haggling : Protocol :=
  .bare "Haggling"
    [.loop
      [.choice
        [[.interaction (.bare .send (some "offer") ⟨"Peer"⟩)],
          [.interaction (.bare .receive (some "refuse") ⟨"Peer"⟩), .finish]]],
      .parallel
        [[.escape [.interaction (.bare .send (some "pay") ⟨"Peer"⟩)] ⟨"Peer"⟩
          [.interaction (.bare .receive (some "cancel") ⟨"Peer"⟩)]],
          [.interaction (.bare .receive (some "ship") ⟨"Peer"⟩)]]]

theorem haggling_admits : ∃ automaton, haggling.compile ⟨.loop⟩ = .ok automaton ∧
    haggling.recursionFree = true ∧
    (∀ word, automaton.Accepts word → Admits .loop haggling.agenda word) ∧
    EachBranch
      (fun branch nested => ∀ word,
        nested.Completes word → Emits (Advances .loop) (agendaOf branch) word [])
      haggling.activities automaton := by
  have hok : (haggling.compile ⟨.loop⟩).isOk = true := by decide +kernel
  have hfree : haggling.recursionFree = true := by decide +kernel
  obtain ⟨automaton, hcompile⟩ := Protocol.exists_eq_ok hok
  exact ⟨automaton, hcompile, hfree, Protocol.admits_of_accepts hcompile hfree⟩

end Conversation

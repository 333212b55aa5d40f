import Conversation.Proofs.Replay

namespace Conversation

theorem eventsAt_append_perm {states states' : List State} (events : List Event)
    (h : states.Disjoint states') :
    (eventsAt (states ++ states') events).Perm
      (eventsAt states events ++ eventsAt states' events) := by
  have hfirst : (eventsAt (states ++ states') events).filter
      (fun event => event.place?.any (· ∈ states)) = eventsAt states events := by
    rw [eventsAt, eventsAt, List.filter_filter]
    refine List.filter_congr fun event _ => ?_
    cases event.place? with
    | none => rfl
    | some place => simp +contextual
  have hsecond : (eventsAt (states ++ states') events).filter
      (fun event => !event.place?.any (· ∈ states)) = eventsAt states' events := by
    rw [eventsAt, eventsAt, List.filter_filter]
    refine List.filter_congr fun event _ => ?_
    cases event.place? with
    | none => rfl
    | some place =>
        by_cases hplace : place ∈ states
        · simpa [hplace] using h hplace
        · simp [hplace]
  rw [← hfirst, ← hsecond]
  exact (List.filter_append_perm _ _).symm

theorem eventsAt_flatMap_perm {members : List Automaton} (events : List Event)
    (h : members.Pairwise fun first second => first.states.Disjoint second.states) :
    (eventsAt (members.flatMap Automaton.states) events).Perm
      (members.flatMap fun member => eventsAt member.states events) := by
  induction h with
  | nil => exact .of_eq (eventsAt_eq_nil (by simp))
  | cons hapart _ ih =>
      rw [List.flatMap_cons, List.flatMap_cons]
      refine (eventsAt_append_perm events ?_).trans (ih.append_left _)
      intro state hstate hrest
      obtain ⟨member, hmember, hother⟩ := List.mem_flatMap.mp hrest
      exact hapart member hmember hstate hother

theorem filterMap_transition?_eventsAt {states : List State} {events : List Event}
    (h : ∀ place ∈ events.filterMap Event.place?, place ∈ states) :
    (eventsAt states events).filterMap Event.transition? = events.filterMap Event.transition? := by
  rw [eventsAt, List.filterMap_filter]
  refine List.filterMap_congr fun event hevent => ?_
  cases event with
  | transitionAdded source label target =>
      have hsource := h source (List.mem_filterMap.mpr ⟨_, hevent, rfl⟩)
      simp [Event.place?, hsource]
  | _ => simp [Event.transition?]

namespace Automaton

def allTransitions (automaton : Automaton) : List Transition :=
  automaton.family.flatMap transitions

theorem allTransitions_eq (automaton : Automaton) :
    automaton.allTransitions = automaton.transitions ++ automaton.inner.flatMap transitions := by
  rw [allTransitions, family_eq, List.flatMap_cons, inner]

/-- What is recorded at the states of a family are the transitions of its members. -/
theorem transitions_recorded {automaton : Automaton} {events : List Event}
    (hnodup : automaton.allStates.Nodup)
    (hplaces : ∀ place ∈ events.filterMap Event.place?, place ∈ automaton.allStates)
    (hreplayed : ∀ member ∈ automaton.family, member.ReplayedBy events) :
    (events.filterMap Event.transition?).Perm
      (automaton.allTransitions.map fun transition =>
        (transition.source, transition.label, transition.target)) := by
  have hperm := (eventsAt_flatMap_perm events (List.nodup_flatMap.mp hnodup).2).filterMap
    Event.transition?
  rw [← allStates, filterMap_transition?_eventsAt hplaces, List.filterMap_flatMap] at hperm
  rw [allTransitions, List.map_flatMap]
  refine hperm.trans (.of_eq ?_)
  exact List.flatMap_congr fun member hmember => (hreplayed member hmember).transitions_eq

theorem EndsOnce.transitions_ne_nil {automaton : Automaton} (h : automaton.EndsOnce) :
    automaton.transitions ≠ [] := by
  obtain ⟨rest, source, done, heq, -⟩ := h.transitions_eq
  simp [heq]

end Automaton

theorem EachBranch.branches_eq_nil_iff {holds : List Activity → Automaton → Prop}
    {activities : List Activity} {automaton : Automaton} (h : EachBranch holds activities automaton) :
    automaton.branches = [] ↔ parallelBranchesOf activities = [] := by
  obtain ⟨branches, hperm, -, hholds, -⟩ := h
  rw [← List.length_eq_zero_iff, ← List.length_eq_zero_iff, ← hperm.length_eq, hholds.length_eq]

namespace Protocol

variable {protocol : Protocol} {options : CompileOptions} {automaton : Automaton}

/-- The automata of parallel branches are not empty, so the outermost automaton has all transitions
only if there are no parallel branches. -/
theorem length_allTransitions_eq_iff (h : protocol.compile options = .ok automaton) :
    automaton.transitions.length = automaton.allTransitions.length ↔
      parallelBranchesOf protocol.activities = [] := by
  have hbuilds := eachBranch_builds h
  have hends : ∀ member ∈ automaton.inner, member.EndsOnce :=
    hbuilds.forall_family fun hbuilt => hbuilt.wellFormed.2
  rw [← hbuilds.branches_eq_nil_iff, Automaton.allTransitions_eq, List.length_append,
    Nat.left_eq_add, List.length_eq_zero_iff, List.flatMap_eq_nil_iff]
  constructor
  · intro hnone
    refine List.eq_nil_iff_forall_not_mem.mpr fun branch hbranch => ?_
    have hinner : branch ∈ automaton.inner :=
      List.mem_flatMap.mpr ⟨branch, hbranch, branch.self_mem_family⟩
    exact (hends branch hinner).transitions_ne_nil (hnone branch hinner)
  · intro hnone member hmember
    rw [Automaton.inner, hnone] at hmember
    exact absurd hmember List.not_mem_nil

theorem transitions_of_compileTraced (h : protocol.compile options = .ok automaton) :
    ((protocol.compileTraced options).2.filterMap Event.transition?).Perm
      (automaton.allTransitions.map fun transition =>
        (transition.source, transition.label, transition.target)) := by
  obtain ⟨ended, log, hended, -, hlogs, hautomaton, htrace⟩ := exists_log_of_compile h
  obtain ⟨-, -, hinitial, -⟩ := exists_run_of_compile h
  obtain ⟨count, hnext, hallocated⟩ := hended.automaton.allocated
  have hstart : ended.scopes.automaton.initial = 0 := by
    rw [hautomaton] at hinitial
    exact hinitial
  have hplaces : ∀ place ∈ (Event.protocolEntered protocol.name :: log).filterMap Event.place?,
      place ∈ ended.scopes.automaton.allStates := by
    intro place hplace
    rcases hlogs.places place hplace with hown | ⟨-, hlt⟩
    · rw [Automaton.allStates_eq]
      exact List.mem_append_left _ hown
    · refine hallocated.mem_iff.mpr (List.mem_range'_1.mpr ⟨?_, hnext ▸ hlt⟩)
      exact hstart.le.trans (Nat.zero_le _)
  have hreplayed : ∀ member ∈ ended.scopes.automaton.family,
      member.ReplayedBy (.protocolEntered protocol.name :: log) :=
    fun member hmember =>
      Automaton.replayedBy_of_replica_eq (hlogs.told rfl rfl member hmember).replica_eq
  have hall : automaton.allTransitions = ended.scopes.automaton.allTransitions := by
    rw [hautomaton, Automaton.allTransitions_eq, Automaton.allTransitions_eq]
    rfl
  have hnodup := hallocated.nodup_iff.mpr (List.nodup_range' ..)
  have hrecorded := Automaton.transitions_recorded hnodup hplaces hreplayed
  rw [hall, htrace, List.filterMap_append]
  exact (List.Perm.of_eq (List.append_nil _)).trans hrecorded

/-- The last step of a compilation that succeeds tells the number of all states, but the number of
transitions of the outermost automaton alone. The trace has the transitions of all automata; the
number that is told is theirs only if the protocol has no parallel branches. -/
theorem totals_of_compileTraced (h : (protocol.compileTraced options).1 = .ok automaton) :
    (protocol.compileTraced options).2.getLast? =
        some (.protocolLeft automaton.allStates.length automaton.transitions.length) ∧
      automaton.allStates.Nodup ∧
      ((protocol.compileTraced options).2.filterMap Event.transition?).Perm
        (automaton.allTransitions.map fun transition =>
          (transition.source, transition.label, transition.target)) ∧
      (automaton.transitions.length =
          ((protocol.compileTraced options).2.filterMap Event.transition?).length ↔
        parallelBranchesOf protocol.activities = []) := by
  rw [compileTraced_fst] at h
  have hperm := transitions_of_compileTraced h
  refine ⟨?_, nodup_allStates_of_compile h, hperm, ?_⟩
  · obtain ⟨ended, log, -, -, -, -, htrace⟩ := exists_log_of_compile h
    rw [htrace, Automaton.length_allStates, List.getLast?_append]
    rfl
  · rw [hperm.length_eq, List.length_map]
    exact length_allTransitions_eq_iff h

end Protocol

theorem auction_totals : ∃ automaton, (auction.compileTraced ⟨.loop⟩).1 = .ok automaton ∧
    (auction.compileTraced ⟨.loop⟩).2.getLast? =
        some (.protocolLeft automaton.allStates.length automaton.transitions.length) ∧
      automaton.allStates.Nodup ∧
      ((auction.compileTraced ⟨.loop⟩).2.filterMap Event.transition?).Perm
        (automaton.allTransitions.map fun transition =>
          (transition.source, transition.label, transition.target)) ∧
      (automaton.transitions.length =
          ((auction.compileTraced ⟨.loop⟩).2.filterMap Event.transition?).length ↔
        parallelBranchesOf auction.activities = []) := by
  have hok : (auction.compile ⟨.loop⟩).isOk = true := by decide +kernel
  obtain ⟨automaton, hcompile⟩ := Protocol.exists_eq_ok hok
  have htraced : (auction.compileTraced ⟨.loop⟩).1 = .ok automaton :=
    (Protocol.compileTraced_fst auction ⟨.loop⟩).trans hcompile
  exact ⟨automaton, htraced, Protocol.totals_of_compileTraced htraced⟩

/-- A single exchange, in a parallel branch of its own. -/
def ping : Protocol :=
  .bare "Ping" [.parallel [[.interaction (.bare .receive (some "ping") ⟨"Peer"⟩)]]]

/-- Three transitions are recorded, of which the last step tells one. -/
theorem ping_totals :
    (ping.compileTraced ⟨.loop⟩).1.isOk = true ∧
      (ping.compileTraced ⟨.loop⟩).2.getLast? = some (.protocolLeft 5 1) ∧
      ((ping.compileTraced ⟨.loop⟩).2.filterMap Event.transition?).length = 3 := by
  decide +kernel

end Conversation

import Conversation.Proofs.Families

/-!
What the recorded steps of a construction tell of the automata that it builds. An event that adds
something to an automaton stands at one of its states, and every state belongs to one automaton;
so the events at the states of an automaton, in their order, make up the automaton.
-/

namespace Conversation

namespace Event

/-- The state to whose automaton an event adds something. -/
def place? : Event → Option State
  | .transitionAdded source _ _ => some source
  | .dispatchRegistered state _ _ => some state
  | .interruptRegistered anchor _ => some anchor
  | .finalMarked state => some state
  | _ => none

def transition? : Event → Option (State × Label × State)
  | .transitionAdded source label target => some (source, label, target)
  | _ => none

def interrupt? : Event → Option (State × Label)
  | .interruptRegistered anchor message => some (anchor, .message message)
  | _ => none

def entry? (state : State) : Event → Option DispatchEntry
  | .dispatchRegistered own key target => if own = state then some ⟨key, target⟩ else none
  | _ => none

/-- An event that neither enters nor leaves a construct. -/
def isPlain : Event → Bool
  | .protocolEntered _ | .protocolLeft .. | .choiceEntered .. | .choiceLeft _
  | .parallelEntered .. | .parallelLeft _ | .loopEntered _ | .loopLeft _
  | .recursionEntered .. | .recursionLeft _ => false
  | _ => true

/-- The second event leaves the construct that the first one enters: the same parallel region, by
its join, and the same recursion, by its label. -/
def ClosedBy : Event → Event → Prop
  | .protocolEntered _, .protocolLeft .. => True
  | .choiceEntered .., .choiceLeft _ => True
  | .parallelEntered _ join _, .parallelLeft left => left = join
  | .loopEntered _, .loopLeft _ => True
  | .recursionEntered label _, .recursionLeft left => left = label
  | _, _ => False

/-- Every construct that is entered is left again, after all that are entered in it. -/
inductive Nested : List Event → Prop
  | nil : Nested []
  | plain {event : Event} : event.isPlain = true → Nested [event]
  | construct {entered left : Event} {inside : List Event} :
      entered.ClosedBy left → Nested inside → Nested (entered :: inside ++ [left])
  | append {first second : List Event} :
      Nested first → Nested second → Nested (first ++ second)

end Event

def eventsAt (states : List State) (events : List Event) : List Event :=
  events.filter fun event => event.place?.any (· ∈ states)

@[simp] theorem eventsAt_append (states : List State) (first second : List Event) :
    eventsAt states (first ++ second) = eventsAt states first ++ eventsAt states second :=
  List.filter_append ..

theorem eventsAt_congr {states states' : List State} {events : List Event}
    (h : ∀ place ∈ events.filterMap Event.place?, place ∈ states ↔ place ∈ states') :
    eventsAt states events = eventsAt states' events := by
  refine List.filter_congr fun event hevent => ?_
  cases hplace : event.place? with
  | none => rfl
  | some place =>
      have hiff := h place (List.mem_filterMap.mpr ⟨event, hevent, hplace⟩)
      simp [hiff]

theorem eventsAt_eq_nil {states : List State} {events : List Event}
    (h : ∀ place ∈ events.filterMap Event.place?, place ∉ states) :
    eventsAt states events = [] := by
  refine List.filter_eq_nil_iff.mpr fun event hevent => ?_
  cases hplace : event.place? with
  | none => simp
  | some place =>
      simpa using h place (List.mem_filterMap.mpr ⟨event, hevent, hplace⟩)

/-- What events can tell of an automaton: its transitions without guards and payloads, its final
states, its interrupts and its dispatch table. -/
structure Replica where
  transitions : List (State × Label × State)
  finals : StateSet
  interrupts : List (State × Label)
  dispatch : Table (List DispatchEntry)

def Automaton.replica (automaton : Automaton) : Replica where
  transitions := automaton.transitions.map fun transition =>
    (transition.source, transition.label, transition.target)
  finals := automaton.finals
  interrupts := automaton.interrupts.map fun interrupt =>
    (interrupt.anchor, interrupt.transition.label)
  dispatch := automaton.dispatch

namespace Replica

def blank : Replica := ⟨[], [], [], []⟩

/-- The replica with what an event adds to the automaton. -/
def add (replica : Replica) : Event → Replica
  | .transitionAdded source label target =>
      { replica with transitions := replica.transitions ++ [(source, label, target)] }
  | .finalMarked state => { replica with finals := StateSet.insert state replica.finals }
  | .interruptRegistered anchor message =>
      { replica with interrupts := replica.interrupts ++ [(anchor, .message message)] }
  | .dispatchRegistered state key target =>
      { replica with dispatch := Table.append state ⟨key, target⟩ replica.dispatch }
  | _ => replica

def addAll (replica : Replica) (events : List Event) : Replica :=
  events.foldl add replica

@[simp] theorem addAll_nil (replica : Replica) : replica.addAll [] = replica := rfl

@[simp] theorem addAll_append (replica : Replica) (first second : List Event) :
    replica.addAll (first ++ second) = (replica.addAll first).addAll second :=
  List.foldl_append ..

theorem transitions_addAll (replica : Replica) (events : List Event) :
    (replica.addAll events).transitions =
      replica.transitions ++ events.filterMap Event.transition? := by
  induction events generalizing replica with
  | nil => simp
  | cons event rest ih =>
      refine (ih (replica.add event)).trans ?_
      cases event <;> simp [add, Event.transition?, List.filterMap_cons]

theorem interrupts_addAll (replica : Replica) (events : List Event) :
    (replica.addAll events).interrupts =
      replica.interrupts ++ events.filterMap Event.interrupt? := by
  induction events generalizing replica with
  | nil => simp
  | cons event rest ih =>
      refine (ih (replica.add event)).trans ?_
      cases event <;> simp [add, Event.interrupt?, List.filterMap_cons]

theorem mem_finals_addAll (replica : Replica) (events : List Event) (state : State) :
    state ∈ (replica.addAll events).finals ↔
      state ∈ replica.finals ∨ .finalMarked state ∈ events := by
  induction events generalizing replica with
  | nil => simp
  | cons event rest ih =>
      refine (ih (replica.add event)).trans ?_
      cases event <;> simp [add, StateSet.mem_insert, or_assoc, or_left_comm]

theorem listAt_addAll (replica : Replica) (events : List Event) (state : State) :
    (replica.addAll events).dispatch.listAt state =
      replica.dispatch.listAt state ++ events.filterMap (Event.entry? state) := by
  induction events generalizing replica with
  | nil => simp
  | cons event rest ih =>
      refine (ih (replica.add event)).trans ?_
      cases event with
      | dispatchRegistered own key target =>
          by_cases hown : own = state <;>
            simp [add, Event.entry?, Table.listAt_append, hown]
      | _ => simp [add, Event.entry?, List.filterMap_cons]

end Replica

def Automaton.inner (automaton : Automaton) : List Automaton :=
  automaton.branches.flatMap Automaton.family

theorem Automaton.mem_inner_addBranch {automaton branch member : Automaton} {anchor : State}
    (hascending : (automaton.nested.map Prod.fst).Pairwise (· < ·))
    (h : member ∈ (automaton.addBranch anchor branch).inner) :
    member ∈ automaton.inner ∨ member ∈ branch.family := by
  have hperm : (automaton.addBranch anchor branch).branches.Perm (automaton.branches ++ [branch]) :=
    Table.append_perm hascending
  obtain ⟨other, hmem, hmember⟩ := List.mem_flatMap.mp h
  rcases List.mem_append.mp (hperm.mem_iff.mp hmem) with hold | hnew
  · exact .inl (List.mem_flatMap.mpr ⟨other, hold, hmember⟩)
  · obtain rfl := List.mem_singleton.mp hnew
    exact .inr hmember

/-- The automaton has come about between two free states, and a log tells all of it. -/
structure Automaton.ToldBetween (automaton : Automaton) (log : List Event) (next next' : State) :
    Prop where
  states_fresh : ∀ state ∈ automaton.states, next ≤ state ∧ state < next'
  replica_eq : automaton.replica = Replica.blank.addAll (eventsAt automaton.states log)

namespace Automaton.ToldBetween

variable {automaton : Automaton} {log log' : List Event} {next next' next'' : State}

theorem later (h : automaton.ToldBetween log next next') (hle : next' ≤ next'')
    (hapart : ∀ place ∈ log'.filterMap Event.place?, place ∉ automaton.states) :
    automaton.ToldBetween (log ++ log') next next'' where
  states_fresh := by
    intro state hstate
    obtain ⟨hfirst, hlt⟩ := h.states_fresh state hstate
    exact ⟨hfirst, hlt.trans_le hle⟩
  replica_eq := by
    rw [eventsAt_append, eventsAt_eq_nil hapart, List.append_nil]
    exact h.replica_eq

theorem earlier (h : automaton.ToldBetween log' next' next'') (hle : next ≤ next')
    (hapart : ∀ place ∈ log.filterMap Event.place?, place ∉ automaton.states) :
    automaton.ToldBetween (log ++ log') next next'' where
  states_fresh := by
    intro state hstate
    obtain ⟨hfirst, hlt⟩ := h.states_fresh state hstate
    exact ⟨hle.trans hfirst, hlt⟩
  replica_eq := by
    rw [eventsAt_append, eventsAt_eq_nil hapart, List.nil_append]
    exact h.replica_eq

end Automaton.ToldBetween

/-- The compilation gets from `build` to `build'` within the automaton under construction, and
records a log if it records at all. What is new in the automaton is what the log says at its
states; everything else that the log says is about automata that have come about meanwhile. -/
structure Build.Logs (build : Build) (log : List Event) (build' : Build) : Prop where
  recording_eq : build'.recording = build.recording
  events_eq : build.recording = true → build'.events = log.reverse ++ build.events
  pending_eq : build'.pending = none ∨ build'.pending = build.pending
  owner_eq : build'.scopes.owner = build.scopes.owner
  next_le : build.arena.next ≤ build'.arena.next
  states_subset : build.scopes.automaton.states ⊆ build'.scopes.automaton.states
  states_new : ∀ state ∈ build'.scopes.automaton.states, state ∈ build.scopes.automaton.states ∨
    build.arena.next ≤ state ∧ state < build'.arena.next
  places : ∀ place ∈ log.filterMap Event.place?, place ∈ build'.scopes.automaton.states ∨
    build.arena.next ≤ place ∧ place < build'.arena.next
  replica_eq : build'.scopes.automaton.replica =
    build.scopes.automaton.replica.addAll (eventsAt build'.scopes.automaton.states log)
  inner : ∀ member ∈ build'.scopes.automaton.inner, member ∈ build.scopes.automaton.inner ∨
    member.ToldBetween log build.arena.next build'.arena.next ∧
      member.states.Disjoint build'.scopes.automaton.states

namespace Build

@[simp] theorem recording_record (build : Build) (event : Event) :
    (build.record event).recording = build.recording := by
  rw [record]
  split <;> rfl

theorem events_record {build : Build} {event : Event} (h : build.recording = true) :
    (build.record event).events = event :: build.events := by
  rw [record, if_pos h]

end Build

namespace Build.Logs

variable {build build' build'' : Build} {log log' : List Event}

theorem eventsAt_eq (h : build.Logs log build') (h' : build'.Logs log' build'') :
    eventsAt build''.scopes.automaton.states log =
      eventsAt build'.scopes.automaton.states log := by
  refine eventsAt_congr fun place hplace => ⟨fun hmem => ?_, fun hmem => h'.states_subset hmem⟩
  rcases h.places place hplace with hown | ⟨-, hlt⟩
  · exact hown
  · rcases h'.states_new place hmem with hold | ⟨hle, -⟩
    · exact hold
    · exact absurd hlt (not_lt.mpr hle)

theorem trans (h : build.Logs log build') (h' : build'.Logs log' build'') :
    build.Logs (log ++ log') build'' where
  recording_eq := h'.recording_eq.trans h.recording_eq
  events_eq := by
    intro hrecording
    rw [h'.events_eq (h.recording_eq.trans hrecording), h.events_eq hrecording,
      List.reverse_append, List.append_assoc]
  pending_eq := by
    rcases h'.pending_eq with hpending | hpending
    · exact .inl hpending
    · rw [hpending]
      exact h.pending_eq
  owner_eq := h'.owner_eq.trans h.owner_eq
  next_le := h.next_le.trans h'.next_le
  states_subset := List.Subset.trans h.states_subset h'.states_subset
  states_new := by
    intro state hstate
    rcases h'.states_new state hstate with hold | ⟨hle, hlt⟩
    · rcases h.states_new state hold with hold | ⟨hle, hlt⟩
      · exact .inl hold
      · exact .inr ⟨hle, hlt.trans_le h'.next_le⟩
    · exact .inr ⟨h.next_le.trans hle, hlt⟩
  places := by
    intro place hplace
    rw [List.filterMap_append, List.mem_append] at hplace
    rcases hplace with hplace | hplace
    · rcases h.places place hplace with hown | ⟨hle, hlt⟩
      · exact .inl (h'.states_subset hown)
      · exact .inr ⟨hle, hlt.trans_le h'.next_le⟩
    · rcases h'.places place hplace with hown | ⟨hle, hlt⟩
      · exact .inl hown
      · exact .inr ⟨h.next_le.trans hle, hlt⟩
  replica_eq := by
    rw [h'.replica_eq, h.replica_eq, eventsAt_append, Replica.addAll_append, h.eventsAt_eq h']
  inner := by
    intro member hmember
    rcases h'.inner member hmember with hold | ⟨htold, hapart⟩
    · rcases h.inner member hold with hold | ⟨htold, hapart⟩
      · exact .inl hold
      · have hapart' : member.states.Disjoint build''.scopes.automaton.states := by
          intro state hstate hmem
          rcases h'.states_new state hmem with hold | ⟨hle, -⟩
          · exact hapart hstate hold
          · exact absurd (htold.states_fresh state hstate).2 (not_lt.mpr hle)
        refine .inr ⟨htold.later h'.next_le fun place hplace hstate => ?_, hapart'⟩
        rcases h'.places place hplace with hown | ⟨hle, -⟩
        · exact hapart' hstate hown
        · exact absurd (htold.states_fresh place hstate).2 (not_lt.mpr hle)
    · refine .inr ⟨htold.earlier h.next_le fun place hplace hstate => ?_, hapart⟩
      rcases h.places place hplace with hown | ⟨-, hlt⟩
      · exact hapart hstate (h'.states_subset hown)
      · exact absurd hlt (not_lt.mpr (htold.states_fresh place hstate).1)

/-- The form of all actions that allocate no state. -/
theorem of_same (hrecording : build'.recording = build.recording)
    (hevents : build.recording = true → build'.events = log.reverse ++ build.events)
    (hpending : build'.pending = none ∨ build'.pending = build.pending)
    (howner : build'.scopes.owner = build.scopes.owner)
    (hnext : build'.arena.next = build.arena.next)
    (hstates : build'.scopes.automaton.states = build.scopes.automaton.states)
    (hnested : build'.scopes.automaton.nested = build.scopes.automaton.nested)
    (hplaces : ∀ place ∈ log.filterMap Event.place?, place ∈ build.scopes.automaton.states)
    (hreplica : build'.scopes.automaton.replica =
      build.scopes.automaton.replica.addAll (eventsAt build.scopes.automaton.states log)) :
    build.Logs log build' where
  recording_eq := hrecording
  events_eq := hevents
  pending_eq := hpending
  owner_eq := howner
  next_le := hnext.ge
  states_subset := hstates ▸ List.Subset.refl _
  states_new := fun state hstate => .inl (hstates ▸ hstate)
  places := fun place hplace => .inl (hstates ▸ hplaces place hplace)
  replica_eq := hstates ▸ hreplica
  inner := by
    intro member hmember
    rw [Automaton.inner, Automaton.branches, hnested] at hmember
    exact .inl hmember

theorem refl (build : Build) : build.Logs [] build :=
  .of_same rfl (fun _ => rfl) (.inr rfl) rfl rfl rfl rfl (by simp) rfl

theorem record (h : build.Logs log build') (event : Event) (hplace : event.place? = none) :
    build.Logs (log ++ [event]) (build'.record event) := by
  have hlog : eventsAt build'.scopes.automaton.states [event] = [] := by
    simp [eventsAt, hplace]
  refine h.trans (.of_same ?_ ?_ (.inr (pending_record _ _)) ?_ ?_ ?_ ?_ ?_ ?_)
  · exact recording_record _ _
  · exact events_record
  · rw [scopes_record]
  · rw [arena_record]
  · rw [scopes_record]
  · rw [scopes_record]
  · simp [hplace]
  · rw [scopes_record, hlog]
    rfl

theorem enrich (h : build.Logs log build') {change : Automaton → Automaton} {event : Event}
    {place : State} (hplace : event.place? = some place)
    (hmem : place ∈ build'.scopes.automaton.states)
    (hstates : (change build'.scopes.automaton).states = build'.scopes.automaton.states)
    (hnested : (change build'.scopes.automaton).nested = build'.scopes.automaton.nested)
    (hreplica : (change build'.scopes.automaton).replica =
      build'.scopes.automaton.replica.add event) :
    build.Logs (log ++ [event]) ((build'.modifyAutomaton change).record event) := by
  have hlog : eventsAt build'.scopes.automaton.states [event] = [event] := by
    simp [eventsAt, hplace, hmem]
  refine h.trans (.of_same ?_ ?_ (.inr (pending_record _ _)) ?_ ?_ ?_ ?_ ?_ ?_)
  · exact recording_record _ _
  · intro hrecording
    exact events_record hrecording
  · rw [scopes_record]
    rfl
  · rw [arena_record]
    rfl
  · rw [scopes_record]
    exact hstates
  · rw [scopes_record]
    exact hnested
  · simpa [hplace] using hmem
  · rw [scopes_record, hlog]
    exact hreplica

theorem connect (h : build.Logs log build') (transition : Transition)
    (hsource : transition.source ∈ build'.scopes.automaton.states) :
    build.Logs
      (log ++ [.transitionAdded transition.source transition.label transition.target])
      (build'.connect transition) :=
  h.enrich rfl hsource rfl rfl (by simp [Automaton.replica, Replica.add, Automaton.addTransition])

theorem markFinal (h : build.Logs log build') {state : State}
    (hstate : state ∈ build'.scopes.automaton.states) :
    build.Logs (log ++ [.finalMarked state]) (build'.markFinal state) :=
  h.enrich rfl hstate rfl rfl rfl

theorem newState (h : build.Logs log build') : build.Logs log build'.newState.2 := by
  have hplaced : build'.Logs [] build'.newState.2 :=
    { recording_eq := rfl
      events_eq := fun _ => rfl
      pending_eq := .inr rfl
      owner_eq := rfl
      next_le := Nat.le_succ _
      states_subset := List.subset_append_left _ _
      states_new := by
        intro state hstate
        rcases List.mem_append.mp hstate with hold | hnew
        · exact .inl hold
        · obtain rfl := List.mem_singleton.mp hnew
          exact .inr ⟨le_rfl, Nat.lt_succ_self _⟩
      places := by simp
      replica_eq := rfl
      inner := fun member hmember => .inl hmember }
  simpa using h.trans hplaced

theorem modifyScopes (h : build.Logs log build') {change : ScopeStack → ScopeStack}
    (hautomaton : (change build'.scopes).automaton = build'.scopes.automaton)
    (howner : (change build'.scopes).owner = build'.scopes.owner) :
    build.Logs log (build'.modifyScopes change) := by
  have hmoved : build'.Logs [] (build'.modifyScopes change) :=
    .of_same rfl (fun _ => rfl) (.inr rfl) howner rfl (congrArg _ hautomaton)
      (congrArg _ hautomaton) (by simp) (congrArg _ hautomaton)
  simpa using h.trans hmoved

theorem addRoles (h : build.Logs log build') (roles : List Role) :
    build.Logs log (roles.foldl addRole build') := by
  induction roles generalizing build' with
  | nil => exact h
  | cons role rest ih =>
      have hnamed : build'.Logs [] (build'.addRole role) :=
        .of_same rfl (fun _ => rfl) (.inr rfl) rfl rfl rfl rfl (by simp) rfl
      exact ih (by simpa using h.trans hnamed)

theorem disarm (h : build.Logs log build') (pending : Option PendingInterrupt) :
    ({ build with pending } : Build).Logs log { build' with pending := none } :=
  { h with pending_eq := .inl rfl }

theorem settle (h : build.Logs log build') {anchor : State} {transition : Transition}
    {message : Message} (hanchor : anchor ∈ build'.scopes.automaton.states)
    (hlabel : transition.label = .message message) :
    build.Logs (log ++ [.interruptRegistered anchor message])
      (build'.settle anchor transition message) := by
  have hidle : build'.Logs [] { build' with pending := none } :=
    (refl build').disarm build'.pending
  have hlogs : build.Logs log { build' with pending := none } := by
    simpa using h.trans hidle
  refine hlogs.enrich rfl hanchor rfl rfl ?_
  simp [Automaton.replica, Replica.add, Automaton.addInterrupt, hlabel]

end Build.Logs

theorem Event.nested_of_plain {log : List Event} (h : ∀ event ∈ log, event.isPlain = true) :
    Nested log := by
  induction log with
  | nil => exact .nil
  | cons event rest ih =>
      obtain ⟨hevent, hrest⟩ := List.forall_mem_cons.mp h
      exact .append (.plain hevent) (ih hrest)

/-- The compilation gets from `build` to `build'` within the automaton under construction. The log
of this tells all that is new, and leaves every construct that it enters. -/
def Build.Traces (build build' : Build) : Prop :=
  ∃ log, Event.Nested log ∧ build.Logs log build'

namespace Build.Traces

variable {build build' opened closing : Build} {log : List Event}

theorem of_plain (h : build.Logs log build') (hplain : ∀ event ∈ log, event.isPlain = true) :
    build.Traces build' :=
  ⟨log, Event.nested_of_plain hplain, h⟩

theorem refl (build : Build) : build.Traces build := ⟨[], .nil, .refl build⟩

theorem trans {build'' : Build} (h : build.Traces build') (h' : build'.Traces build'') :
    build.Traces build'' := by
  obtain ⟨log, hnested, hlogs⟩ := h
  obtain ⟨log', hnested', hlogs'⟩ := h'
  exact ⟨log ++ log', .append hnested hnested', hlogs.trans hlogs'⟩

/-- A construct may be prepared before it is entered and wound up before it is left. -/
theorem construct (before after : List Event) {entered left : Event}
    (hopen : build.Logs (before ++ [entered]) opened) (hinside : opened.Traces closing)
    (hclose : closing.Logs (after ++ [left]) build') (hclosed : entered.ClosedBy left)
    (hbefore : ∀ event ∈ before, event.isPlain = true)
    (hafter : ∀ event ∈ after, event.isPlain = true) : build.Traces build' := by
  obtain ⟨inside, hnested, hlogs⟩ := hinside
  refine ⟨_, ?_, (hopen.trans hlogs).trans hclose⟩
  have hconstruct : Event.Nested (entered :: (inside ++ after) ++ [left]) :=
    .construct hclosed (.append hnested (Event.nested_of_plain hafter))
  have hall := Event.Nested.append (Event.nested_of_plain hbefore) hconstruct
  simpa using hall

end Build.Traces

/-- An interrupt that is pending for the automaton under construction is armed at one of its
states. -/
def Build.Anchored (build : Build) : Prop :=
  ∀ pending, build.pending = some pending →
    pending.owner ≤ build.scopes.owner ∧
      (pending.owner = build.scopes.owner → pending.anchor ∈ build.scopes.automaton.states)

namespace Build.Anchored

variable {build build' : Build} {log : List Event}

theorem of_idle (h : build.pending = none) : build.Anchored := by
  simp [Build.Anchored, h]

theorem logs (h : build.Anchored) (hlogs : build.Logs log build') : build'.Anchored := by
  intro pending hsome
  rcases hlogs.pending_eq with hpending | hpending
  · rw [hpending] at hsome
    cases hsome
  · obtain ⟨hle, hmem⟩ := h pending (hpending ▸ hsome)
    rw [hlogs.owner_eq]
    exact ⟨hle, fun howner => hlogs.states_subset (hmem howner)⟩

theorem traces (h : build.Anchored) (htraces : build.Traces build') : build'.Anchored := by
  obtain ⟨log, -, hlogs⟩ := htraces
  exact h.logs hlogs

/-- The automaton of a parallel branch is deeper than all for which an interrupt may be pending. -/
theorem enterBranch (h : build.Anchored) (hlevel : build.Level) {anchor : State}
    (henter : Compiler.enterParallelBranch anchor build = .ok () build') : build'.Anchored := by
  cases henter
  intro pending hsome
  obtain ⟨hle, -⟩ := h pending hsome
  have hlt : pending.owner < build.scopes.suspended.length + 1 :=
    Nat.lt_succ_of_le (hle.trans_eq hlevel)
  exact ⟨hlt.le, fun howner => absurd howner hlt.ne⟩

end Build.Anchored

end Conversation

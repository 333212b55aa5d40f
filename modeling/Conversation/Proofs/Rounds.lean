import Conversation.Proofs.Verdict

namespace Conversation

/-- A list without some of its elements, in its order. -/
structure Drops {α : Type} (dropped list kept : List α) : Prop where
  sublist : kept.Sublist list
  perm : (kept ++ dropped).Perm list

namespace Drops

variable {α : Type} {dropped dropped' list list' kept kept' : List α}

theorem none (list : List α) : Drops [] list list :=
  ⟨.refl _, by rw [List.append_nil]⟩

theorem all (list : List α) : Drops list list [] :=
  ⟨List.nil_sublist _, .refl _⟩

theorem append (h : Drops dropped list kept) (h' : Drops dropped' list' kept') :
    Drops (dropped ++ dropped') (list ++ list') (kept ++ kept') where
  sublist := h.sublist.append h'.sublist
  perm := by
    have hmiddle : (kept ++ kept' ++ (dropped ++ dropped')).Perm
        ((kept ++ dropped) ++ (kept' ++ dropped')) := by
      rw [List.append_assoc, List.append_assoc]
      exact (List.perm_append_comm_assoc kept' dropped dropped').append_left kept
    exact hmiddle.trans (h.perm.append h'.perm)

theorem mem_kept (h : Drops dropped list kept) {element : α} (hmem : element ∈ list)
    (hdropped : element ∉ dropped) : element ∈ kept :=
  (List.mem_append.mp (h.perm.mem_iff.mpr hmem)).resolve_right hdropped

end Drops

/-- A loop: the state at which it is entered, its head, and the state where its body ends. -/
structure Round where
  entry : State
  head : State
  last : State

/-- The silent transitions of a loop: into the loop, and back from the end of its body. -/
def Round.wiring (round : Round) : List Transition :=
  [.silent round.entry round.head, .silent round.last round.head]

mutual

/-- The loops of an activity, with those inside of parallel branches or without. -/
def Activity.rounds (inner : Bool) : Activity → Position → List Round
  | .interaction _, _ => []
  | .choice branches, position => roundsOfChoices inner none branches position
  | .directedChoice _ _ branches, position => roundsOfDirected inner none branches position
  | .parallel branches, position =>
      if inner then roundsWithin branches (position.next + 1) else []
  | .loop body, position =>
      ⟨position.cursor, position.next, (afterAll .loop body (.fresh position.next)).cursor⟩ ::
        roundsOf inner body (.fresh position.next)
  | .recursion _ body, position => roundsOf inner body position
  | .call _, _ => []
  | .escape body _ handler, position =>
      roundsOf inner body position ++ roundsOf inner handler (afterAll .loop body position)
  | .finish, _ => []

def roundsOf (inner : Bool) : List Activity → Position → List Round
  | [], _ => []
  | first :: rest, position =>
      first.rounds inner position ++ roundsOf inner rest (first.after .loop position)

def roundsOfChoices (inner : Bool) :
    (exit : Option State) → List (List Activity) → Position → List Round
  | _, [], _ => []
  | exit, branch :: rest, position =>
      let ended := afterAll .loop branch position
      roundsOf inner branch position ++
        roundsOfChoices inner (some (ended.exit exit)) rest (ended.resume exit position.cursor)

def roundsOfDirected (inner : Bool) :
    (exit : Option State) → List DirectedBranch → Position → List Round
  | _, [], _ => []
  | exit, .mk _ body :: rest, position =>
      let ended := afterAll .loop body (.fresh position.next)
      roundsOf inner body (.fresh position.next) ++
        roundsOfDirected inner (some (ended.exit exit)) rest (ended.resume exit position.cursor)

/-- The loops inside of parallel branches, of which the first starts at a state. -/
def roundsWithin : List (List Activity) → State → List Round
  | [], _ => []
  | branch :: rest, next =>
      roundsOf true branch (.fresh next) ++
        roundsWithin rest ((afterAll .loop branch (.fresh next)).next + 1)

end

/-- The exit of a choice, if it is allocated now, and its counterpart. -/
def Position.exitPairs (ended once : Position) (exit : Option State) : List (State × State) :=
  exit.elim [(ended.next, once.next)] fun _ => []

mutual

/-- The states that an activity allocates with loops, each with its counterpart without. -/
def Activity.pairs : Activity → (position once : Position) → List (State × State)
  | .interaction _, position, once => [(position.next, once.next)]
  | .choice branches, position, once => pairsOfChoices none none branches position once
  | .directedChoice _ _ branches, position, once =>
      pairsOfDirected none none branches position once
  | .parallel branches, position, once =>
      (position.next, once.next) :: pairsOfRegions branches (position.next + 1) (once.next + 1)
  | .loop body, position, once =>
      (position.next, once.cursor) :: pairsOf body (.fresh position.next) once
  | .recursion _ body, position, once => pairsOf body position once
  | .call _, position, once => [(position.next, once.next)]
  | .escape body _ handler, position, once =>
      pairsOf body position once ++
        pairsOf handler (afterAll .loop body position) (afterAll .once body once)
  | .finish, _, _ => []

def pairsOf : List Activity → (position once : Position) → List (State × State)
  | [], _, _ => []
  | first :: rest, position, once =>
      first.pairs position once ++
        pairsOf rest (first.after .loop position) (first.after .once once)

def pairsOfChoices : (exit exit' : Option State) → List (List Activity) →
    (position once : Position) → List (State × State)
  | _, _, [], _, _ => []
  | exit, exit', branch :: rest, position, once =>
      let ended := afterAll .loop branch position
      let ended' := afterAll .once branch once
      pairsOf branch position once ++ ended.exitPairs ended' exit ++
        pairsOfChoices (some (ended.exit exit)) (some (ended'.exit exit')) rest
          (ended.resume exit position.cursor) (ended'.resume exit' once.cursor)

def pairsOfDirected : (exit exit' : Option State) → List DirectedBranch →
    (position once : Position) → List (State × State)
  | _, _, [], _, _ => []
  | exit, exit', .mk _ body :: rest, position, once =>
      let ended := afterAll .loop body (.fresh position.next)
      let ended' := afterAll .once body (.fresh once.next)
      (position.next, once.next) :: pairsOf body (.fresh position.next) (.fresh once.next) ++
        ended.exitPairs ended' exit ++
        pairsOfDirected (some (ended.exit exit)) (some (ended'.exit exit')) rest
          (ended.resume exit position.cursor) (ended'.resume exit' once.cursor)

def pairsOfRegions : List (List Activity) → (next once : State) → List (State × State)
  | [], _, _ => []
  | branch :: rest, next, once =>
      let ended := afterAll .loop branch (.fresh next)
      let ended' := afterAll .once branch (.fresh once)
      (next, once) :: pairsOf branch (.fresh next) (.fresh once) ++ [(ended.next, ended'.next)] ++
        pairsOfRegions rest (ended.next + 1) (ended'.next + 1)

end

/-- All states of a range are paired in order, and without the heads their counterparts are again
all states of a range, in order. -/
structure Pairing (heads : List State) (pairs : List (State × State))
    (next next' once once' : State) : Prop where
  allocated : ∃ count, next' = next + count ∧ pairs.map Prod.fst = List.range' next count
  counterparts : ∃ kept dropped count, Drops dropped pairs kept ∧ dropped.map Prod.fst = heads ∧
    once' = once + count ∧ kept.map Prod.snd = List.range' once count
  counterparts_lt : ∀ pair ∈ pairs, pair.2 < once'

namespace Pairing

variable {heads heads' : List State} {pairs pairs' : List (State × State)}
  {next middle next' once middle' once' : State}

theorem nil (next once : State) : Pairing [] [] next next once once where
  allocated := ⟨0, rfl, rfl⟩
  counterparts := ⟨[], [], 0, .none _, rfl, rfl, rfl⟩
  counterparts_lt := by simp

theorem single (next once : State) :
    Pairing [] [(next, once)] next (next + 1) once (once + 1) where
  allocated := ⟨1, rfl, rfl⟩
  counterparts := ⟨[(next, once)], [], 1, .none _, rfl, rfl, rfl⟩
  counterparts_lt := by simp

theorem head {cursor : State} (next : State) (h : cursor < once) :
    Pairing [next] [(next, cursor)] next (next + 1) once once where
  allocated := ⟨1, rfl, rfl⟩
  counterparts := ⟨[], [(next, cursor)], 0, .all _, rfl, rfl, rfl⟩
  counterparts_lt := by simpa using h

theorem append (h : Pairing heads pairs next middle once middle')
    (h' : Pairing heads' pairs' middle next' middle' once') :
    Pairing (heads ++ heads') (pairs ++ pairs') next next' once once' where
  allocated := by
    obtain ⟨count, rfl, hfst⟩ := h.allocated
    obtain ⟨count', rfl, hfst'⟩ := h'.allocated
    refine ⟨count + count', Nat.add_assoc .., ?_⟩
    rw [List.map_append, hfst, hfst', List.range'_append_1]
  counterparts := by
    obtain ⟨kept, dropped, count, hdrops, hheads, rfl, hsnd⟩ := h.counterparts
    obtain ⟨kept', dropped', count', hdrops', hheads', rfl, hsnd'⟩ := h'.counterparts
    refine ⟨kept ++ kept', dropped ++ dropped', count + count', hdrops.append hdrops', ?_,
      Nat.add_assoc .., ?_⟩
    · rw [List.map_append, hheads, hheads']
    · rw [List.map_append, hsnd, hsnd', List.range'_append_1]
  counterparts_lt := by
    obtain ⟨_, _, count, -, -, rfl, -⟩ := h'.counterparts
    intro pair hpair
    rcases List.mem_append.mp hpair with hpair | hpair
    · exact (h.counterparts_lt pair hpair).trans_le (Nat.le_add_right ..)
    · exact h'.counterparts_lt pair hpair

theorem exit {exit exit' : Option State} (hexits : exit'.isSome = exit.isSome)
    (ended once : Position) (start start' : State) :
    Pairing [] (ended.exitPairs once exit) ended.next (ended.resume exit start).next once.next
      (once.resume exit' start').next := by
  cases exit with
  | none =>
      cases exit' with
      | none => exact single _ _
      | some state => cases hexits
  | some state =>
      cases exit' with
      | none => cases hexits
      | some state => exact nil _ _

end Pairing

theorem cursor_lt_afterAll (mode : LoopMode) (list : List Activity) {position : Position}
    (h : position.cursor < position.next) :
    (afterAll mode list position).cursor < (afterAll mode list position).next :=
  (passageAll mode list position h).cursor_lt

mutual

theorem Activity.pairing : ∀ (one : Activity) (position once : Position), once.cursor < once.next →
    Pairing ((one.rounds true position).map Round.head) (one.pairs position once) position.next
      (one.after .loop position).next once.next (one.after .once once).next
  | .interaction _, _, _, _ => .single _ _
  | .choice branches, position, once, h => pairing_choices none none branches position once h rfl
  | .directedChoice _ _ branches, position, once, h =>
      pairing_directed none none branches position once h rfl
  | .parallel branches, position, once, _ =>
      (Pairing.single position.next once.next).append
        (pairing_regions branches (position.next + 1) (once.next + 1))
  | .loop body, position, once, h =>
      (Pairing.head position.next h).append (pairing_all body (.fresh position.next) once h)
  | .recursion _ body, position, once, h => pairing_all body position once h
  | .call _, _, _, _ => .single _ _
  | .escape body _ handler, position, once, h => by
      have hhandler := pairing_all handler (afterAll .loop body position) (afterAll .once body once)
        (cursor_lt_afterAll .once body h)
      rw [Activity.rounds, List.map_append]
      exact (pairing_all body position once h).append hhandler
  | .finish, _, _, _ => .nil _ _

/-- The states that a list of activities allocates with loops have their counterparts among those
that it allocates without. -/
theorem pairing_all : ∀ (list : List Activity) (position once : Position),
    once.cursor < once.next →
      Pairing ((roundsOf true list position).map Round.head) (pairsOf list position once)
        position.next (afterAll .loop list position).next once.next (afterAll .once list once).next
  | [], _, _, _ => .nil _ _
  | first :: rest, position, once, h => by
      have hrest := pairing_all rest (first.after .loop position) (first.after .once once)
        (first.passage .once once h).cursor_lt
      rw [roundsOf, List.map_append]
      exact (first.pairing position once h).append hrest

theorem pairing_choices : ∀ (exit exit' : Option State) (branches : List (List Activity))
    (position once : Position), once.cursor < once.next → exit'.isSome = exit.isSome →
      Pairing ((roundsOfChoices true exit branches position).map Round.head)
        (pairsOfChoices exit exit' branches position once) position.next
        (afterChoices .loop exit branches position).next once.next
        (afterChoices .once exit' branches once).next
  | _, _, [], _, _, _, _ => .nil _ _
  | exit, exit', branch :: rest, position, once, h, hexits => by
      have hbranch := pairing_all branch position once h
      have hexit := Pairing.exit hexits (afterAll .loop branch position)
        (afterAll .once branch once) position.cursor once.cursor
      have hnext := (next_le_afterAll .once branch once).trans
        (Position.next_le_resume (afterAll .once branch once) exit' once.cursor)
      have hrest := pairing_choices (some ((afterAll .loop branch position).exit exit))
        (some ((afterAll .once branch once).exit exit')) rest
        ((afterAll .loop branch position).resume exit position.cursor)
        ((afterAll .once branch once).resume exit' once.cursor) (h.trans_le hnext) rfl
      have hall := (hbranch.append hexit).append hrest
      rw [List.append_nil] at hall
      rw [roundsOfChoices, List.map_append]
      exact hall

theorem pairing_directed : ∀ (exit exit' : Option State) (branches : List DirectedBranch)
    (position once : Position), once.cursor < once.next → exit'.isSome = exit.isSome →
      Pairing ((roundsOfDirected true exit branches position).map Round.head)
        (pairsOfDirected exit exit' branches position once) position.next
        (afterDirected .loop exit branches position).next once.next
        (afterDirected .once exit' branches once).next
  | _, _, [], _, _, _, _ => .nil _ _
  | exit, exit', .mk exchange body :: rest, position, once, h, hexits => by
      have hbody := pairing_all body (.fresh position.next) (.fresh once.next) (Nat.lt_succ_self _)
      have hexit := Pairing.exit hexits (afterAll .loop body (.fresh position.next))
        (afterAll .once body (.fresh once.next)) position.cursor once.cursor
      have hnext := ((Nat.le_succ _).trans (next_le_afterAll .once body (.fresh once.next))).trans
        (Position.next_le_resume (afterAll .once body (.fresh once.next)) exit' once.cursor)
      have hrest := pairing_directed
        (some ((afterAll .loop body (.fresh position.next)).exit exit))
        (some ((afterAll .once body (.fresh once.next)).exit exit')) rest
        ((afterAll .loop body (.fresh position.next)).resume exit position.cursor)
        ((afterAll .once body (.fresh once.next)).resume exit' once.cursor) (h.trans_le hnext) rfl
      have hall := (((Pairing.single position.next once.next).append hbody).append hexit).append
        hrest
      rw [List.append_nil] at hall
      rw [roundsOfDirected, List.map_append]
      exact hall

theorem pairing_regions : ∀ (branches : List (List Activity)) (next once : State),
    Pairing ((roundsWithin branches next).map Round.head) (pairsOfRegions branches next once) next
      (afterRegions .loop branches next) once (afterRegions .once branches once)
  | [], _, _ => .nil _ _
  | branch :: rest, next, once => by
      have hbranch := pairing_all branch (.fresh next) (.fresh once) (Nat.lt_succ_self _)
      have hrest := pairing_regions rest ((afterAll .loop branch (.fresh next)).next + 1)
        ((afterAll .once branch (.fresh once)).next + 1)
      have hall := (((Pairing.single next once).append hbranch).append
        (.single (afterAll .loop branch (.fresh next)).next
          (afterAll .once branch (.fresh once)).next)).append hrest
      rw [List.append_nil] at hall
      rw [roundsWithin, List.map_append]
      exact hall

end

def counterpart (pairs : List (State × State)) (state : State) : State :=
  (pairs.lookup state).getD 0

theorem lookup_eq_some_of_mem {pairs : List (State × State)} {pair : State × State}
    (hnodup : (pairs.map Prod.fst).Nodup) (h : pair ∈ pairs) :
    pairs.lookup pair.1 = some pair.2 := by
  induction pairs with
  | nil => cases h
  | cons first rest ih =>
      obtain ⟨hfresh, hrest⟩ := List.nodup_cons.mp hnodup
      rcases List.mem_cons.mp h with rfl | h
      · exact List.lookup_cons_self
      · have hne : pair.1 ≠ first.1 := fun heq => hfresh (heq ▸ List.mem_map_of_mem h)
        rw [List.lookup_cons, beq_false_of_ne hne]
        exact ih hrest h

namespace Pairing

variable {heads : List State} {pairs : List (State × State)} {next next' once once' state : State}

theorem counterpart_eq (h : Pairing heads pairs next next' once once') {pair : State × State}
    (hpair : pair ∈ pairs) : counterpart pairs pair.1 = pair.2 := by
  obtain ⟨count, -, hfst⟩ := h.allocated
  have hnodup : (pairs.map Prod.fst).Nodup := hfst ▸ List.nodup_range'
  rw [counterpart, lookup_eq_some_of_mem hnodup hpair, Option.getD_some]

theorem exists_pair (h : Pairing heads pairs next next' once once') (hle : next ≤ state)
    (hlt : state < next') : ∃ pair ∈ pairs, pair.1 = state := by
  obtain ⟨count, rfl, hfst⟩ := h.allocated
  exact List.mem_map.mp (hfst ▸ List.mem_range'_1.mpr ⟨hle, hlt⟩)

theorem counterpart_lt (h : Pairing heads pairs next next' once once') (hle : next ≤ state)
    (hlt : state < next') : counterpart pairs state < once' := by
  obtain ⟨pair, hpair, rfl⟩ := h.exists_pair hle hlt
  rw [h.counterpart_eq hpair]
  exact h.counterparts_lt pair hpair

theorem exists_counterpart_eq (h : Pairing heads pairs next next' once once') (hle : once ≤ state)
    (hlt : state < once') :
    ∃ state', next ≤ state' ∧ state' < next' ∧ counterpart pairs state' = state := by
  obtain ⟨kept, dropped, count, hdrops, -, rfl, hsnd⟩ := h.counterparts
  obtain ⟨pair, hpair, rfl⟩ := List.mem_map.mp (hsnd ▸ List.mem_range'_1.mpr ⟨hle, hlt⟩)
  have hpair' := hdrops.sublist.subset hpair
  obtain ⟨total, rfl, hfst⟩ := h.allocated
  obtain ⟨hfirst, hlast⟩ := List.mem_range'_1.mp (hfst ▸ List.mem_map_of_mem hpair')
  exact ⟨pair.1, hfirst, hlast, h.counterpart_eq hpair'⟩

/-- Away from the heads the counterparts are in the order of the states. -/
theorem counterpart_lt_counterpart (h : Pairing heads pairs next next' once once')
    {first second : State} (hle : next ≤ first) (hfirst : first ∉ heads) (hsecond : second ∉ heads)
    (hlt : first < second) (hlast : second < next') :
    counterpart pairs first < counterpart pairs second := by
  obtain ⟨kept, dropped, _, hdrops, rfl, rfl, hsnd⟩ := h.counterparts
  obtain ⟨_, -, hfst⟩ := h.allocated
  have hkept : ∀ pair ∈ pairs, pair.1 ∉ dropped.map Prod.fst → pair ∈ kept := by
    intro pair hpair hhead
    exact hdrops.mem_kept hpair fun hdropped => hhead (List.mem_map_of_mem hdropped)
  have hstates : kept.Pairwise fun pair pair' => pair.1 < pair'.1 :=
    (List.pairwise_map.mp (hfst ▸ List.pairwise_lt_range')).sublist hdrops.sublist
  have hcounterparts : kept.Pairwise fun pair pair' => pair.2 < pair'.2 :=
    List.pairwise_map.mp (hsnd ▸ List.pairwise_lt_range')
  -- Both the states and the counterparts of the kept pairs are listed in ascending order.
  have hordered : ∀ pair ∈ kept, ∀ pair' ∈ kept, pair.1 < pair'.1 → pair.2 < pair'.2 := by
    refine List.Pairwise.forall_of_forall_of_flip ?_ ?_ ?_
    · exact fun _ _ hself => absurd hself (lt_irrefl _)
    · refine hcounterparts.imp ?_
      exact fun hbefore _ => hbefore
    · refine hstates.imp ?_
      exact fun hbefore hafter => absurd hbefore (lt_asymm hafter)
  obtain ⟨pair, hpair, rfl⟩ := h.exists_pair hle (hlt.trans hlast)
  obtain ⟨pair', hpair', rfl⟩ := h.exists_pair (hle.trans hlt.le) hlast
  rw [h.counterpart_eq hpair, h.counterpart_eq hpair']
  exact hordered pair (hkept pair hpair hfirst) pair' (hkept pair' hpair' hsecond) hlt

end Pairing

end Conversation

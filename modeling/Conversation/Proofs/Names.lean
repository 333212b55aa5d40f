import Conversation.Proofs.Anchors
import Conversation.Proofs.TableKeys

namespace Conversation

namespace Text

theorem takeWhile_isDigit_reverse {lead : List Char} {c : Char} (hc : c.isDigit = false) (n : Nat) :
    (lead ++ c :: digits 10 n).reverse.takeWhile Char.isDigit = (digits 10 n).reverse := by
  have hdigits : ∀ d ∈ (digits 10 n).reverse, d.isDigit = true := by
    intro d hd
    exact isDigit_of_mem_digits (List.mem_reverse.mp hd)
  rw [List.reverse_append, List.reverse_cons, List.append_assoc,
    List.takeWhile_append_of_pos hdigits]
  simp [hc]

/-- A numeral at the end of a text can be read off, if no digit stands before it. -/
theorem numeral_inj {lead lead' : List Char} {c c' : Char} {first second : Nat}
    (hc : c.isDigit = false) (hc' : c'.isDigit = false)
    (h : lead ++ c :: digits 10 first = lead' ++ c' :: digits 10 second) : first = second := by
  have hrun := congrArg (fun text => text.reverse.takeWhile Char.isDigit) h
  simp only [takeWhile_isDigit_reverse hc, takeWhile_isDigit_reverse hc'] at hrun
  exact digits_inj (List.reverse_injective hrun)

end Text

/-- The name of a state by a table of anchors, found by following the table as long as it goes. -/
inductive Table.Spells (anchors : Table State) : State → String → Prop
  | outermost {state : State} : find? state anchors = none → Spells anchors state state.text
  | hanging {state anchor : State} {name : String} :
      find? state anchors = some anchor → Spells anchors anchor name →
      Spells anchors state (name ++ "_" ++ Text.decimal state)

def Table.Older (anchors : Table State) : Prop :=
  ∀ state anchor, find? state anchors = some anchor → anchor < state

theorem Table.find?_erase {α : Type} (state other : State) (table : Table α) :
    find? other (erase state table) = if other = state then none else find? other table := by
  induction table with
  | nil => simp [erase, find?]
  | cons entry rest ih =>
      obtain ⟨key, value⟩ := entry
      rw [erase] at ih ⊢
      by_cases hkey : key = state
      · rw [List.filter_cons_of_neg (by simpa using hkey), ih, find?]
        split
        · rfl
        · next hne => rw [if_neg (fun heq => hne (heq.symm.trans hkey))]
      · rw [List.filter_cons_of_pos (by simpa using hkey), find?, find?, ih]
        by_cases hother : key = other
        · simp [hother, hother ▸ hkey]
        · simp [hother]

theorem Table.Older.erase {anchors : Table State} (h : Older anchors) (state : State) :
    Older (Table.erase state anchors) := by
  intro other anchor hfind
  rw [Table.find?_erase] at hfind
  split at hfind
  · cases hfind
  · exact h other anchor hfind

namespace Automaton

variable {anchors anchors' : Table State} {state anchor : State}

theorem nameBy_of_none (h : Table.find? state anchors = none) :
    nameBy anchors state = state.text := by
  rw [nameBy]
  split
  · next hfind => rw [h] at hfind; cases hfind
  · rfl

theorem nameBy_of_some (h : Table.find? state anchors = some anchor) :
    nameBy anchors state =
      nameBy (Table.erase state anchors) anchor ++ "_" ++ Text.decimal state := by
  rw [nameBy]
  split
  · next hfind =>
      rw [h] at hfind
      cases hfind
      rfl
  · next hfind => rw [h] at hfind; cases hfind

theorem nameBy_congr (holder : Table.Older anchors) (holder' : Table.Older anchors')
    (hsame : ∀ other ≤ state, Table.find? other anchors = Table.find? other anchors') :
    nameBy anchors state = nameBy anchors' state := by
  induction state using Nat.strong_induction_on generalizing anchors anchors' with
  | _ state ih =>
      cases hfind : Table.find? state anchors with
      | none => rw [nameBy_of_none hfind, nameBy_of_none ((hsame state le_rfl).symm.trans hfind)]
      | some anchor =>
          have hlt := holder state anchor hfind
          rw [nameBy_of_some hfind, nameBy_of_some ((hsame state le_rfl).symm.trans hfind),
            ih anchor hlt (holder.erase state) (holder'.erase state)]
          intro other hle
          have hne : other ≠ state := ne_of_lt (hle.trans_lt hlt)
          rw [Table.find?_erase, Table.find?_erase, if_neg hne, if_neg hne]
          exact hsame other (hle.trans hlt.le)

theorem nameBy_hanging (holder : Table.Older anchors) (h : Table.find? state anchors = some anchor) :
    nameBy anchors state = nameBy anchors anchor ++ "_" ++ Text.decimal state := by
  rw [nameBy_of_some h, nameBy_congr (holder.erase state) holder]
  intro other hle
  rw [Table.find?_erase, if_neg (ne_of_lt (hle.trans_lt (holder state anchor h)))]

/-- Where anchors are older than what hangs off them, following the table comes to an end for every
state, and gives its name. -/
theorem spells_nameBy (holder : Table.Older anchors) (state : State) :
    Table.Spells anchors state (nameBy anchors state) := by
  induction state using Nat.strong_induction_on with
  | _ state ih =>
      cases hfind : Table.find? state anchors with
      | none =>
          rw [nameBy_of_none hfind]
          exact .outermost hfind
      | some anchor =>
          rw [nameBy_hanging holder hfind]
          exact .hanging hfind (ih anchor (holder state anchor hfind))

/-- A name ends with the numeral of its state, before which there is no digit. -/
theorem exists_lead_of_nameBy (anchors : Table State) (state : State) :
    ∃ lead c, c.isDigit = false ∧
      (nameBy anchors state).toList = lead ++ c :: Text.digits 10 state := by
  cases hfind : Table.find? state anchors with
  | none =>
      refine ⟨[], 's', rfl, ?_⟩
      rw [nameBy_of_none hfind, State.text, Text.decimal]
      simp
  | some anchor =>
      refine ⟨(nameBy (Table.erase state anchors) anchor).toList, '_', rfl, ?_⟩
      rw [nameBy_of_some hfind, Text.decimal]
      simp

theorem displayName_injective (automaton : Automaton) :
    Function.Injective automaton.displayName := by
  intro first second h
  obtain ⟨lead, c, hc, hfirst⟩ := exists_lead_of_nameBy automaton.anchors first
  obtain ⟨lead', c', hc', hsecond⟩ := exists_lead_of_nameBy automaton.anchors second
  have hlists := congrArg String.toList h
  rw [displayName, displayName, hfirst, hsecond] at hlists
  exact Text.numeral_inj hc hc' hlists

end Automaton

/-- The name of a state in a parallel branch, which is reached through regions under the states of
a path, the outermost first. -/
def State.nameWithin (path : List State) (state : State) : String :=
  "s" ++ "_".intercalate ((path ++ [state]).map Text.decimal)

theorem State.nameWithin_nil (state : State) : State.nameWithin [] state = state.text := by
  simp [nameWithin, text]

theorem State.nameWithin_concat (path : List State) (anchor state : State) :
    State.nameWithin (path ++ [anchor]) state =
      State.nameWithin path anchor ++ "_" ++ Text.decimal state := by
  rw [nameWithin, nameWithin, List.map_append, List.map_singleton,
    String.intercalate_append_of_ne_nil (by simp) (by simp), String.intercalate_singleton]
  simp only [String.append_assoc]

namespace Automaton

/-- The member is reached from the automaton through regions under the states of the path, the
outermost first. -/
inductive Nests (automaton : Automaton) : List State → Automaton → Prop
  | self : Nests automaton [] automaton
  | branch {path : List State} {member inner : Automaton} {region : State × List Automaton} :
      Nests automaton path member → region ∈ member.nested → inner ∈ region.2 →
      Nests automaton (path ++ [region.1]) inner

variable {automaton member : Automaton} {path : List State} {arena : Arena}

theorem Nests.cons {inner : Automaton} {region : State × List Automaton}
    (hregion : region ∈ automaton.nested) (hinner : inner ∈ region.2) (h : inner.Nests path member) :
    automaton.Nests (region.1 :: path) member := by
  induction h with
  | self => exact .branch .self hregion hinner
  | branch _ hregion' hmember ih => exact ih.branch hregion' hmember

theorem Nests.mem_family (h : automaton.Nests path member) : member ∈ automaton.family := by
  induction h with
  | self => exact automaton.self_mem_family
  | branch _ hregion hinner ih =>
      have hbranch := List.mem_flatMap.mpr ⟨_, hregion, hinner⟩
      exact family_subset ih (branch_family_subset hbranch (self_mem_family _))

theorem exists_nests_of_mem_family {automaton member : Automaton} (h : member ∈ automaton.family) :
    ∃ path, automaton.Nests path member := by
  rw [automaton.family_eq, List.mem_cons] at h
  rcases h with rfl | h
  · exact ⟨[], .self⟩
  · obtain ⟨branch, hbranch, hmember⟩ := List.mem_flatMap.mp h
    obtain ⟨region, hregion, hinner⟩ := List.mem_flatMap.mp hbranch
    have := sizeOf_lt_of_mem_branches hbranch
    obtain ⟨path, hpath⟩ := exists_nests_of_mem_family hmember
    exact ⟨region.1 :: path, hpath.cons hregion hinner⟩
termination_by sizeOf automaton

theorem Nests.hangsOff (h : automaton.Nests path member) (hhangs : automaton.HangsOff arena none) :
    member.HangsOff arena path.getLast? := by
  induction h with
  | self => exact hhangs
  | branch _ hregion hinner ih =>
      obtain ⟨-, hbranches⟩ := ih
      rw [List.getLast?_concat]
      exact hbranches _ hregion _ hinner

theorem Nests.nameBy_eq (h : automaton.Nests path member)
    (hhangs : automaton.HangsOff arena none) (hordered : arena.Ordered)
    (hown : ∀ member ∈ automaton.family, ∀ region ∈ member.nested, region.1 ∈ member.states) :
    ∀ state ∈ member.states, nameBy arena.anchors state = state.nameWithin path := by
  have holder : Table.Older arena.anchors :=
    fun state anchor hfind => (hordered state anchor hfind).1
  induction h with
  | self =>
      obtain ⟨hstates, -⟩ := hhangs
      intro state hstate
      rw [nameBy_of_none (hstates state hstate).2, State.nameWithin_nil]
  | @branch path member inner region hnests hregion hinner ih =>
      obtain ⟨hstates, -⟩ := (hnests.branch hregion hinner).hangsOff hhangs
      rw [List.getLast?_concat] at hstates
      intro state hstate
      rw [nameBy_hanging holder (hstates state hstate).2, State.nameWithin_concat,
        ih region.1 (hown member hnests.mem_family region hregion)]

end Automaton

namespace Protocol

variable {protocol : Protocol} {options : CompileOptions} {automaton : Automaton}

/-- A compiled automaton names the states of the whole family. Looking up a name comes to an end,
and gives the anchors of the parallel branches around the state, the outermost first, and the state
itself. All automata of the family are reached through regions, and no two of their states have the
same name. -/
theorem names_of_compile (h : protocol.compile options = .ok automaton) :
    (∀ path member, automaton.Nests path member → ∀ state ∈ member.states,
      automaton.anchors.Spells state (automaton.displayName state) ∧
        automaton.displayName state = state.nameWithin path) ∧
    (∀ member, member ∈ automaton.family ↔ ∃ path, automaton.Nests path member) ∧
    (automaton.allStates.map automaton.displayName).Nodup := by
  obtain ⟨arena, hanchors, hordered, hhangs⟩ := hangsOff_of_compile h
  have holder : Table.Older automaton.anchors := by
    intro state anchor hfind
    rw [← hanchors] at hfind
    exact (hordered state anchor hfind).1
  have hown : ∀ member ∈ automaton.family, ∀ region ∈ member.nested, region.1 ∈ member.states := by
    intro member hmember
    obtain ⟨next, hcoherent⟩ := coherent_of_mem_family h member hmember
    exact hcoherent.nested_own
  refine ⟨?_, ?_, ?_⟩
  · intro path member hnests state hstate
    have hname := hnests.nameBy_eq hhangs hordered hown state hstate
    rw [hanchors] at hname
    exact ⟨Automaton.spells_nameBy holder state, hname⟩
  · exact fun member => ⟨Automaton.exists_nests_of_mem_family, fun ⟨_, hnests⟩ => hnests.mem_family⟩
  · exact (nodup_allStates_of_compile h).map automaton.displayName_injective

end Protocol

/-- A parallel branch within another one, which is built inside of a recursion. -/
def committee : Protocol :=
  .bare "Committee"
    [.parallel
      [[.interaction (.bare .send (some "question") ⟨"Member"⟩),
          .recursion "round"
            [.parallel
              [[.interaction (.bare .receive (some "vote") ⟨"Member"⟩)],
                [.interaction (.bare .receive (some "comment") ⟨"Member"⟩)]]]],
        [.interaction (.bare .send (some "agenda") ⟨"Guest"⟩)]]]

theorem committee_names : ∃ automaton, committee.compile ⟨.loop⟩ = .ok automaton ∧
    (∀ path member, automaton.Nests path member → ∀ state ∈ member.states,
      automaton.anchors.Spells state (automaton.displayName state) ∧
        automaton.displayName state = state.nameWithin path) ∧
    (∀ member, member ∈ automaton.family ↔ ∃ path, automaton.Nests path member) ∧
    (automaton.allStates.map automaton.displayName).Nodup := by
  have hok : (committee.compile ⟨.loop⟩).isOk = true := by decide +kernel
  obtain ⟨automaton, hcompile⟩ := Protocol.exists_eq_ok hok
  exact ⟨automaton, hcompile, Protocol.names_of_compile hcompile⟩

example : (committee.compile ⟨.loop⟩).toOption.map
    (fun automaton => (automaton.displayName 10, automaton.displayName 14)) =
      some ("s0_3_10", "s0_14") := by
  decide +kernel

end Conversation

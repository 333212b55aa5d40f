import Mathlib.Tactic
import Conversation.Proofs.Families
import Conversation.Proofs.RoundTrip
import Conversation.Proofs.TableKeys

namespace Conversation

open Json (Decoder Field Fields Variant)

def Transition.mapGuard (f : Assertion → Assertion) (transition : Transition) : Transition :=
  { transition with guard := transition.guard.map f }

def Interrupt.mapGuard (f : Assertion → Assertion) (interrupt : Interrupt) : Interrupt :=
  { interrupt with transition := interrupt.transition.mapGuard f }

mutual

/-- The automaton with all guards in it changed, at every depth. -/
def Automaton.mapGuards (f : Assertion → Assertion) : Automaton → Automaton
  | { name, checksum, initial, states, transitions, finals, roles, nested, interrupts, dispatch,
      anchors } =>
    { name := name
      checksum := checksum
      initial := initial
      states := states
      transitions := transitions.map (Transition.mapGuard f)
      finals := finals
      roles := roles
      nested := mapGuardsOfRegions f nested
      interrupts := interrupts.map (Interrupt.mapGuard f)
      dispatch := dispatch
      anchors := anchors }

def mapGuardsOfRegions (f : Assertion → Assertion) :
    List (State × List Automaton) → List (State × List Automaton)
  | [] => []
  | (anchor, branches) :: rest =>
      (anchor, mapGuardsOfAutomata f branches) :: mapGuardsOfRegions f rest

def mapGuardsOfAutomata (f : Assertion → Assertion) : List Automaton → List Automaton
  | [] => []
  | branch :: rest => branch.mapGuards f :: mapGuardsOfAutomata f rest

end

theorem mapGuardsOfAutomata_eq_map (f : Assertion → Assertion) (branches : List Automaton) :
    mapGuardsOfAutomata f branches = branches.map (Automaton.mapGuards f) := by
  induction branches with
  | nil => rfl
  | cons branch rest ih => rw [mapGuardsOfAutomata, ih, List.map_cons]

theorem mapGuardsOfRegions_eq_map (f : Assertion → Assertion)
    (regions : List (State × List Automaton)) :
    mapGuardsOfRegions f regions =
      regions.map (Prod.map id (List.map (Automaton.mapGuards f))) := by
  induction regions with
  | nil => rfl
  | cons region rest ih =>
      obtain ⟨anchor, branches⟩ := region
      rw [mapGuardsOfRegions, ih, mapGuardsOfAutomata_eq_map, List.map_cons]
      rfl

@[mk_iff]
structure Transition.Representable (transition : Transition) : Prop where
  source : State.Fits transition.source
  target : State.Fits transition.target

/-- The automaton itself, without those nested in it, is one: its states fit 32 bits, and its set
and its tables list theirs in ascending order. -/
@[mk_iff]
structure Automaton.Representable (automaton : Automaton) : Prop where
  initial : State.Fits automaton.initial
  states : ∀ state ∈ automaton.states, State.Fits state
  transitions : ∀ transition ∈ automaton.transitions, transition.Representable
  finals : ∀ state ∈ automaton.finals, State.Fits state
  finals_ascending : automaton.finals.Pairwise (· < ·)
  nested : ∀ region ∈ automaton.nested, State.Fits region.1
  nested_ascending : (automaton.nested.map Prod.fst).Pairwise (· < ·)
  interrupts : ∀ interrupt ∈ automaton.interrupts,
    State.Fits interrupt.anchor ∧ interrupt.transition.Representable
  dispatch : ∀ row ∈ automaton.dispatch,
    State.Fits row.1 ∧ ∀ entry ∈ row.2, State.Fits entry.target
  dispatch_ascending : (automaton.dispatch.map Prod.fst).Pairwise (· < ·)
  anchors : ∀ row ∈ automaton.anchors, State.Fits row.1 ∧ State.Fits row.2
  anchors_ascending : (automaton.anchors.map Prod.fst).Pairwise (· < ·)

instance (transition : Transition) : Decidable transition.Representable :=
  decidable_of_iff _ (Transition.representable_iff transition).symm

instance (automaton : Automaton) : Decidable automaton.Representable :=
  decidable_of_iff _ (Automaton.representable_iff automaton).symm

theorem Message.ofJson_toJson (message : Message) :
    Message.decoder.ofJson message.toJson = .ok message := by
  obtain ⟨direction, label, partner⟩ := message
  refine Decoder.record_ofJson (by decide) ?_ ?_
  · have hkeys : List.Sublist _ ["direction", "label", "partner"] :=
      ((Json.keys_member? "label" Json.string label).append
        (List.Sublist.refl ["partner"])).cons_cons "direction"
    simp only [List.map_cons, List.map_append]
    exact hkeys.nodup (by decide)
  · rw [Fields.ofMembers_required _ (by simp) direction.ofJson_toJson,
      Fields.ofMembers_optional Json.string id label,
      Fields.ofMembers_required _ _ partner.ofJson_toJson]
    · simp [Fields.ofMembers]
    · simp [List.lookup_cons, List.lookup_append, Json.lookup_member?]
    · simp [List.lookup_cons, List.lookup_append, Json.lookup_member?]
    · exact fun label => rfl

theorem Label.ofJson_toJson (label : Label) : Label.decoder.ofJson label.toJson = .ok label := by
  cases label with
  | message shown =>
      rw [Label.decoder, Label.toJson, Decoder.variant_ofJson rfl]
      show (Decoder.map Label.message _).ofJson _ = _
      rw [Decoder.map_ofJson, shown.ofJson_toJson]
      rfl
  | silent => rfl
  | parallelEnd => rfl

theorem Transition.ofJson_toJson {transition : Transition} (h : transition.Representable) :
    Transition.decoder.ofJson transition.toJson =
      .ok (transition.mapGuard Assertion.reread) := by
  obtain ⟨source, label, target, guard, payload⟩ := transition
  refine Decoder.record_ofJson (by decide) ?_ ?_
  · have hkeys : List.Sublist _ (["from", "label", "to"] ++ ["guard"] ++ ["payload"]) :=
      ((List.Sublist.refl ["from", "label", "to"]).append
        (Json.keys_member? "guard" Assertion.toJson guard)).append
        (Json.keys_member? "payload" (Json.list ValueDecl.toJson) payload)
    simp only [List.map_append]
    exact hkeys.nodup (by decide)
  · rw [Fields.ofMembers_required _ (by simp) (Decoder.state_ofJson h.source),
      Fields.ofMembers_required _ (by simp [List.lookup_cons]) label.ofJson_toJson,
      Fields.ofMembers_required _ (by simp [List.lookup_cons]) (Decoder.state_ofJson h.target),
      Fields.ofMembers_optional Assertion.toJson Assertion.reread guard,
      Fields.ofMembers_optional (Json.list ValueDecl.toJson) id payload]
    · simp [Fields.ofMembers, mapGuard]
    · simp [List.lookup_cons, List.lookup_append, Json.lookup_member?]
    · intro decls
      have hread := Decoder.list_ofJson (f := id) fun decl (_ : decl ∈ decls) => decl.ofJson_toJson
      rw [List.map_id] at hread
      exact congrArg (Except.map some) hread
    · simp [List.lookup_cons, List.lookup_append, Json.lookup_member?]
    · exact fun guard => rfl

theorem Interrupt.ofJson_toJson {interrupt : Interrupt} (hanchor : State.Fits interrupt.anchor)
    (htransition : interrupt.transition.Representable) :
    Interrupt.decoder.ofJson interrupt.toJson = .ok (interrupt.mapGuard Assertion.reread) := by
  obtain ⟨anchor, transition⟩ := interrupt
  refine Decoder.record_ofJson (by decide) (by simp) ?_
  rw [Fields.ofMembers_required _ (by simp) (Decoder.state_ofJson hanchor),
    Fields.ofMembers_required _ (by simp [List.lookup_cons]) (transition.ofJson_toJson htransition)]
  rfl

theorem PayloadType.ofJson_orNull (type : Option PayloadType) :
    PayloadType.decoder.optional.ofJson (Json.orNull PayloadType.toJson type) = .ok type := by
  rcases type with _ | _ | _ <;> rfl

theorem DispatchKey.ofJson_toJson (key : DispatchKey) :
    DispatchKey.decoder.ofJson key.toJson = .ok key := by
  obtain ⟨label, types⟩ := key
  refine Decoder.record_ofJson (by decide) ?_ ?_
  · have hkeys : List.Sublist _ (["label"] ++ ["types"]) :=
      (Json.keys_member? "label" Json.string label).append (List.Sublist.refl ["types"])
    simp only [List.map_append]
    exact hkeys.nodup (by decide)
  · rw [Fields.ofMembers_optional Json.string id label,
      Fields.ofMembers_required _ (by simp [List.lookup_append, Json.lookup_member?])
        (Decoder.list_ofJson (f := id) fun type (_ : type ∈ types) =>
          PayloadType.ofJson_orNull type)]
    · simp [Fields.ofMembers]
    · simp [List.lookup_cons, List.lookup_append, Json.lookup_member?]
    · exact fun label => rfl

theorem DispatchEntry.ofJson_toJson {entry : DispatchEntry} (h : State.Fits entry.target) :
    DispatchEntry.decoder.ofJson entry.toJson = .ok entry := by
  obtain ⟨key, target⟩ := entry
  refine Decoder.record_ofJson (by decide) (by simp) ?_
  rw [Fields.ofMembers_required _ (by simp) key.ofJson_toJson,
    Fields.ofMembers_required _ (by simp [List.lookup_cons]) (Decoder.state_ofJson h)]
  rfl

theorem Json.Decoder.list_ofJson_self {α : Type} {decode : Decoder α} {encode : α → Json}
    {elements : List α} (hreads : ∀ element ∈ elements,
      decode.ofJson (encode element) = .ok element) :
    (Decoder.list decode).ofJson (Json.list encode elements) = .ok elements := by
  rw [Decoder.list_ofJson (f := id) hreads, List.map_id]

theorem array_encodeAutomata (branches : List Automaton) :
    .array (encodeAutomata branches) = Json.list Automaton.toJson branches := by
  rw [Json.list, Json.array.injEq]
  induction branches with
  | nil => rfl
  | cons branch rest ih => rw [encodeAutomata, ih, List.map_cons]

theorem object_encodeRegions (regions : List (State × List Automaton)) :
    .object (encodeRegions regions) = Json.table (Json.list Automaton.toJson) regions := by
  rw [Json.table, Json.object.injEq]
  induction regions with
  | nil => rfl
  | cons region rest ih =>
      obtain ⟨anchor, branches⟩ := region
      rw [encodeRegions, ih, array_encodeAutomata, List.map_cons]

namespace Automaton

def members (automaton : Automaton) : List (String × Json) :=
  Json.member? "name" .string automaton.name
    ++ Json.member? "checksum" .string automaton.checksum
    ++ [("initial", .nat automaton.initial), ("states", Json.list .nat automaton.states),
      ("transitions", Json.list Transition.toJson automaton.transitions),
      ("finals", Json.list .nat automaton.finals),
      ("roles", Json.list Role.toJson automaton.roles)]
    ++ Json.tableMember? "nested" (Json.list toJson) automaton.nested
    ++ Json.listMember? "interrupts" Interrupt.toJson automaton.interrupts
    ++ Json.tableMember? "dispatch" (Json.list DispatchEntry.toJson) automaton.dispatch
    ++ Json.tableMember? "anchors" .nat automaton.anchors

theorem toJson_eq (automaton : Automaton) : automaton.toJson = .object automaton.members := by
  obtain ⟨name, checksum, initial, states, transitions, finals, roles, nested, interrupts,
    dispatch, anchors⟩ := automaton
  cases nested with
  | nil => rw [toJson, members, Json.tableMember?]
  | cons region rest =>
      obtain ⟨anchor, branches⟩ := region
      have hnested := object_encodeRegions ((anchor, branches) :: rest)
      rw [encodeRegions] at hnested
      simp only [toJson, members, hnested]
      rfl

theorem nodup_keys_members (automaton : Automaton) :
    (automaton.members.map Prod.fst).Nodup := by
  have hkeys : List.Sublist _ (["name"] ++ ["checksum"] ++ ["initial", "states", "transitions",
      "finals", "roles"] ++ ["nested"] ++ ["interrupts"] ++ ["dispatch"] ++ ["anchors"]) :=
    ((((((Json.keys_member? "name" Json.string automaton.name).append
      (Json.keys_member? "checksum" Json.string automaton.checksum)).append
      (List.Sublist.refl ["initial", "states", "transitions", "finals", "roles"])).append
      (Json.keys_tableMember? "nested" (Json.list toJson) automaton.nested)).append
      (Json.keys_listMember? "interrupts" Interrupt.toJson automaton.interrupts)).append
      (Json.keys_tableMember? "dispatch" (Json.list DispatchEntry.toJson)
        automaton.dispatch)).append
      (Json.keys_tableMember? "anchors" Json.nat automaton.anchors)
  simp only [members, List.map_append]
  exact hkeys.nodup (by decide)

theorem levels_lt_of_mem_nested {automaton : Automaton} (h : automaton.Representable)
    {region : State × List Automaton} (hregion : region ∈ automaton.nested) {branch : Automaton}
    (hbranch : branch ∈ region.2) : branch.toJson.levels < automaton.toJson.levels := by
  have hitem : branch.toJson.levels < (Json.list toJson region.2).levels :=
    Json.levels_lt_of_mem_array (List.mem_map_of_mem hbranch)
  have hrow := Json.levels_lt_of_mem_object (Text.decimal region.1, Json.list toJson region.2)
    (Json.nodup_keys_table (Json.list toJson) h.nested_ascending)
    (List.mem_map_of_mem hregion)
  have hmember : ("nested", Json.table (Json.list toJson) automaton.nested) ∈
      automaton.members := by
    cases hnested : automaton.nested with
    | nil => simp [hnested] at hregion
    | cons first rest => simp [members, hnested, Json.tableMember?, Json.table]
  have htable := Json.levels_lt_of_mem_object _ automaton.nodup_keys_members hmember
  rw [← toJson_eq] at htable
  exact (hitem.trans hrow).trans htable

theorem levels_pos (automaton : Automaton) : 0 < automaton.toJson.levels := by
  rw [toJson_eq]
  exact Nat.succ_pos _

namespace Representable

variable {automaton : Automaton} (h : automaton.Representable)

include h

theorem states_ofJson :
    (Decoder.list .state).ofJson (Json.list .nat automaton.states) = .ok automaton.states :=
  Decoder.list_ofJson_self fun state hstate => Decoder.state_ofJson (h.states state hstate)

theorem transitions_ofJson :
    (Decoder.list Transition.decoder).ofJson
        (Json.list Transition.toJson automaton.transitions) =
      .ok (automaton.transitions.map (Transition.mapGuard Assertion.reread)) :=
  Decoder.list_ofJson fun transition htransition =>
    transition.ofJson_toJson (h.transitions transition htransition)

theorem finals_ofJson :
    Decoder.stateSet.ofJson (Json.list .nat automaton.finals) = .ok automaton.finals := by
  have hlist := Decoder.list_ofJson_self fun state hstate =>
    Decoder.state_ofJson (h.finals state hstate)
  rw [Decoder.stateSet, Decoder.map_ofJson, hlist, Except.map,
    StateSet.ofList_eq_self h.finals_ascending]

theorem interrupts_ofJson :
    (Decoder.list Interrupt.decoder).ofJson (Json.list Interrupt.toJson automaton.interrupts) =
      .ok (automaton.interrupts.map (Interrupt.mapGuard Assertion.reread)) :=
  Decoder.list_ofJson fun interrupt hinterrupt =>
    interrupt.ofJson_toJson (h.interrupts interrupt hinterrupt).1
      (h.interrupts interrupt hinterrupt).2

theorem dispatch_ofJson :
    (Decoder.table (.list DispatchEntry.decoder)).ofJson
        (Json.table (Json.list DispatchEntry.toJson) automaton.dispatch) =
      .ok (automaton.dispatch.map id) := by
  have hrows := Decoder.table_ofJson (f := id) (fun row hrow => (h.dispatch row hrow).1)
    h.dispatch_ascending fun row hrow => Decoder.list_ofJson_self fun entry hentry =>
      entry.ofJson_toJson ((h.dispatch row hrow).2 entry hentry)
  rwa [Prod.map_id] at hrows

theorem anchors_ofJson :
    (Decoder.table .state).ofJson (Json.table .nat automaton.anchors) =
      .ok (automaton.anchors.map id) := by
  have hrows := Decoder.table_ofJson (f := id) (fun row hrow => (h.anchors row hrow).1)
    h.anchors_ascending fun row hrow => Decoder.state_ofJson (h.anchors row hrow).2
  rwa [Prod.map_id] at hrows

end Representable

theorem lookup_members (automaton : Automaton) (name : String) :
    automaton.members.lookup name =
      match name with
      | "name" => automaton.name.map .string
      | "checksum" => automaton.checksum.map .string
      | "initial" => some (.nat automaton.initial)
      | "states" => some (Json.list .nat automaton.states)
      | "transitions" => some (Json.list Transition.toJson automaton.transitions)
      | "finals" => some (Json.list .nat automaton.finals)
      | "roles" => some (Json.list Role.toJson automaton.roles)
      | "nested" =>
          if automaton.nested = [] then none
          else some (Json.table (Json.list toJson) automaton.nested)
      | "interrupts" =>
          if automaton.interrupts = [] then none
          else some (Json.list Interrupt.toJson automaton.interrupts)
      | "dispatch" =>
          if automaton.dispatch = [] then none
          else some (Json.table (Json.list DispatchEntry.toJson) automaton.dispatch)
      | "anchors" =>
          if automaton.anchors = [] then none else some (Json.table .nat automaton.anchors)
      | _ => none := by
  split <;> simp_all [members, List.lookup_append, List.lookup_cons, Json.lookup_member?,
    Json.lookup_listMember?, Json.lookup_tableMember?, beq_eq_decide]

theorem readsWithin (automaton : Automaton)
    (hfamily : ∀ member ∈ automaton.family, member.Representable) (height : Nat)
    (hlow : automaton.toJson.levels ≤ height) :
    (decoderWithin height).ofJson automaton.toJson =
      .ok (automaton.mapGuards Assertion.reread) := by
  obtain _ | height := height
  · exact absurd automaton.levels_pos (by omega)
  have hself : automaton.Representable := hfamily _ (family_eq automaton ▸ List.mem_cons_self)
  have hbranches : ∀ region ∈ automaton.nested,
      (Decoder.list (decoderWithin height)).ofJson (Json.list toJson region.2) =
        .ok (region.2.map (mapGuards Assertion.reread)) := by
    intro region hregion
    refine Decoder.list_ofJson fun branch hbranch => ?_
    have hmember : branch ∈ automaton.branches := List.mem_flatMap.mpr ⟨region, hregion, hbranch⟩
    have hsize := sizeOf_lt_of_mem_branches hmember
    have hlevels := levels_lt_of_mem_nested hself hregion hbranch
    refine readsWithin branch (fun member h => hfamily member ?_) height (by omega)
    rw [family_eq]
    exact List.mem_cons_of_mem _ (List.mem_flatMap.mpr ⟨branch, hmember, h⟩)
  have hnested := Decoder.table_ofJson hself.nested hself.nested_ascending hbranches
  rw [toJson_eq, decoderWithin]
  refine Decoder.record_ofJson (by simp [Fields.names, Field.required, Field.optional,
    Field.defaulted]) automaton.nodup_keys_members ?_
  have hlookup := automaton.lookup_members
  rw [Fields.ofMembers_optional Json.string id automaton.name (hlookup _) fun _ => rfl,
    Fields.ofMembers_optional Json.string id automaton.checksum (hlookup _) fun _ => rfl,
    Fields.ofMembers_required _ (hlookup _) (Decoder.state_ofJson hself.initial),
    Fields.ofMembers_required _ (hlookup _) hself.states_ofJson,
    Fields.ofMembers_required _ (hlookup _) hself.transitions_ofJson,
    Fields.ofMembers_required _ (hlookup _) hself.finals_ofJson,
    Fields.ofMembers_defaulted (hlookup _)
      (Decoder.list_ofJson_self fun role (_ : role ∈ automaton.roles) => role.ofJson_toJson),
    Fields.ofMembers_list (Json.table (Json.list toJson))
      (Prod.map id (List.map (mapGuards Assertion.reread))) automaton.nested (hlookup _)
      fun _ => hnested,
    Fields.ofMembers_list (Json.list Interrupt.toJson) (Interrupt.mapGuard Assertion.reread)
      automaton.interrupts (hlookup _) fun _ => hself.interrupts_ofJson,
    Fields.ofMembers_list (Json.table (Json.list DispatchEntry.toJson)) id
      automaton.dispatch (hlookup _) fun _ => hself.dispatch_ofJson,
    Fields.ofMembers_list (Json.table Json.nat) id automaton.anchors (hlookup _)
      fun _ => hself.anchors_ofJson]
  obtain ⟨name, checksum, initial, states, transitions, finals, roles, nested, interrupts,
    dispatch, anchors⟩ := automaton
  simp [Fields.ofMembers, mapGuards, mapGuardsOfRegions_eq_map]
termination_by sizeOf automaton

/-- A written automaton is always read again, and nothing in it has changed except that every
guard is stripped once more. -/
theorem ofJson_toJson_of_representable (automaton : Automaton)
    (hfamily : ∀ member ∈ automaton.family, member.Representable) :
    ofJson automaton.toJson = .ok (automaton.mapGuards Assertion.reread) :=
  automaton.readsWithin hfamily _ le_rfl

def stopped (initial : State) : Automaton :=
  { single initial with finals := [initial] }

/-- An automaton with regions at the states 9 and 10, of which the second comes first in the order
of the texts. -/
def junction : Automaton where
  name := some "Junction"
  checksum := none
  initial := 9
  states := [9, 10, 11, 12]
  transitions :=
    [⟨9, .message ⟨.receive, none, ⟨"Buyer"⟩⟩, 10, some ⟨"x in \x7b1,2\x7d"⟩, some []⟩,
      .silent 10 12]
  finals := [9, 12]
  roles := [⟨"Seller"⟩, ⟨"Buyer"⟩]
  nested :=
    [(9, [stopped 13]),
      (10, [{ stopped 14 with nested := [(14, [stopped 15])] }, stopped 16])]
  interrupts :=
    [⟨9, ⟨11, .message ⟨.receive, some "stop", ⟨"Buyer"⟩⟩, 12, some ⟨"late"⟩, none⟩⟩]
  dispatch := [(9, [⟨⟨none, [none, some .int]⟩, 10⟩]), (11, [])]
  anchors := [(13, 9), (14, 10), (16, 10)]

/-- It is read again with the brace at the end of its guard taken off. -/
theorem junction_rereads :
    (∀ member ∈ junction.family, member.Representable) ∧
      ofJson junction.toJson = .ok { junction with
        transitions :=
          [⟨9, .message ⟨.receive, none, ⟨"Buyer"⟩⟩, 10, some ⟨"x in \x7b1,2"⟩, some []⟩,
            .silent 10 12] } := by
  have hfamily : ∀ member ∈ junction.family, member.Representable := by decide
  refine ⟨hfamily, (junction.ofJson_toJson_of_representable hfamily).trans ?_⟩
  rfl

end Automaton

end Conversation

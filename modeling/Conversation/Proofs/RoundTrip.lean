import Mathlib.Tactic
import Conversation.Decoding
import Conversation.Proofs.JsonRecords

namespace Conversation

open Json (Decoder Field Fields Variant)

/-- The guard that is read from a written guard. -/
def Assertion.reread (guard : Assertion) : Assertion :=
  .ofText guard.expression

def Interaction.mapGuard (f : Assertion → Assertion) (exchange : Interaction) : Interaction :=
  { exchange with assertion := exchange.assertion.map f }

mutual

/-- The activity with all guards in it changed. -/
def Activity.mapGuards (f : Assertion → Assertion) : Activity → Activity
  | .interaction exchange => .interaction (exchange.mapGuard f)
  | .choice branches => .choice (mapGuardsOfBranches f branches)
  | .directedChoice sender receivers branches =>
      .directedChoice sender receivers (mapGuardsOfDirected f branches)
  | .parallel branches => .parallel (mapGuardsOfBranches f branches)
  | .loop body => .loop (mapGuardsOf f body)
  | .recursion label body => .recursion label (mapGuardsOf f body)
  | .call label => .call label
  | .escape body role handler => .escape (mapGuardsOf f body) role (mapGuardsOf f handler)
  | .finish => .finish

def mapGuardsOf (f : Assertion → Assertion) : List Activity → List Activity
  | [] => []
  | activity :: rest => activity.mapGuards f :: mapGuardsOf f rest

def mapGuardsOfBranches (f : Assertion → Assertion) : List (List Activity) → List (List Activity)
  | [] => []
  | branch :: rest => mapGuardsOf f branch :: mapGuardsOfBranches f rest

def mapGuardsOfDirected (f : Assertion → Assertion) : List DirectedBranch → List DirectedBranch
  | [] => []
  | .mk exchange body :: rest =>
      .mk (exchange.mapGuard f) (mapGuardsOf f body) :: mapGuardsOfDirected f rest

end

mutual

def Activity.guards : Activity → List Assertion
  | .interaction exchange => exchange.assertion.toList
  | .choice branches => guardsOfBranches branches
  | .directedChoice _ _ branches => guardsOfDirected branches
  | .parallel branches => guardsOfBranches branches
  | .loop body => guardsOf body
  | .recursion _ body => guardsOf body
  | .call _ => []
  | .escape body _ handler => guardsOf body ++ guardsOf handler
  | .finish => []

def guardsOf : List Activity → List Assertion
  | [] => []
  | activity :: rest => activity.guards ++ guardsOf rest

def guardsOfBranches : List (List Activity) → List Assertion
  | [] => []
  | branch :: rest => guardsOf branch ++ guardsOfBranches rest

def guardsOfDirected : List DirectedBranch → List Assertion
  | [] => []
  | .mk exchange body :: rest =>
      exchange.assertion.toList ++ guardsOf body ++ guardsOfDirected rest

end

namespace Protocol

def mapGuards (f : Assertion → Assertion) (protocol : Protocol) : Protocol :=
  { protocol with activities := mapGuardsOf f protocol.activities }

def guards (protocol : Protocol) : List Assertion :=
  guardsOf protocol.activities

end Protocol

theorem mapGuardsOf_eq_map (f : Assertion → Assertion) (activities : List Activity) :
    mapGuardsOf f activities = activities.map (Activity.mapGuards f) := by
  induction activities with
  | nil => rfl
  | cons activity rest ih => rw [mapGuardsOf, ih, List.map_cons]

theorem mapGuardsOfBranches_eq_map (f : Assertion → Assertion) (branches : List (List Activity)) :
    mapGuardsOfBranches f branches = branches.map (mapGuardsOf f) := by
  induction branches with
  | nil => rfl
  | cons branch rest ih => rw [mapGuardsOfBranches, ih, List.map_cons]

def DirectedBranch.mapGuards (f : Assertion → Assertion) : DirectedBranch → DirectedBranch
  | .mk exchange body => .mk (exchange.mapGuard f) (mapGuardsOf f body)

theorem mapGuardsOfDirected_eq_map (f : Assertion → Assertion) (branches : List DirectedBranch) :
    mapGuardsOfDirected f branches = branches.map (DirectedBranch.mapGuards f) := by
  induction branches with
  | nil => rfl
  | cons branch rest ih =>
      obtain ⟨exchange, body⟩ := branch
      rw [mapGuardsOfDirected, ih, List.map_cons, DirectedBranch.mapGuards]

theorem Interaction.mapGuard_eq_self {f : Assertion → Assertion} {exchange : Interaction} :
    exchange.mapGuard f = exchange ↔ ∀ guard ∈ exchange.assertion.toList, f guard = guard := by
  obtain ⟨direction, label, payload, partner, assertion⟩ := exchange
  cases assertion <;> simp [mapGuard]

mutual

theorem Activity.mapGuards_eq_self {f : Assertion → Assertion} (activity : Activity) :
    activity.mapGuards f = activity ↔ ∀ guard ∈ activity.guards, f guard = guard := by
  cases activity with
  | interaction exchange =>
      simp only [Activity.mapGuards, Activity.interaction.injEq, Activity.guards]
      exact Interaction.mapGuard_eq_self
  | choice branches =>
      simp only [Activity.mapGuards, Activity.choice.injEq, Activity.guards]
      exact mapGuardsOfBranches_eq_self branches
  | directedChoice sender receivers branches =>
      simp only [Activity.mapGuards, Activity.directedChoice.injEq, true_and, Activity.guards]
      exact mapGuardsOfDirected_eq_self branches
  | parallel branches =>
      simp only [Activity.mapGuards, Activity.parallel.injEq, Activity.guards]
      exact mapGuardsOfBranches_eq_self branches
  | loop body =>
      simp only [Activity.mapGuards, Activity.loop.injEq, Activity.guards]
      exact mapGuardsOf_eq_self body
  | recursion label body =>
      simp only [Activity.mapGuards, Activity.recursion.injEq, true_and, Activity.guards]
      exact mapGuardsOf_eq_self body
  | call label => simp [Activity.mapGuards, Activity.guards]
  | escape body role handler =>
      simp only [Activity.mapGuards, Activity.escape.injEq, true_and, Activity.guards,
        List.forall_mem_append]
      exact and_congr (mapGuardsOf_eq_self body) (mapGuardsOf_eq_self handler)
  | finish => simp [Activity.mapGuards, Activity.guards]

theorem mapGuardsOf_eq_self {f : Assertion → Assertion} (activities : List Activity) :
    mapGuardsOf f activities = activities ↔ ∀ guard ∈ guardsOf activities, f guard = guard := by
  cases activities with
  | nil => simp [mapGuardsOf, guardsOf]
  | cons activity rest =>
      simp only [mapGuardsOf, List.cons.injEq, guardsOf, List.forall_mem_append]
      exact and_congr (Activity.mapGuards_eq_self activity) (mapGuardsOf_eq_self rest)

theorem mapGuardsOfBranches_eq_self {f : Assertion → Assertion}
    (branches : List (List Activity)) :
    mapGuardsOfBranches f branches = branches ↔
      ∀ guard ∈ guardsOfBranches branches, f guard = guard := by
  cases branches with
  | nil => simp [mapGuardsOfBranches, guardsOfBranches]
  | cons branch rest =>
      simp only [mapGuardsOfBranches, List.cons.injEq, guardsOfBranches, List.forall_mem_append]
      exact and_congr (mapGuardsOf_eq_self branch) (mapGuardsOfBranches_eq_self rest)

theorem mapGuardsOfDirected_eq_self {f : Assertion → Assertion} (branches : List DirectedBranch) :
    mapGuardsOfDirected f branches = branches ↔
      ∀ guard ∈ guardsOfDirected branches, f guard = guard := by
  cases branches with
  | nil => simp [mapGuardsOfDirected, guardsOfDirected]
  | cons branch rest =>
      obtain ⟨exchange, body⟩ := branch
      simp only [mapGuardsOfDirected, List.cons.injEq, DirectedBranch.mk.injEq, guardsOfDirected,
        List.forall_mem_append]
      exact and_congr
        (and_congr Interaction.mapGuard_eq_self (mapGuardsOf_eq_self body))
        (mapGuardsOfDirected_eq_self rest)

end

theorem Protocol.mapGuards_eq_self {f : Assertion → Assertion} (protocol : Protocol) :
    protocol.mapGuards f = protocol ↔ ∀ guard ∈ protocol.guards, f guard = guard := by
  obtain ⟨name, viewpoint, roles, activities⟩ := protocol
  simpa [mapGuards, guards] using mapGuardsOf_eq_self activities

theorem Role.ofJson_toJson (role : Role) : Role.decoder.ofJson role.toJson = .ok role :=
  rfl

theorem Direction.ofJson_toJson (direction : Direction) :
    Direction.decoder.ofJson direction.toJson = .ok direction := by
  cases direction <;> rfl

theorem ValueDecl.ofJson_toJson (decl : ValueDecl) :
    ValueDecl.decoder.ofJson decl.toJson = .ok decl := by
  obtain ⟨name, type⟩ := decl
  refine Decoder.record_ofJson (by decide) ?_ ?_
  · have hkeys := (Json.keys_member? "type" PayloadType.toJson type).cons_cons "name"
    exact hkeys.nodup (by decide)
  · rw [Fields.ofMembers_required (.string name) (by simp) rfl,
      Fields.ofMembers_optional PayloadType.toJson id type]
    · simp [Fields.ofMembers]
    · simp [List.lookup_cons, Json.lookup_member?]
    · intro content
      cases content <;> rfl

theorem Interaction.ofJson_toJson (exchange : Interaction) :
    Interaction.decoder.ofJson exchange.toJson = .ok (exchange.mapGuard Assertion.reread) := by
  obtain ⟨direction, label, payload, partner, assertion⟩ := exchange
  refine Decoder.record_ofJson (by decide) ?_ ?_
  · have hkeys : List.Sublist _ ["direction", "label", "payload", "partner", "assertion"] :=
      ((((Json.keys_member? "label" Json.string label).append
        (Json.keys_listMember? "payload" ValueDecl.toJson payload)).append
        ((Json.keys_member? "assertion" Assertion.toJson assertion).cons_cons "partner")).cons_cons
          "direction")
    simp only [List.map_cons, List.map_append]
    exact hkeys.nodup (by decide)
  · rw [Fields.ofMembers_required _ (by simp) direction.ofJson_toJson,
      Fields.ofMembers_optional Json.string id label,
      Fields.ofMembers_list (Json.list ValueDecl.toJson) id payload,
      Fields.ofMembers_required _ _ partner.ofJson_toJson,
      Fields.ofMembers_optional Assertion.toJson Assertion.reread
        assertion]
    · simp [Fields.ofMembers, mapGuard]
    · simp [List.lookup_cons, List.lookup_append, Json.lookup_member?, Json.lookup_listMember?]
    · exact fun guard => rfl
    · simp [List.lookup_cons, List.lookup_append, Json.lookup_member?, Json.lookup_listMember?]
    · simp [List.lookup_cons, List.lookup_append, Json.lookup_member?, Json.lookup_listMember?]
    · exact fun _ => Decoder.list_ofJson fun decl _ => decl.ofJson_toJson
    · simp [List.lookup_cons, List.lookup_append, Json.lookup_member?, Json.lookup_listMember?]
    · exact fun label => rfl

def DirectedBranch.toJson : DirectedBranch → Json
  | .mk exchange body =>
      .object (("message", exchange.toJson) :: Json.listMember? "body" Activity.toJson body)

theorem array_encodeActivities (activities : List Activity) :
    .array (encodeActivities activities) = Json.list Activity.toJson activities := by
  rw [Json.list, Json.array.injEq]
  induction activities with
  | nil => rfl
  | cons activity rest ih => rw [encodeActivities, ih, List.map_cons]

theorem array_encodeBranches (branches : List (List Activity)) :
    .array (encodeBranches branches) = Json.list (Json.list Activity.toJson) branches := by
  rw [Json.list, Json.array.injEq]
  induction branches with
  | nil => rfl
  | cons branch rest ih => rw [encodeBranches, ih, array_encodeActivities, List.map_cons]

theorem array_encodeDirected (branches : List DirectedBranch) :
    .array (encodeDirected branches) = Json.list DirectedBranch.toJson branches := by
  rw [Json.list, Json.array.injEq]
  induction branches with
  | nil => rfl
  | cons branch rest ih =>
      obtain ⟨exchange, body⟩ := branch
      rw [List.map_cons, ← ih, DirectedBranch.toJson]
      cases body with
      | nil => rw [encodeDirected, Json.listMember?]
      | cons first others =>
          rw [encodeDirected, Json.listMember?, ← array_encodeActivities, encodeActivities]
          exact List.cons_ne_nil _ _

theorem Json.levels_le_of_field {name : String} {members : List (String × Json)} {height : Nat}
    (member : String × Json) (hlow : (Json.variant name (.object members)).levels ≤ height + 1)
    (hdistinct : (members.map Prod.fst).Nodup) (h : member ∈ members) :
    member.2.levels ≤ height := by
  have hcontent := Json.levels_lt_variant name (.object members)
  have hfield := Json.levels_lt_of_mem_object _ hdistinct h
  omega

namespace Activity

/-- Activities inside are read within one level less. -/
def ReadsWithin (height : Nat) (activity : Activity) : Prop :=
  (decoderWithin height).ofJson activity.toJson = .ok (activity.mapGuards Assertion.reread)

variable {height : Nat}

theorem body_ofJson {body : List Activity}
    (hreads : ∀ activity ∈ body, ∀ height, activity.toJson.levels ≤ height →
      activity.ReadsWithin height)
    (hlow : (Json.list Activity.toJson body).levels ≤ height) :
    (Decoder.list (decoderWithin height)).ofJson (Json.list Activity.toJson body) =
      .ok (mapGuardsOf Assertion.reread body) := by
  rw [mapGuardsOf_eq_map]
  refine Decoder.list_ofJson fun activity h => hreads activity h height ?_
  exact (Json.levels_lt_of_mem_array (List.mem_map_of_mem h)).le.trans hlow

theorem branches_ofJson {branches : List (List Activity)}
    (hreads : ∀ branch ∈ branches, ∀ activity ∈ branch, ∀ height,
      activity.toJson.levels ≤ height → activity.ReadsWithin height)
    (hlow : (Json.list (Json.list Activity.toJson) branches).levels ≤ height) :
    (Decoder.list (Decoder.list (decoderWithin height))).ofJson
        (Json.list (Json.list Activity.toJson) branches) =
      .ok (mapGuardsOfBranches Assertion.reread branches) := by
  rw [mapGuardsOfBranches_eq_map]
  refine Decoder.list_ofJson fun branch h => body_ofJson (hreads branch h) ?_
  exact (Json.levels_lt_of_mem_array (List.mem_map_of_mem h)).le.trans hlow

theorem directed_ofJson {branches : List DirectedBranch}
    (hreads : ∀ branch ∈ branches, ∀ activity ∈ branch.body, ∀ height,
      activity.toJson.levels ≤ height → activity.ReadsWithin height)
    (hlow : (Json.list DirectedBranch.toJson branches).levels ≤ height) :
    (Decoder.list (DirectedBranch.decoder (.list (decoderWithin height)))).ofJson
        (Json.list DirectedBranch.toJson branches) =
      .ok (mapGuardsOfDirected Assertion.reread branches) := by
  rw [mapGuardsOfDirected_eq_map]
  refine Decoder.list_ofJson fun branch h => ?_
  have hlower := (Json.levels_lt_of_mem_array (List.mem_map_of_mem h)).le.trans hlow
  obtain ⟨exchange, body⟩ := branch
  have hdistinct : ((("message", exchange.toJson) ::
      Json.listMember? "body" Activity.toJson body).map Prod.fst).Nodup :=
    ((Json.keys_listMember? "body" Activity.toJson body).cons_cons "message").nodup (by decide)
  refine Decoder.record_ofJson
    (by simp [Fields.names, Field.required, Field.defaulted]) hdistinct ?_
  rw [Fields.ofMembers_required _ (by simp) exchange.ofJson_toJson,
    Fields.ofMembers_list (Json.list Activity.toJson)
      (Activity.mapGuards Assertion.reread) body]
  · simp [Fields.ofMembers, DirectedBranch.mapGuards, mapGuardsOf_eq_map]
  · simp [List.lookup_cons, Json.lookup_listMember?]
  · intro hne
    rw [← mapGuardsOf_eq_map]
    refine body_ofJson (hreads _ h) ?_
    have hmember : ("body", Json.list Activity.toJson body) ∈
        ("message", exchange.toJson) :: Json.listMember? "body" Activity.toJson body := by
      cases body with
      | nil => exact absurd rfl hne
      | cons first others => simp [Json.listMember?]
    exact (Json.levels_lt_of_mem_object _ hdistinct hmember).le.trans hlower

theorem variant_ofJson {name title : String} {members : List (String × Json)} {β : Type}
    {make : β} {fields : Fields Activity β} {made : Activity}
    (hselected : Variant.select (variants (.list (decoderWithin height))) name =
      .ok (.fields (.record title make fields)))
    (hnamed : fields.names.Nodup) (hdistinct : (members.map Prod.fst).Nodup)
    (h : fields.ofMembers members make = .ok made) :
    (decoderWithin (height + 1)).ofJson (Json.variant name (.object members)) = .ok made := by
  rw [decoderWithin, Decoder.variant_ofJson hselected, Decoder.fields_ofJson]
  exact Decoder.record_ofJson hnamed hdistinct h

theorem levels_pos (activity : Activity) : 0 < activity.toJson.levels := by
  cases activity <;> exact Nat.succ_pos _

end Activity

mutual

theorem Activity.readsWithin (activity : Activity) (height : Nat)
    (hlow : activity.toJson.levels ≤ height) : activity.ReadsWithin height := by
  obtain _ | height := height
  · exact absurd activity.levels_pos (by omega)
  unfold Activity.ReadsWithin
  cases activity with
  | interaction exchange =>
      rw [Activity.decoderWithin, Activity.toJson, Decoder.variant_ofJson rfl]
      show (Decoder.map Activity.interaction _).ofJson _ = _
      rw [Decoder.map_ofJson, exchange.ofJson_toJson]
      rfl
  | choice branches =>
      rw [Activity.toJson, array_encodeBranches] at hlow ⊢
      have hinner := Json.levels_le_of_field _ hlow (by simp) List.mem_cons_self
      refine Activity.variant_ofJson rfl (by simp [Activity.branchFields, Fields.names])
        (by simp) ?_
      rw [Activity.branchFields, Fields.ofMembers_required _ (by simp)
        (Activity.branches_ofJson (readsWithin_of_mem_branches branches) hinner)]
      rfl
  | directedChoice sender receivers branches =>
      rw [Activity.toJson, array_encodeDirected] at hlow ⊢
      have hinner := Json.levels_le_of_field
        ("on_message", Json.list DirectedBranch.toJson branches) hlow (by simp) (by simp)
      refine Activity.variant_ofJson rfl (by simp [Fields.names, Field.required]) (by simp) ?_
      rw [Fields.ofMembers_required _ (by simp) sender.ofJson_toJson,
        Fields.ofMembers_required _ (by simp [List.lookup_cons])
          (Decoder.list_ofJson (f := id) fun receiver (_ : receiver ∈ receivers) =>
            receiver.ofJson_toJson),
        Fields.ofMembers_required _ (by simp [List.lookup_cons])
          (Activity.directed_ofJson (readsWithin_of_mem_directed branches) hinner), List.map_id]
      rfl
  | parallel branches =>
      rw [Activity.toJson, array_encodeBranches] at hlow ⊢
      have hinner := Json.levels_le_of_field _ hlow (by simp) List.mem_cons_self
      refine Activity.variant_ofJson rfl (by simp [Activity.branchFields, Fields.names])
        (by simp) ?_
      rw [Activity.branchFields, Fields.ofMembers_required _ (by simp)
        (Activity.branches_ofJson (readsWithin_of_mem_branches branches) hinner)]
      rfl
  | loop body =>
      rw [Activity.toJson, array_encodeActivities] at hlow ⊢
      have hinner := Json.levels_le_of_field _ hlow (by simp) List.mem_cons_self
      refine Activity.variant_ofJson rfl (by simp [Fields.names]) (by simp) ?_
      rw [Fields.ofMembers_required _ (by simp)
        (Activity.body_ofJson (readsWithin_of_mem body) hinner)]
      rfl
  | recursion label body =>
      rw [Activity.toJson, array_encodeActivities] at hlow ⊢
      have hinner := Json.levels_le_of_field ("body", Json.list Activity.toJson body)
        hlow (by simp) (by simp)
      refine Activity.variant_ofJson rfl (by simp [Fields.names, Field.required]) (by simp) ?_
      rw [Fields.ofMembers_required (.string label) (by simp) rfl,
        Fields.ofMembers_required _ (by simp [List.lookup_cons])
          (Activity.body_ofJson (readsWithin_of_mem body) hinner)]
      rfl
  | call label =>
      refine Activity.variant_ofJson rfl (by simp [Fields.names]) (by simp) ?_
      rw [Fields.ofMembers_required (.string label) (by simp) rfl]
      rfl
  | escape body role handler =>
      rw [Activity.toJson, array_encodeActivities, array_encodeActivities] at hlow ⊢
      have hinner := Json.levels_le_of_field ("body", Json.list Activity.toJson body)
        hlow (by simp) (by simp)
      have hhandled := Json.levels_le_of_field ("interrupt_body", Json.list Activity.toJson handler)
        hlow (by simp) (by simp)
      refine Activity.variant_ofJson rfl (by simp [Fields.names, Field.required]) (by simp) ?_
      rw [Fields.ofMembers_required _ (by simp)
          (Activity.body_ofJson (readsWithin_of_mem body) hinner),
        Fields.ofMembers_required _ (by simp [List.lookup_cons]) role.ofJson_toJson,
        Fields.ofMembers_required _ (by simp [List.lookup_cons])
          (Activity.body_ofJson (readsWithin_of_mem handler) hhandled)]
      rfl
  | finish => rfl

theorem readsWithin_of_mem (activities : List Activity) :
    ∀ activity ∈ activities, ∀ height, activity.toJson.levels ≤ height →
      activity.ReadsWithin height := by
  intro activity h
  cases activities with
  | nil => cases h
  | cons first rest =>
      rcases List.mem_cons.mp h with hsame | h
      · rw [hsame]
        exact first.readsWithin
      · exact readsWithin_of_mem rest activity h

theorem readsWithin_of_mem_branches (branches : List (List Activity)) :
    ∀ branch ∈ branches, ∀ activity ∈ branch, ∀ height, activity.toJson.levels ≤ height →
      activity.ReadsWithin height := by
  intro branch h
  cases branches with
  | nil => cases h
  | cons first rest =>
      rcases List.mem_cons.mp h with hsame | h
      · rw [hsame]
        exact readsWithin_of_mem first
      · exact readsWithin_of_mem_branches rest branch h

theorem readsWithin_of_mem_directed (branches : List DirectedBranch) :
    ∀ branch ∈ branches, ∀ activity ∈ branch.body, ∀ height, activity.toJson.levels ≤ height →
      activity.ReadsWithin height := by
  intro branch h
  cases branches with
  | nil => cases h
  | cons first rest =>
      obtain ⟨exchange, body⟩ := first
      rcases List.mem_cons.mp h with hsame | h
      · rw [hsame]
        exact readsWithin_of_mem body
      · exact readsWithin_of_mem_directed rest branch h

end

theorem Activity.ofJson_toJson (activity : Activity) :
    Activity.decoder.ofJson activity.toJson = .ok (activity.mapGuards Assertion.reread) :=
  activity.readsWithin _ le_rfl

namespace Text

theorem trim_sublist (text : List Char) : (trim text).Sublist text := by
  have hfront : (text.dropWhile isBlank).Sublist text := List.dropWhile_sublist _
  have hback : ((text.dropWhile isBlank).reverse.dropWhile isBlank).Sublist
      (text.dropWhile isBlank).reverse := List.dropWhile_sublist _
  rw [trim, trimEnd]
  refine .trans ?_ hfront
  simpa using hback.reverse

end Text

namespace Assertion

theorem dropOpening_sublist (text : List Char) : (dropOpening text).Sublist text := by
  unfold dropOpening
  split
  · exact ((List.Sublist.refl _).cons _).cons _
  · exact .refl _

theorem dropClosing_sublist (text : List Char) : (dropClosing text).Sublist text := by
  unfold dropClosing
  split
  · exact List.dropLast_sublist _
  · exact .refl _

theorem dropOpening_eq_self_iff (text : List Char) :
    dropOpening text = text ↔ ¬ ['@', '\x7b'] <+: text := by
  unfold dropOpening
  split
  · rename_i rest
    refine iff_of_false (fun h => ?_) (not_not.mpr ⟨rest, rfl⟩)
    have hshorter := congrArg List.length h
    simp only [List.length_cons] at hshorter
    omega
  · rename_i hother
    refine iff_of_true rfl fun ⟨rest, h⟩ => hother rest h.symm

theorem dropClosing_eq_self_iff (text : List Char) :
    dropClosing text = text ↔ text.getLast? ≠ some '\x7d' := by
  unfold dropClosing
  split
  · rename_i hclosed
    refine iff_of_false (fun h => ?_) (not_not.mpr hclosed)
    have hshorter := congrArg List.length h
    cases text with
    | nil => simp at hclosed
    | cons first rest => simp at hshorter
  · rename_i hunclosed
    exact iff_of_true rfl hunclosed

/-- A guard that has no blanks at its ends and does not look as if it had a marker. -/
structure Bare (guard : Assertion) : Prop where
  trimmed : Text.trim guard.expression.toList = guard.expression.toList
  unopened : ¬ ['@', '\x7b'] <+: guard.expression.toList
  unclosed : guard.expression.toList.getLast? ≠ some '\x7d'

/-- Stripping only ever takes characters away, so nothing changes exactly if no step takes any. -/
theorem strip_eq_self_iff (text : List Char) :
    strip text = text ↔
      Text.trim text = text ∧ dropOpening text = text ∧ dropClosing text = text := by
  constructor
  · intro hwhole
    have hlast := (Text.trim_sublist (dropClosing (dropOpening (Text.trim text)))).length_le
    have hclosing := (dropClosing_sublist (dropOpening (Text.trim text))).length_le
    have hopening := (dropOpening_sublist (Text.trim text)).length_le
    have htotal : (Text.trim (dropClosing (dropOpening (Text.trim text)))).length = text.length :=
      congrArg List.length hwhole
    have hfirst : Text.trim text = text :=
      (Text.trim_sublist text).eq_of_length_le (by omega)
    rw [hfirst] at hclosing hopening hlast htotal
    have hsecond : dropOpening text = text :=
      (dropOpening_sublist text).eq_of_length_le (by omega)
    rw [hsecond] at hclosing hlast htotal
    exact ⟨hfirst, hsecond, (dropClosing_sublist text).eq_of_length_le (by omega)⟩
  · rintro ⟨hfirst, hsecond, hthird⟩
    rw [strip, hfirst, hsecond, hthird, hfirst]

theorem reread_eq_self_iff (guard : Assertion) : guard.reread = guard ↔ guard.Bare := by
  obtain ⟨expression⟩ := guard
  have hunfolded : Assertion.reread ⟨expression⟩ = ⟨expression⟩ ↔
      strip expression.toList = expression.toList := by
    rw [reread, ofText, Assertion.mk.injEq, ← String.toList_inj, String.toList_ofList]
  rw [hunfolded, strip_eq_self_iff, dropOpening_eq_self_iff, dropClosing_eq_self_iff]
  exact ⟨fun ⟨hfirst, hsecond, hthird⟩ => ⟨hfirst, hsecond, hthird⟩,
    fun ⟨hfirst, hsecond, hthird⟩ => ⟨hfirst, hsecond, hthird⟩⟩

end Assertion

namespace Protocol

theorem ofJson_toJson_eq (protocol : Protocol) :
    ofJson protocol.toJson = .ok (protocol.mapGuards Assertion.reread) := by
  obtain ⟨name, viewpoint, roles, activities⟩ := protocol
  refine Decoder.record_ofJson (by decide) ?_ ?_
  · have hkeys : List.Sublist _ ["name", "at", "roles", "activities"] :=
      (((Json.keys_member? "at" Role.toJson viewpoint).append
        (List.Sublist.refl ["roles", "activities"])).cons_cons "name")
    simp only [List.map_cons, List.map_append]
    exact hkeys.nodup (by decide)
  · rw [array_encodeActivities, Fields.ofMembers_required (.string name) (by simp) rfl,
      Fields.ofMembers_optional Role.toJson id viewpoint]
    · rw [Fields.ofMembers_defaulted
          (by simp [List.lookup_cons, List.lookup_append, Json.lookup_member?])
          (Decoder.list_ofJson (f := id) fun role (_ : role ∈ roles) => role.ofJson_toJson),
        Fields.ofMembers_required _
          (by simp [List.lookup_cons, List.lookup_append, Json.lookup_member?])
          (Decoder.list_ofJson fun activity (_ : activity ∈ activities) => activity.ofJson_toJson)]
      simp [Fields.ofMembers, mapGuards, mapGuardsOf_eq_map]
    · simp [List.lookup_cons, List.lookup_append, Json.lookup_member?]
    · exact fun role => rfl

/-- A written protocol is always read again, and it is the same protocol exactly if none of its
guards looks as if it still had a marker. -/
theorem ofJson_toJson_iff (protocol : Protocol) :
    ofJson protocol.toJson = .ok (protocol.mapGuards Assertion.reread) ∧
      (ofJson protocol.toJson = .ok protocol ↔ ∀ guard ∈ protocol.guards, guard.Bare) := by
  refine ⟨protocol.ofJson_toJson_eq, ?_⟩
  rw [ofJson_toJson_eq, Except.ok.injEq, mapGuards_eq_self]
  exact forall₂_congr fun guard _ => guard.reread_eq_self_iff

/-- A protocol whose guard asks for the membership in a set. -/
def membership : Json :=
  .object [("name", .string "Draw"), ("activities", .array [.variant "interaction"
    (.object [("direction", .string "receive"), ("label", .string "draw"),
      ("partner", .string "Player"),
      ("assertion", .string "@\x7bx in \x7b1,2\x7d\x7d")])])]

/-- Its guard is stored without the markers but with the closing brace of the set, and this brace
is lost on the way through JSON. -/
theorem membership_changes : ∃ stored reread,
    ofJson membership = .ok stored ∧ ofJson stored.toJson = .ok reread ∧
      stored.guards = [⟨"x in \x7b1,2\x7d"⟩] ∧ reread.guards = [⟨"x in \x7b1,2"⟩] ∧
      reread ≠ stored ∧ reread.canonical ≠ stored.canonical := by
  let exchange (text : String) : Protocol :=
    bare "Draw" [.interaction
      ⟨.receive, some "draw", [], ⟨"Player"⟩, some ⟨text⟩⟩]
  refine ⟨exchange "x in \x7b1,2\x7d", exchange "x in \x7b1,2", ?_, ?_, ?_, ?_, ?_, ?_⟩
  · rfl
  · rfl
  · rfl
  · rfl
  · intro hsame
    have : [(⟨"x in \x7b1,2"⟩ : Assertion)] = [⟨"x in \x7b1,2\x7d"⟩] :=
      congrArg Protocol.guards hsame
    revert this
    decide
  · decide +kernel

end Protocol

end Conversation

import Conversation.Proofs.CompactTexts
import Conversation.Proofs.RoundTrip

namespace Conversation

open Json (Numberless)

variable {α : Type}

namespace Activity

/-- The activities that stand directly inside an activity. -/
def children : Activity → List Activity
  | .choice branches | .parallel branches => branches.flatten
  | .directedChoice _ _ branches => branches.flatMap DirectedBranch.body
  | .loop body | .recursion _ body => body
  | .escape body _ handler => body ++ handler
  | .interaction _ | .call _ | .finish => []

theorem sizeOf_lt_of_mem_children {activity child : Activity} (h : child ∈ activity.children) :
    sizeOf child < sizeOf activity := by
  have hbranches : ∀ {branches : List (List Activity)}, child ∈ branches.flatten →
      sizeOf child < sizeOf branches := by
    intro branches h
    obtain ⟨branch, hbranch, hchild⟩ := List.mem_flatten.mp h
    exact (List.sizeOf_lt_of_mem hchild).trans (List.sizeOf_lt_of_mem hbranch)
  cases activity with
  | choice branches | parallel branches =>
      have := hbranches h
      simp only [choice.sizeOf_spec, parallel.sizeOf_spec]
      omega
  | directedChoice sender receivers branches =>
      obtain ⟨⟨exchange, body⟩, hbranch, hchild⟩ := List.mem_flatMap.mp h
      have hbody := List.sizeOf_lt_of_mem hchild
      have hlist := List.sizeOf_lt_of_mem hbranch
      simp only [directedChoice.sizeOf_spec, DirectedBranch.mk.sizeOf_spec, DirectedBranch.body]
        at hbody hlist ⊢
      omega
  | loop body | recursion label body =>
      have := List.sizeOf_lt_of_mem h
      simp only [loop.sizeOf_spec, recursion.sizeOf_spec, children] at this ⊢
      omega
  | escape body role handler =>
      simp only [escape.sizeOf_spec]
      rcases List.mem_append.mp h with h | h
      · have := List.sizeOf_lt_of_mem h
        omega
      · have := List.sizeOf_lt_of_mem h
        omega
  | interaction exchange | call label | finish => exact absurd h List.not_mem_nil

@[elab_as_elim]
theorem induction_on_children {holds : Activity → Prop} (activity : Activity)
    (step : ∀ activity, (∀ child ∈ activity.children, holds child) → holds activity) :
    holds activity :=
  step activity fun child hchild =>
    have := sizeOf_lt_of_mem_children hchild
    child.induction_on_children step
termination_by sizeOf activity

end Activity

namespace Json

theorem numberless_list {encode : α → Json} {elements : List α}
    (h : ∀ element ∈ elements, (encode element).Numberless) :
    (Json.list encode elements).Numberless := by
  rw [Json.list, Numberless, numberlessItems_iff]
  exact List.forall_mem_map.mpr h

theorem numberless_object {members : List (String × Json)}
    (h : ∀ member ∈ members, member.2.Numberless) : (object members).Numberless :=
  (numberlessMembers_iff members).mpr h

theorem numberless_member? {key : String} {encode : α → Json} {value : Option α}
    (h : ∀ content, (encode content).Numberless) :
    ∀ member ∈ member? key encode value, member.2.Numberless := by
  cases value with
  | none => simp [member?]
  | some content => simpa [member?] using h content

theorem numberless_listMember? {key : String} {encode : α → Json} {elements : List α}
    (h : ∀ element ∈ elements, (encode element).Numberless) :
    ∀ member ∈ listMember? key encode elements, member.2.Numberless := by
  cases elements with
  | nil => simp [listMember?]
  | cons first rest => simpa [listMember?] using numberless_list h

end Json

theorem ValueDecl.numberless_toJson (decl : ValueDecl) : decl.toJson.Numberless :=
  Json.numberless_object
    (List.forall_mem_cons.mpr ⟨trivial, Json.numberless_member? fun _ => trivial⟩)

theorem Direction.numberless_toJson (direction : Direction) : direction.toJson.Numberless := by
  cases direction <;> trivial

theorem Interaction.numberless_toJson (exchange : Interaction) : exchange.toJson.Numberless := by
  refine Json.numberless_object
    (List.forall_mem_cons.mpr ⟨exchange.direction.numberless_toJson, ?_⟩)
  refine List.forall_mem_append.mpr ⟨List.forall_mem_append.mpr ⟨?_, ?_⟩,
    List.forall_mem_cons.mpr ⟨trivial, ?_⟩⟩
  · exact Json.numberless_member? fun _ => trivial
  · exact Json.numberless_listMember? fun decl _ => decl.numberless_toJson
  · exact Json.numberless_member? fun _ => trivial

theorem Json.numberless_variant {name : String} {content : Json} (h : content.Numberless) :
    (Json.variant name content).Numberless :=
  Json.numberless_object (by simpa using h)

theorem Activity.numberless_toJson (activity : Activity) : activity.toJson.Numberless := by
  induction activity using Activity.induction_on_children with
  | step activity ih =>
      have hlist : ∀ list : List Activity, (∀ child ∈ list, child ∈ activity.children) →
          (Json.list Activity.toJson list).Numberless :=
        fun list h => Json.numberless_list fun child hchild => ih child (h child hchild)
      cases activity with
      | interaction exchange => exact Json.numberless_variant exchange.numberless_toJson
      | choice branches | parallel branches =>
          rw [Activity.toJson, array_encodeBranches]
          refine Json.numberless_variant (Json.numberless_object ?_)
          simp only [List.forall_mem_singleton]
          refine Json.numberless_list fun branch hbranch => hlist branch fun child hchild => ?_
          exact List.mem_flatten.mpr ⟨branch, hbranch, hchild⟩
      | directedChoice sender receivers branches =>
          rw [Activity.toJson, array_encodeDirected]
          refine Json.numberless_variant
            ⟨trivial, Json.numberless_list fun _ _ => trivial, ?_, trivial⟩
          refine Json.numberless_list fun branch hbranch => ?_
          obtain ⟨exchange, body⟩ := branch
          refine Json.numberless_object (List.forall_mem_cons.mpr ⟨exchange.numberless_toJson, ?_⟩)
          refine Json.numberless_listMember? fun child hchild => ih child ?_
          exact List.mem_flatMap.mpr ⟨_, hbranch, hchild⟩
      | loop body =>
          rw [Activity.toJson, array_encodeActivities]
          exact Json.numberless_variant ⟨hlist body fun _ => id, trivial⟩
      | recursion label body =>
          rw [Activity.toJson, array_encodeActivities]
          exact Json.numberless_variant ⟨trivial, hlist body fun _ => id, trivial⟩
      | call label => exact Json.numberless_variant ⟨trivial, trivial⟩
      | escape body role handler =>
          rw [Activity.toJson, array_encodeActivities, array_encodeActivities]
          exact Json.numberless_variant ⟨hlist body fun _ => List.mem_append_left _, trivial,
            hlist handler fun _ => List.mem_append_right _, trivial⟩
      | finish => trivial

theorem Protocol.numberless_toJson (protocol : Protocol) : protocol.toJson.Numberless := by
  rw [toJson, array_encodeActivities]
  refine Json.numberless_object (List.forall_mem_cons.mpr ⟨trivial, ?_⟩)
  refine List.forall_mem_append.mpr ⟨Json.numberless_member? fun _ => trivial, ?_⟩
  refine List.forall_mem_cons.mpr ⟨Json.numberless_list fun _ _ => trivial, ?_⟩
  refine List.forall_mem_singleton.mpr (Json.numberless_list fun activity _ => ?_)
  exact activity.numberless_toJson

namespace Json

theorem list_inj {encode : α → Json} {elements others : List α}
    (hencode : ∀ element ∈ elements, ∀ other, encode element = encode other → element = other)
    (h : Json.list encode elements = Json.list encode others) : elements = others := by
  have hmap := Json.array.inj h
  induction elements generalizing others with
  | nil => exact (List.map_eq_nil_iff.mp hmap.symm).symm
  | cons element elements ih =>
      cases others with
      | nil => simp at hmap
      | cons other others =>
          obtain ⟨hfirst, hrest⟩ := List.cons.inj hmap
          obtain ⟨hhead, htail⟩ := List.forall_mem_cons.mp hencode
          rw [hhead other hfirst, ih htail (congrArg Json.array hrest) hrest]

theorem lookup_eq_of_object {members others : List (String × Json)}
    (h : object members = object others) (key : String) : members.lookup key = others.lookup key :=
  congrArg (List.lookup key) (Json.object.inj h)

theorem listMember_inj {encode : α → Json} {elements others : List α}
    (hencode : ∀ element ∈ elements, ∀ other, encode element = encode other → element = other)
    (h : (if elements = [] then none else some (Json.list encode elements)) =
      if others = [] then none else some (Json.list encode others)) : elements = others := by
  by_cases helements : elements = [] <;> by_cases hothers : others = []
  · rw [helements, hothers]
  · simp [helements, hothers] at h
  · simp [helements, hothers] at h
  · rw [if_neg helements, if_neg hothers] at h
    exact list_inj hencode (Option.some.inj h)

end Json

theorem Role.toJson_injective : Function.Injective Role.toJson := by
  rintro ⟨name⟩ ⟨other⟩ h
  exact congrArg Role.mk (Json.string.inj h)

theorem Assertion.toJson_injective : Function.Injective Assertion.toJson := by
  rintro ⟨expression⟩ ⟨other⟩ h
  exact congrArg Assertion.mk (Json.string.inj h)

theorem PayloadType.toJson_injective : Function.Injective PayloadType.toJson := by
  rintro (_ | _) (_ | _) h <;> simp_all [PayloadType.toJson, PayloadType.text]

theorem Direction.toJson_injective : Function.Injective Direction.toJson := by
  rintro (_ | _) (_ | _) h <;> simp_all [Direction.toJson]

theorem ValueDecl.toJson_injective : Function.Injective ValueDecl.toJson := by
  rintro ⟨name, type⟩ ⟨name', type'⟩ h
  have hfield := Json.lookup_eq_of_object h
  have hname : name = name' := by simpa using hfield "name"
  have htype : type.map PayloadType.toJson = type'.map PayloadType.toJson := by
    simpa [List.lookup_cons, Json.lookup_member?] using hfield "type"
  rw [hname, Option.map_injective PayloadType.toJson_injective htype]

theorem Interaction.toJson_injective : Function.Injective Interaction.toJson := by
  rintro ⟨direction, label, payload, partner, assertion⟩
    ⟨direction', label', payload', partner', assertion'⟩ h
  have hfield := Json.lookup_eq_of_object h
  have hdirection : direction.toJson = direction'.toJson := by simpa using hfield "direction"
  have hlabel : label.map Json.string = label'.map Json.string := by
    simpa [List.lookup_cons, List.lookup_append, Json.lookup_member?, Json.lookup_listMember?]
      using hfield "label"
  have hpayload : (if payload = [] then none else some (Json.list ValueDecl.toJson payload)) =
      if payload' = [] then none else some (Json.list ValueDecl.toJson payload') := by
    simpa [List.lookup_cons, List.lookup_append, Json.lookup_member?, Json.lookup_listMember?]
      using hfield "payload"
  have hpartner : partner.toJson = partner'.toJson := by
    simpa [List.lookup_cons, List.lookup_append, Json.lookup_member?, Json.lookup_listMember?]
      using hfield "partner"
  have hassertion : assertion.map Assertion.toJson = assertion'.map Assertion.toJson := by
    simpa [List.lookup_cons, List.lookup_append, Json.lookup_member?, Json.lookup_listMember?]
      using hfield "assertion"
  rw [Direction.toJson_injective hdirection,
    Option.map_injective (fun _ _ => Json.string.inj) hlabel,
    Json.listMember_inj (fun decl _ other hsame => ValueDecl.toJson_injective hsame) hpayload,
    Role.toJson_injective hpartner, Option.map_injective Assertion.toJson_injective hassertion]

theorem Json.variant_inj_iff {name name' : String} {content content' : Json} :
    Json.variant name content = Json.variant name' content' ↔
      name = name' ∧ content = content' := by
  simp [Json.variant]

theorem DirectedBranch.toJson_inj {branch other : DirectedBranch}
    (hbody : ∀ activity ∈ branch.body, ∀ other, activity.toJson = other.toJson → activity = other)
    (h : branch.toJson = other.toJson) : branch = other := by
  obtain ⟨exchange, body⟩ := branch
  obtain ⟨exchange', body'⟩ := other
  have hfield := Json.lookup_eq_of_object h
  have hexchange : exchange.toJson = exchange'.toJson := by simpa using hfield "message"
  have hrest : (if body = [] then none else some (Json.list Activity.toJson body)) =
      if body' = [] then none else some (Json.list Activity.toJson body') := by
    simpa [List.lookup_cons, Json.lookup_listMember?] using hfield "body"
  exact congrArg₂ DirectedBranch.mk (Interaction.toJson_injective hexchange)
    (Json.listMember_inj hbody hrest)

/-- The name of its variant tells the construct of an activity, and the content its parts. -/
theorem Activity.toJson_injective : Function.Injective Activity.toJson := by
  intro activity
  induction activity using Activity.induction_on_children with
  | step activity ih =>
      have hlist : ∀ list : List Activity, (∀ child ∈ list, child ∈ activity.children) →
          ∀ other, Json.list Activity.toJson list = Json.list Activity.toJson other →
            list = other :=
        fun list hlist other => Json.list_inj fun child hchild other hsame =>
          ih child (hlist child hchild) hsame
      have hlists : ∀ branches : List (List Activity),
          (∀ child ∈ branches.flatten, child ∈ activity.children) →
          ∀ others, Json.list (Json.list Activity.toJson) branches =
            Json.list (Json.list Activity.toJson) others → branches = others :=
        fun branches hbranches others => Json.list_inj fun branch hbranch =>
          hlist branch fun child hchild =>
            hbranches child (List.mem_flatten.mpr ⟨branch, hbranch, hchild⟩)
      intro other h
      cases activity with
      | interaction exchange =>
          cases other with
          | interaction exchange' =>
              simp only [Activity.toJson, Json.variant_inj_iff, true_and] at h
              rw [Interaction.toJson_injective h]
          | _ => simp [Activity.toJson, Json.variant] at h
      | choice branches =>
          cases other with
          | choice others =>
              simp only [Activity.toJson, Json.variant_inj_iff, true_and, array_encodeBranches]
                at h
              have hfield := Json.lookup_eq_of_object h "branches"
              rw [hlists branches (fun _ => id) others (Option.some.inj hfield)]
          | _ => simp [Activity.toJson, Json.variant] at h
      | parallel branches =>
          cases other with
          | parallel others =>
              simp only [Activity.toJson, Json.variant_inj_iff, true_and, array_encodeBranches]
                at h
              have hfield := Json.lookup_eq_of_object h "branches"
              rw [hlists branches (fun _ => id) others (Option.some.inj hfield)]
          | _ => simp [Activity.toJson, Json.variant] at h
      | directedChoice sender receivers branches =>
          cases other with
          | directedChoice sender' receivers' others =>
              simp only [Activity.toJson, Json.variant_inj_iff, true_and, array_encodeDirected]
                at h
              have hfield := Json.lookup_eq_of_object h
              have hbranches : branches = others := by
                refine Json.list_inj ?_ (Option.some.inj (hfield "on_message"))
                intro branch hbranch other
                refine DirectedBranch.toJson_inj fun child hchild other hsame => ih child ?_ hsame
                exact List.mem_flatMap.mpr ⟨branch, hbranch, hchild⟩
              rw [Role.toJson_injective (Option.some.inj (hfield "from")),
                Json.list_inj (fun role _ other hsame => Role.toJson_injective hsame)
                  (Option.some.inj (hfield "to")), hbranches]
          | _ => simp [Activity.toJson, Json.variant] at h
      | loop body =>
          cases other with
          | loop body' =>
              simp only [Activity.toJson, Json.variant_inj_iff, true_and, array_encodeActivities]
                at h
              have hfield := Json.lookup_eq_of_object h "body"
              rw [hlist body (fun _ => id) body' (Option.some.inj hfield)]
          | _ => simp [Activity.toJson, Json.variant] at h
      | recursion label body =>
          cases other with
          | recursion label' body' =>
              simp only [Activity.toJson, Json.variant_inj_iff, true_and, array_encodeActivities]
                at h
              have hfield := Json.lookup_eq_of_object h
              rw [hlist body (fun _ => id) body' (Option.some.inj (hfield "body")),
                Json.string.inj (Option.some.inj (hfield "label"))]
          | _ => simp [Activity.toJson, Json.variant] at h
      | call label =>
          cases other with
          | call label' =>
              simp only [Activity.toJson, Json.variant_inj_iff, true_and] at h
              have hfield := Json.lookup_eq_of_object h "label"
              rw [Json.string.inj (Option.some.inj hfield)]
          | _ => simp [Activity.toJson, Json.variant] at h
      | escape body role handler =>
          cases other with
          | escape body' role' handler' =>
              simp only [Activity.toJson, Json.variant_inj_iff, true_and, array_encodeActivities]
                at h
              have hfield := Json.lookup_eq_of_object h
              rw [hlist body (fun _ => List.mem_append_left _) body'
                  (Option.some.inj (hfield "body")),
                Role.toJson_injective (Option.some.inj (hfield "interrupt_role")),
                hlist handler (fun _ => List.mem_append_right _) handler'
                  (Option.some.inj (hfield "interrupt_body"))]
          | _ => simp [Activity.toJson, Json.variant] at h
      | finish =>
          cases other with
          | finish => rfl
          | _ => simp [Activity.toJson, Json.variant] at h

namespace Protocol

theorem toJson_injective : Function.Injective toJson := by
  rintro ⟨name, viewpoint, roles, activities⟩ ⟨name', viewpoint', roles', activities'⟩ h
  rw [toJson, toJson, array_encodeActivities, array_encodeActivities] at h
  have hfield := Json.lookup_eq_of_object h
  have hname : name = name' := by simpa using hfield "name"
  have hviewpoint : viewpoint.map Role.toJson = viewpoint'.map Role.toJson := by
    simpa [List.lookup_cons, List.lookup_append, Json.lookup_member?] using hfield "at"
  have hroles : Json.list Role.toJson roles = Json.list Role.toJson roles' := by
    simpa [List.lookup_cons, List.lookup_append, Json.lookup_member?] using hfield "roles"
  have hactivities : Json.list Activity.toJson activities =
      Json.list Activity.toJson activities' := by
    simpa [List.lookup_cons, List.lookup_append, Json.lookup_member?] using hfield "activities"
  rw [hname, Option.map_injective Role.toJson_injective hviewpoint,
    Json.list_inj (fun role _ other hsame => Role.toJson_injective hsame) hroles,
    Json.list_inj (fun activity _ other hsame => Activity.toJson_injective hsame) hactivities]

theorem canonical_injective : Function.Injective canonical := by
  intro protocol other h
  exact toJson_injective
    (Json.compact_inj protocol.numberless_toJson other.numberless_toJson h)

/-- A checksum is taken over the bytes of the canonical text, and no other protocol has these
bytes. -/
theorem checksum_bytes_identify (protocol other : Protocol) :
    protocol.checksum = String.ofList
        (Text.hexadecimal 8 (Checksum.crc32c protocol.canonical.toUTF8.toList).toNat) ∧
      (protocol.canonical.toUTF8 = other.canonical.toUTF8 ↔ protocol = other) :=
  ⟨rfl, String.toByteArray_inj.trans canonical_injective.eq_iff⟩

end Protocol

end Conversation

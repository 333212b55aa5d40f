import Mathlib.Tactic
import Conversation.Json.Record
import Conversation.Json.Variant
import Conversation.Encoding

namespace Conversation.Json

variable {α β γ ρ : Type}

theorem insertMember_perm {key : String} (value : Json) {placed : List (String × Json)}
    (hfresh : key ∉ placed.map Prod.fst) :
    (insertMember key value placed).Perm ((key, value) :: placed) := by
  induction placed with
  | nil => exact .refl _
  | cons member rest ih =>
      obtain ⟨other, old⟩ := member
      simp only [List.map_cons, List.mem_cons, not_or] at hfresh
      unfold insertMember
      split_ifs with hbefore hsame
      · exact .refl _
      · exact absurd hsame hfresh.1
      · exact ((ih hfresh.2).cons _).trans (.swap ..)

theorem sortedMembers_perm {members : List (String × Json)} (placed : List (String × Json))
    (hdistinct : ((placed ++ members).map Prod.fst).Nodup) :
    (sortedMembers members placed).Perm
      (placed ++ members.map fun member => (member.1, member.2.sorted)) := by
  induction members generalizing placed with
  | nil => simp [sortedMembers]
  | cons member rest ih =>
      obtain ⟨key, value⟩ := member
      have hswapped : ((placed ++ (key, value) :: rest).map Prod.fst).Perm
          (key :: (placed ++ rest).map Prod.fst) := by simp [List.perm_middle]
      have hfresh := (hswapped.nodup_iff.mp hdistinct)
      simp only [List.nodup_cons, List.map_append, List.mem_append, not_or] at hfresh
      have hmoved := insertMember_perm value.sorted hfresh.1.1
      have hkeys : ((insertMember key value.sorted placed ++ rest).map Prod.fst).Perm
          ((placed ++ (key, value) :: rest).map Prod.fst) := by
        refine .trans ?_ hswapped.symm
        simpa using (hmoved.map Prod.fst).append_right (rest.map Prod.fst)
      refine (ih _ (hkeys.nodup_iff.mpr hdistinct)).trans ?_
      refine (hmoved.append_right _).trans ?_
      simpa using (List.perm_middle).symm

theorem lookup_perm {members others : List (String × Json)} (hperm : members.Perm others)
    (hdistinct : (members.map Prod.fst).Nodup) (name : String) :
    members.lookup name = others.lookup name := by
  induction hperm with
  | nil => rfl
  | cons member _ ih =>
      obtain ⟨key, value⟩ := member
      simp only [List.map_cons, List.nodup_cons] at hdistinct
      simp only [List.lookup_cons, ih hdistinct.2]
  | swap first second rest =>
      obtain ⟨key, value⟩ := first
      obtain ⟨other, old⟩ := second
      have hapart : other ≠ key := by
        simp only [List.map_cons, List.nodup_cons, List.mem_cons, not_or] at hdistinct
        exact hdistinct.1.1
      by_cases hkey : name = key
      · subst hkey
        simp [List.lookup_cons, beq_eq_false_iff_ne.mpr hapart.symm]
      · simp [List.lookup_cons, beq_eq_false_iff_ne.mpr hkey]
  | trans hperm _ ih₁ ih₂ =>
      exact (ih₁ hdistinct).trans (ih₂ ((hperm.map _).nodup_iff.mp hdistinct))

theorem lookup_map_sorted (members : List (String × Json)) (name : String) :
    (members.map fun member => (member.1, member.2.sorted)).lookup name =
      (members.lookup name).map sorted := by
  induction members with
  | nil => rfl
  | cons member rest ih =>
      obtain ⟨key, value⟩ := member
      simp only [List.map_cons, List.lookup_cons, ih]
      split <;> rfl

theorem lookup_sortedMembers {members : List (String × Json)}
    (hdistinct : (members.map Prod.fst).Nodup) (name : String) :
    (sortedMembers members []).lookup name = (members.lookup name).map sorted := by
  have hperm := sortedMembers_perm [] hdistinct
  rw [lookup_perm hperm, List.nil_append, lookup_map_sorted]
  refine ((hperm.map Prod.fst).nodup_iff.mpr ?_)
  simpa [Function.comp_def] using hdistinct

/-- The number of levels of a value, as its decoder counts them. -/
def levels (value : Json) : Nat :=
  value.sorted.toDoc.height

theorem height_le_of_mem_entries {members : List (String × Json)} {member : String × Json}
    (h : member ∈ members) : member.2.toDoc.height ≤ (toEntries members).height := by
  induction members with
  | nil => cases h
  | cons first rest ih =>
      simp only [toEntries, Entries.height]
      rcases List.mem_cons.mp h with rfl | h
      · exact Nat.le_max_left ..
      · exact (ih h).trans (Nat.le_max_right ..)

theorem levels_lt_of_mem_object {members : List (String × Json)} (member : String × Json)
    (hdistinct : (members.map Prod.fst).Nodup) (h : member ∈ members) :
    member.2.levels < (object members).levels := by
  have hplaced : (member.1, member.2.sorted) ∈ sortedMembers members [] := by
    refine (sortedMembers_perm [] hdistinct).mem_iff.mpr ?_
    exact List.mem_map.mpr ⟨member, h, rfl⟩
  exact Nat.lt_succ_of_le (height_le_of_mem_entries hplaced)

theorem levels_lt_of_mem_array {items : List Json} {item : Json} (h : item ∈ items) :
    item.levels < (array items).levels := by
  suffices item.levels ≤ (toItems (sortedItems items)).height from Nat.lt_succ_of_le this
  induction items with
  | nil => cases h
  | cons first rest ih =>
      simp only [sortedItems, toItems, Items.height]
      rcases List.mem_cons.mp h with rfl | h
      · exact Nat.le_max_left ..
      · exact (ih h).trans (Nat.le_max_right ..)

theorem levels_lt_variant (name : String) (content : Json) :
    content.levels < (Json.variant name content).levels :=
  levels_lt_of_mem_object (name, content) (by simp) (by simp)

namespace Decoder

theorem map_ofJson (decode : Decoder α) (f : α → β) (value : Json) :
    (decode.map f).ofJson value = (decode.ofJson value).map f :=
  rfl

theorem list_ofJson {decode : Decoder β} {encode : α → Json} {f : α → β} {elements : List α}
    (hreads : ∀ element ∈ elements, decode.ofJson (encode element) = .ok (f element)) :
    (list decode).ofJson (Json.list encode elements) = .ok (elements.map f) := by
  show items decode .value (toItems (sortedItems (elements.map encode))) = _
  induction elements with
  | nil => rfl
  | cons first rest ih =>
      have hfirst : decode .value (encode first).sorted.toDoc = .ok (f first) :=
        hreads first List.mem_cons_self
      have hrest := ih fun element h => hreads element (List.mem_cons_of_mem _ h)
      simp only [List.map_cons, sortedItems, toItems, items, hfirst, hrest]
      rfl

theorem variant_ofJson {variants : List (Variant α)} {name : String} {content : Content α}
    (hselected : Variant.select variants name = .ok content) (value : Json) :
    (variant variants).ofJson (Json.variant name value) =
      (Variant.decode content).ofJson value := by
  show Variant.ofEntries variants .value (toEntries [(name, value.sorted)]) =
    Variant.decode content .value value.sorted.toDoc
  simp only [toEntries, Variant.ofEntries, bind, Except.bind, hselected, Except.mapError]
  cases Variant.decode content .value value.sorted.toDoc <;> rfl

theorem fields_ofJson (decode : Decoder α) (members : List (String × Json)) :
    (Variant.decode (.fields decode)).ofJson (.object members) =
      decode.ofJson (.object members) :=
  rfl

end Decoder

namespace Fields

def names : {β : Type} → Fields ρ β → List String
  | _, .done => []
  | _, .field first rest => first.name :: rest.names

/-- The record that the members of an object make: every field is given by the member of its name,
or by its fallback. -/
def ofMembers (members : List (String × Json)) :
    {β : Type} → (fields : Fields ρ β) → (make : β) → Except Fault ρ
  | _, .done, made => .ok made
  | _, .field first rest, make =>
      match members.lookup first.name, first.fallback with
      | some value, _ => do rest.ofMembers members (make (← first.decode.ofJson value))
      | none, some value => rest.ofMembers members (make value)
      | none, none => .error ⟨.missingField first.name, none⟩

def Gathers (members : List (String × Json)) :
    {β : Type} → (fields : Fields ρ β) → fields.Slots → fields.Slots → Prop
  | _, .done, _, _ => True
  | _, .field first rest, slots, filled =>
      (match members.lookup first.name with
       | some value => slots.1 = none ∧
          ∃ result, first.decode .value value.toDoc = .ok result ∧ filled.1 = some result
       | none => filled.1 = slots.1) ∧ rest.Gathers members slots.2 filled.2

theorem gathers_nil {fields : Fields ρ β} {slots filled : fields.Slots}
    (h : fields.Gathers [] slots filled) : filled = slots := by
  induction fields with
  | done => rfl
  | field first rest ih => exact Prod.ext h.1 (ih h.2)

theorem gathers_of_not_mem {key : String} {value : Json} {members : List (String × Json)}
    {fields : Fields ρ β} {slots filled : fields.Slots} (hother : key ∉ fields.names)
    (h : fields.Gathers ((key, value) :: members) slots filled) :
    fields.Gathers members slots filled := by
  induction fields with
  | done => trivial
  | field first rest ih =>
      simp only [names, List.mem_cons, not_or] at hother
      refine ⟨?_, ih hother.2 h.2⟩
      simpa [List.lookup_cons, beq_eq_false_iff_ne.mpr (Ne.symm hother.1)] using h.1

theorem fill?_of_gathers {key : String} {value : Json} {members : List (String × Json)}
    (settled : Place) {fields : Fields ρ β} {slots filled : fields.Slots}
    (hnamed : fields.names.Nodup) (hfresh : key ∉ members.map Prod.fst)
    (h : fields.Gathers ((key, value) :: members) slots filled) :
    (fields.fill? .value key settled value.toDoc slots = none ∧
      fields.Gathers members slots filled) ∨
    ∃ slots', fields.fill? .value key settled value.toDoc slots = some (.ok slots') ∧
      fields.Gathers members slots' filled := by
  induction fields with
  | done => exact .inl ⟨rfl, trivial⟩
  | field first rest ih =>
      obtain ⟨slot, slots⟩ := slots
      simp only [names, List.nodup_cons] at hnamed
      obtain ⟨hhead, hrest⟩ := h
      by_cases hsame : first.name = key
      · subst hsame
        simp only [List.lookup_cons, beq_self_eq_true] at hhead
        obtain ⟨rfl, result, hread, hlast⟩ := hhead
        refine .inr ⟨(some result, slots), by simp [fill?, hread, Except.map], ?_,
          gathers_of_not_mem hnamed.1 hrest⟩
        have hnone : members.lookup first.name = none := by
          refine List.lookup_eq_none_iff.mpr fun member h => ?_
          exact bne_iff_ne.mpr fun hsame => hfresh (hsame ▸ List.mem_map_of_mem h)
        simpa [hnone] using hlast
      · have hhead' : match members.lookup first.name with
            | some value => slot = none ∧
                ∃ result, first.decode .value value.toDoc = .ok result ∧ filled.1 = some result
            | none => filled.1 = slot := by
          simpa [List.lookup_cons, beq_eq_false_iff_ne.mpr hsame] using hhead
        rcases ih hnamed.2 hrest with ⟨hskipped, hrest'⟩ | ⟨slots', hread, hrest'⟩
        · exact .inl ⟨by simp [fill?, hsame, hskipped], hhead', hrest'⟩
        · exact .inr ⟨(slot, slots'), by simp [fill?, hsame, hread, Except.map], hhead', hrest'⟩

theorem ofEntries_of_gathers {make : β} {members : List (String × Json)} {fields : Fields ρ β}
    {slots filled : fields.Slots} {made : ρ} (hnamed : fields.names.Nodup)
    (hdistinct : (members.map Prod.fst).Nodup) (h : fields.Gathers members slots filled)
    (hcomplete : fields.make? filled make = .ok made) :
    ofEntries .value fields make (toEntries members) slots = .ok made := by
  induction members generalizing slots with
  | nil =>
      rw [← gathers_nil h]
      simp [toEntries, ofEntries, hcomplete, Except.mapError]
  | cons member rest ih =>
      obtain ⟨key, value⟩ := member
      simp only [List.map_cons, List.nodup_cons] at hdistinct
      simp only [toEntries, ofEntries, bind, Except.bind]
      rcases fill?_of_gathers .start hnamed hdistinct.1 h with
        ⟨hskipped, h⟩ | ⟨slots', hread, h⟩
      · simpa [hskipped] using ih hdistinct.2 h
      · simpa [hread] using ih hdistinct.2 h

theorem gathers_of_ofMembers {make : β} {members : List (String × Json)} {fields : Fields ρ β}
    {made : ρ} (h : fields.ofMembers members make = .ok made)
    {placed : List (String × Json)}
    (hlookup : ∀ name, placed.lookup name = (members.lookup name).map sorted) :
    ∃ filled, fields.Gathers placed fields.vacant filled ∧ fields.make? filled make = .ok made := by
  induction fields with
  | done => exact ⟨(), trivial, by simpa [make?, ofMembers] using h⟩
  | field first rest ih =>
      simp only [ofMembers] at h
      cases hgiven : members.lookup first.name with
      | some value =>
          simp only [hgiven, bind, Except.bind] at h
          cases hread : first.decode.ofJson value with
          | error fault => simp [hread] at h
          | ok result =>
              simp only [hread] at h
              obtain ⟨filled, hgathers, hcomplete⟩ := ih h
              refine ⟨(some result, filled), ⟨?_, hgathers⟩, by simp [make?, hcomplete]⟩
              rw [hlookup, hgiven]
              exact ⟨rfl, result, hread, rfl⟩
      | none =>
          simp only [hgiven] at h
          cases hfallback : first.fallback with
          | none => simp [hfallback] at h
          | some value =>
              simp only [hfallback] at h
              obtain ⟨filled, hgathers, hcomplete⟩ := ih h
              refine ⟨(none, filled), ⟨?_, hgathers⟩, by simp [make?, hfallback, hcomplete]⟩
              rw [hlookup, hgiven]
              rfl

end Fields

/-- A record is read field by field, in whichever order its members are written. -/
theorem Decoder.record_ofJson {title : String} {make : β} {members : List (String × Json)}
    {fields : Fields ρ β} {made : ρ} (hnamed : fields.names.Nodup)
    (hdistinct : (members.map Prod.fst).Nodup) (h : fields.ofMembers members make = .ok made) :
    (Decoder.record title make fields).ofJson (.object members) = .ok made := by
  obtain ⟨filled, hgathers, hcomplete⟩ :=
    Fields.gathers_of_ofMembers h (lookup_sortedMembers hdistinct)
  have hplaced : ((sortedMembers members []).map Prod.fst).Nodup := by
    refine (((sortedMembers_perm [] hdistinct).map Prod.fst).nodup_iff.mpr ?_)
    simpa [Function.comp_def] using hdistinct
  exact Fields.ofEntries_of_gathers hnamed hplaced hgathers hcomplete

theorem lookup_member? (key name : String) (encode : α → Json) (value : Option α) :
    (member? key encode value).lookup name = if name = key then value.map encode else none := by
  cases value with
  | none => simp [member?]
  | some value =>
      by_cases hsame : name = key <;> simp [member?, List.lookup_cons, hsame, beq_eq_decide]

theorem keys_member? (key : String) (encode : α → Json) (value : Option α) :
    ((member? key encode value).map Prod.fst).Sublist [key] := by
  cases value <;> simp [member?]

theorem lookup_listMember? (key name : String) (encode : α → Json) (elements : List α) :
    (listMember? key encode elements).lookup name =
      if name = key ∧ elements ≠ [] then some (Json.list encode elements) else none := by
  cases elements with
  | nil => simp [listMember?]
  | cons first rest =>
      by_cases hsame : name = key <;> simp [listMember?, List.lookup_cons, hsame, beq_eq_decide]

theorem keys_listMember? (key : String) (encode : α → Json) (elements : List α) :
    ((listMember? key encode elements).map Prod.fst).Sublist [key] := by
  cases elements <;> simp [listMember?]

namespace Fields

variable {name : String} {members : List (String × Json)} {rest : Fields ρ β}

theorem ofMembers_required {decode : Decoder α} (value : Json) {result : α} {make : α → β}
    (hgiven : members.lookup name = some value) (hread : decode.ofJson value = .ok result) :
    (field (.required name decode) rest).ofMembers members make =
      rest.ofMembers members (make result) := by
  simp [ofMembers, Field.required, hgiven, hread, bind, Except.bind]

theorem ofMembers_defaulted {decode : Decoder α} {fallback : α} {value : Json} {result : α}
    {make : α → β} (hgiven : members.lookup name = some value)
    (hread : decode.ofJson value = .ok result) :
    (field (.defaulted name decode fallback) rest).ofMembers members make =
      rest.ofMembers members (make result) := by
  simp [ofMembers, Field.defaulted, hgiven, hread, bind, Except.bind]

/-- An absent value is left out and read as absent; a value that is present is not written as
null, which would be read as absent. -/
theorem ofMembers_optional {decode : Decoder β} (encode : α → Json) (f : α → β) (value : Option α)
    {rest : Fields ρ γ} {make : Option β → γ}
    (hgiven : members.lookup name = value.map encode)
    (hread : ∀ content, decode.optional.ofJson (encode content) = .ok (some (f content))) :
    (field (.optional name decode) rest).ofMembers members make =
      rest.ofMembers members (make (value.map f)) := by
  cases value with
  | none => simp [ofMembers, Field.optional, hgiven]
  | some content =>
      simp [ofMembers, Field.optional, hgiven, hread content, bind, Except.bind]

/-- An empty list is left out and read as the empty list. -/
theorem ofMembers_list {decode : Decoder (List β)} (encode : List α → Json) (f : α → β)
    (elements : List α) {rest : Fields ρ γ} {make : List β → γ}
    (hgiven : members.lookup name = if elements = [] then none else some (encode elements))
    (hread : elements ≠ [] → decode.ofJson (encode elements) = .ok (elements.map f)) :
    (field (.defaulted name decode []) rest).ofMembers members make =
      rest.ofMembers members (make (elements.map f)) := by
  by_cases hempty : elements = []
  · simp [ofMembers, Field.defaulted, hgiven, hempty]
  · exact ofMembers_defaulted (by rw [hgiven, if_neg hempty]) (hread hempty)

end Fields

end Conversation.Json

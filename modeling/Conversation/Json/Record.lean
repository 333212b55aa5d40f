import Conversation.Json.Decoder

namespace Conversation.Json

structure Field (α : Type) where
  name : String
  decode : Decoder α
  /-- The value of the field when it is left out. -/
  fallback : Option α

def Field.required {α : Type} (name : String) (decode : Decoder α) : Field α :=
  ⟨name, decode, none⟩

def Field.optional {α : Type} (name : String) (decode : Decoder α) : Field (Option α) :=
  ⟨name, decode.optional, some none⟩

def Field.defaulted {α : Type} (name : String) (decode : Decoder α) (fallback : α) : Field α :=
  ⟨name, decode, some fallback⟩

/-- The fields of a record of type `ρ`, in order. A function of type `β` makes the record of their
values. A record is written as an object, or as an array of these values. -/
inductive Fields (ρ : Type) : Type → Type 1
  | done : Fields ρ ρ
  | field {α β : Type} (first : Field α) (rest : Fields ρ β) : Fields ρ (α → β)

namespace Fields

variable {ρ : Type}

def count : {β : Type} → Fields ρ β → Nat
  | _, .done => 0
  | _, .field _ rest => rest.count + 1

/-- For each field the value that has been read, if any. -/
def Slots : {β : Type} → Fields ρ β → Type
  | _, .done => Unit
  | _, @field _ α _ _ rest => Option α × rest.Slots

def vacant : {β : Type} → (fields : Fields ρ β) → fields.Slots
  | _, .done => ()
  | _, .field _ rest => (none, rest.vacant)

/-- Reads the value of the field with a name, if there is such a field. A field is read only
once. -/
def fill? (origin : Origin) (name : String) (settled : Place) (doc : Doc) :
    {β : Type} → (fields : Fields ρ β) → fields.Slots → Option (Except Fault fields.Slots)
  | _, .done, _ => none
  | _, .field first rest, filled =>
      match filled with
      | (slot, slots) =>
          if first.name = name then
            match slot with
            | some _ => some (.error (origin.fault (.duplicateField name) settled))
            | none => some ((first.decode origin doc).map fun value => (some value, slots))
          else (rest.fill? origin name settled doc slots).map fun result =>
            result.map fun slots => (slot, slots)

/-- Makes the record of the values that have been read and of those to fall back to; otherwise
gives the name of the first field that has neither. -/
def make? : {β : Type} → (fields : Fields ρ β) → fields.Slots → β → Except String ρ
  | _, .done, _, made => .ok made
  | _, .field first rest, filled, make =>
      match filled with
      | (slot, slots) =>
          match slot.or first.fallback with
          | some value => rest.make? slots (make value)
          | none => .error first.name

/-- Reads the fields from the members of an object. Members of other names are passed over. -/
def ofEntries {β : Type} (origin : Origin) (fields : Fields ρ β) (make : β) :
    Entries → fields.Slots → Except Fault ρ
  | .close stop, slots =>
      (fields.make? slots make).mapError fun name => origin.fault (.missingField name) stop
  | .broken fault, _ => .error fault.read
  | .entry key _ settled value _ rest, slots => do
      match fields.fill? origin (← key) settled value slots with
      | some filled => ofEntries origin fields make rest (← filled)
      | none => ofEntries origin fields make rest slots

def endItems (origin : Origin) (index : Nat) (last : Option Follow) (rest : Items) :
    Except Fault Unit :=
  match origin with
  | .text =>
      match last.bind Follow.surplus with
      | some fault => .error fault
      | none => .ok ()
  | .value =>
      match rest with
      | .item .. =>
          .error ⟨.invalidLength (index + rest.length) "fewer elements in array", none⟩
      | _ => .ok ()

/-- Reads the fields from the items of an array, the next one at `index`. The description `whole`
of the array is for the case that it ends too early. -/
def ofItems (origin : Origin) (whole : String) :
    {β : Type} → (index : Nat) → (last : Option Follow) → Fields ρ β → β → Items → Except Fault ρ
  | _, index, last, .done, made, rest => do
      endItems origin index last rest
      return made
  | _, index, _, .field first fields, make, .item value follow rest => do
      let value ← (first.decode origin value).mapError fun fault =>
        origin.settle fault follow.place
      ofItems origin whole (index + 1) (some follow) fields (make value) rest
  | _, index, _, .field first fields, make, .close stop =>
      match first.fallback with
      | some value => ofItems origin whole (index + 1) none fields (make value) (.close stop)
      | none => .error (origin.fault (.invalidLength index whole) stop)
  | _, _, _, .field .., _, .broken fault => .error fault.read

end Fields

def lengthText (title : String) (count : Nat) : String :=
  title ++ " with " ++ Text.decimal count ++ (if count = 1 then " element" else " elements")

def Decoder.record {ρ β : Type} (title : String) (make : β) (fields : Fields ρ β) : Decoder ρ
  | origin, .array start depth items => do
      origin.enter start depth
      fields.ofItems origin (lengthText title fields.count) 0 none make items
  | origin, .object start depth entries => do
      origin.enter start depth
      fields.ofEntries origin make entries fields.vacant
  | origin, doc => .error (doc.unexpected origin title)

end Conversation.Json

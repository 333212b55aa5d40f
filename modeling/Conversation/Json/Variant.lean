import Conversation.Json.Decoder

namespace Conversation.Json

inductive Content (α : Type)
  /-- Nothing; its content is written as null. -/
  | nothing (value : α)
  | single (decode : Decoder α)
  | fields (decode : Decoder α)

/-- A named form of a type. It is written as an object with one member, its name and its content;
a form without content may also be written as its name. -/
structure Variant (α : Type) where
  name : String
  content : Content α

namespace Variant

variable {α : Type}

def select (variants : List (Variant α)) (name : String) : Except Cause (Content α) :=
  match variants.find? fun variant => variant.name = name with
  | some variant => .ok variant.content
  | none => .error (.unknownVariant name (variants.map Variant.name))

/-- The variant of which only the name is given. Faults have no place of their own. -/
def ofName : Content α → Except Fault α
  | .nothing value => .ok value
  | .single _ => .error ⟨.invalidType .bareVariant "newtype variant", none⟩
  | .fields .. => .error ⟨.invalidType .bareVariant "struct variant", none⟩

def decode : Content α → Decoder α
  | .nothing value => Decoder.unit.map fun _ => value
  | .single decode => decode
  | .fields decode => fun origin doc =>
      match origin, doc with
      | .value, .object .. => decode origin doc
      | .value, doc => .error (doc.unexpected origin "struct variant")
      | .text, doc => decode origin doc

def ofEntries (variants : List (Variant α)) (origin : Origin) : Entries → Except Fault α
  | .close stop =>
      match origin with
      | .value => .error ⟨.invalidValue .map "map with a single key", none⟩
      | .text => .error (.at .expectedValue stop)
  | .broken fault => .error
      (match fault.read.cause with
       | .endInObject => { fault.read with cause := .endInValue }
       | _ => fault.read)
  | .entry key stop _ value surplus rest => do
      match origin, rest with
      | .value, .entry .. => throw ⟨.invalidValue .map "map with a single key", none⟩
      | _, _ =>
          let content ← (select variants (← key)).mapError fun cause => origin.fault cause stop
          let value ← decode content origin value
          match surplus with
          | some fault => throw fault
          | none => return value

end Variant

/-- The fault of a document that stands where a variant is expected. -/
def Doc.noVariant (origin : Origin) (doc : Doc) : Fault :=
  match origin with
  | .value => doc.unexpected origin "string or map"
  | .text =>
      match doc with
      | .absent fault => fault
      | .null start _ _ | .plain start _ _ | .string start _ _ | .array start _ _
      | .object start _ _ => .at .expectedValue ⟨start.line, start.column + 1⟩

def Decoder.variant {α : Type} (variants : List (Variant α)) : Decoder α
  | origin, .string _ content stop => do
      let selected ← (Variant.select variants (← content)).mapError fun cause =>
        origin.fault cause stop
      Variant.ofName selected
  | origin, .object start depth entries => do
      origin.enter start depth
      Variant.ofEntries variants origin entries
  | origin, doc => .error (doc.noVariant origin)

end Conversation.Json

import Conversation.Json.Reader
import Conversation.Table

namespace Conversation.Json

inductive Origin
  | value
  | text
  deriving DecidableEq, Repr, Inhabited

namespace Origin

def fault (origin : Origin) (cause : Cause) (place : Place) : Fault :=
  match origin with
  | .value => ⟨cause, none⟩
  | .text => .at cause place

/-- The fault of a part, placed where the whole ends unless it has a place of its own. -/
def settle (origin : Origin) (fault : Fault) (place : Place) : Fault :=
  match origin with
  | .value => fault
  | .text => fault.orPlace (some place)

def maxDepth : Nat := 127

/-- Checks that a bracket at `place`, the `depth`-th open one, may be entered. -/
def enter (origin : Origin) (place : Place) (depth : Nat) : Except Fault Unit :=
  match origin with
  | .value => .ok ()
  | .text =>
      if depth ≤ maxDepth then .ok ()
      else .error (.at .recursionLimit ⟨place.line, place.column + 1⟩)

end Origin

/-- How a value is taken from a document. Only in a document made of a text do faults have places,
and only there the nesting of brackets is limited. -/
abbrev Decoder (α : Type) := Origin → Doc → Except Fault α

/-- The fault of a document that stands where something else is expected. What is wrong with the
document itself is reported first. -/
def Doc.unexpected (origin : Origin) (expected : String) : Doc → Fault
  | .absent fault => fault
  | .null _ (.error fault) _ => fault
  | .null _ (.ok _) stop => origin.fault (.invalidType .null expected) stop
  | .plain _ (.error fault) _ => fault
  | .plain _ (.ok (.bool value)) stop => origin.fault (.invalidType (.bool value) expected) stop
  | .plain _ (.ok (.number value)) stop =>
      origin.fault (.invalidType (.number value) expected) stop
  | .string _ (.error fault) _ => fault
  | .string _ (.ok value) stop => origin.fault (.invalidType (.string value) expected) stop
  | .array start _ _ => origin.fault (.invalidType .sequence expected) start
  | .object start _ _ => origin.fault (.invalidType .map expected) start

namespace Decoder

variable {α β : Type}

def map (f : α → β) (decode : Decoder α) : Decoder β :=
  fun origin doc => (decode origin doc).map f

def string : Decoder String
  | _, .string _ content _ => content
  | origin, doc => .error (doc.unexpected origin "a string")

def unit : Decoder Unit
  | _, .null _ content _ => content
  | origin, doc => .error (doc.unexpected origin "unit")

/-- The state that a number stands for: a natural number of at most 32 bits. -/
def stateOf : Number → Except Cause State
  | .integer value =>
      if 0 ≤ value ∧ value < Int.pow 2 32 then .ok value.toNat
      else .error (.invalidValue (.number (.integer value)) "u32")
  | .real value => .error (.invalidType (.number (.real value)) "u32")

def state : Decoder State
  | origin, .plain _ (.ok (.number given)) stop =>
      (stateOf given).mapError fun cause => origin.fault cause stop
  | origin, doc => .error (doc.unexpected origin "u32")

def optional (decode : Decoder α) : Decoder (Option α)
  | _, .null _ content _ => content.map fun _ => none
  | origin, doc => (decode origin doc).map some

def items (decode : Decoder α) (origin : Origin) : Items → Except Fault (List α)
  | .close _ => .ok []
  | .broken fault => .error fault.read
  | .item value follow rest => do
      let first ← (decode origin value).mapError fun fault => origin.settle fault follow.place
      return first :: (← items decode origin rest)

def list (decode : Decoder α) : Decoder (List α)
  | origin, .array start depth content => do
      origin.enter start depth
      items decode origin content
  | origin, doc => .error (doc.unexpected origin "a sequence")

def stateSet : Decoder StateSet :=
  (list state).map StateSet.ofList

/-- The state that a key stands for. The key is a JSON text of its own that holds nothing but a
number. -/
def stateOfKey (key : String) : Except Fault State :=
  let cursor : Cursor := ⟨key.toList, .start⟩
  match cursor.rest.head? with
  | some c =>
      if c = '-' ∨ c.isDigit then
        match readNumber cursor with
        | (doc, next) => do
            let given ← state .text doc
            match next with
            | .ok ⟨[], _⟩ => return given
            | _ => throw ⟨.numericKey, none⟩
      else .error ⟨.numericKey, none⟩
  | none => .error ⟨.numericKey, none⟩

def tableEntries (decode : Decoder α) (origin : Origin) :
    Entries → Table α → Except Fault (Table α)
  | .close _, table => .ok table
  | .broken fault, _ => .error fault.read
  | .entry key _ _ value _ rest, table => do
      let state ← stateOfKey (← key)
      let value ← decode origin value
      tableEntries decode origin rest (table.insert state value)

/-- Takes a table from an object whose keys are numerals; a later entry replaces an earlier one
for the same state. -/
def table (decode : Decoder α) : Decoder (Table α)
  | origin, .object start depth entries => do
      origin.enter start depth
      tableEntries decode origin entries []
  | origin, doc => .error (doc.unexpected origin "a map")

def ofJson (decode : Decoder α) (value : Json) : Except Fault α :=
  decode .value value.sorted.toDoc

/-- Takes a value from a text, behind which nothing else may stand. -/
def ofText (decode : Decoder α) (text : String) : Except Fault α := do
  let (doc, surplus) := document text
  let value ← decode .text doc
  match surplus with
  | some fault => throw fault
  | none => return value

end Decoder

end Conversation.Json

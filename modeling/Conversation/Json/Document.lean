import Conversation.Json.Place

/-!
JSON documents: values together with the places of their parts. A document is also made of a text
that is no JSON; it then breaks off where the text stops being JSON. What is wrong with a text can
depend on whether it is read or skipped: strings and numbers are only checked in full when they are
read, and commas before a closing bracket are reported differently.
-/

namespace Conversation.Json

/-- Where a text stops being JSON: the faults for a reader that reads and for one that skips. -/
structure Break where
  read : Fault
  skip : Fault

def Break.both (fault : Fault) : Break := ⟨fault, fault⟩

/-- What stands behind an item of an array. -/
structure Follow where
  /-- The place behind the closing bracket or the comma that follows, or behind the item. -/
  place : Place
  /-- The fault if the item should have been the last one and is not. -/
  surplus : Option Fault

inductive Plain
  | bool (value : Bool)
  | number (value : Number)

mutual

inductive Doc
  | absent (fault : Fault)
  /-- The word `null`, or what begins like it. -/
  | null (start : Place) (content : Except Fault Unit) (stop : Place)
  /-- Another word or a number, or what begins like one. -/
  | plain (start : Place) (content : Except Fault Plain) (stop : Place)
  | string (start : Place) (content : Except Fault String) (stop : Place)
  /-- An array; `depth` counts the brackets around its items. -/
  | array (start : Place) (depth : Nat) (items : Items)
  | object (start : Place) (depth : Nat) (entries : Entries)

inductive Items
  | close (stop : Place)
  | broken (fault : Break)
  | item (value : Doc) (follow : Follow) (rest : Items)

inductive Entries
  | close (stop : Place)
  | broken (fault : Break)
  /-- A member. The place `stop` is the one behind the key; `settled` is behind the blanks that
  follow, or behind a closing brace there. The fault `surplus` is the one if the member should have
  been the last one and is not. -/
  | entry (key : Except Fault String) (stop settled : Place) (value : Doc)
      (surplus : Option Fault) (rest : Entries)

end

instance : Inhabited Doc := ⟨.absent ⟨.expectedValue, none⟩⟩

def Items.length : Items → Nat
  | .close _ => 0
  | .broken _ => 0
  | .item _ _ rest => rest.length + 1

mutual

def Doc.height : Doc → Nat
  | .array _ _ items => items.height + 1
  | .object _ _ entries => entries.height + 1
  | _ => 1

def Items.height : Items → Nat
  | .item value _ rest => max value.height rest.height
  | _ => 0

def Entries.height : Entries → Nat
  | .entry _ _ _ value _ rest => max value.height rest.height
  | _ => 0

end

mutual

/-- A value as a document; its places are arbitrary. -/
def toDoc : Json → Doc
  | .null => .null .start (.ok ()) .start
  | .bool value => .plain .start (.ok (.bool value)) .start
  | .number value => .plain .start (.ok (.number value)) .start
  | .string value => .string .start (.ok value) .start
  | .array items => .array .start 0 (toItems items)
  | .object members => .object .start 0 (toEntries members)

def toItems : List Json → Items
  | [] => .close .start
  | item :: rest => .item item.toDoc ⟨.start, none⟩ (toItems rest)

def toEntries : List (String × Json) → Entries
  | [] => .close .start
  | (key, value) :: rest =>
      .entry (.ok key) .start .start value.toDoc none (toEntries rest)

end

mutual

def Doc.toJson : Doc → Except Fault Json
  | .absent fault => .error fault
  | .null _ content _ => content.map fun _ => .null
  | .plain _ content _ => content.map fun
      | .bool value => .bool value
      | .number value => .number value
  | .string _ content _ => content.map .string
  | .array _ _ items => items.toJson.map .array
  | .object _ _ entries => entries.toJson.map .object

def Items.toJson : Items → Except Fault (List Json)
  | .close _ => .ok []
  | .broken fault => .error fault.read
  | .item value _ rest => do
      return (← value.toJson) :: (← rest.toJson)

def Entries.toJson : Entries → Except Fault (List (String × Json))
  | .close _ => .ok []
  | .broken fault => .error fault.read
  | .entry key _ _ value _ rest => do
      return (← key, ← value.toJson) :: (← rest.toJson)

end

end Conversation.Json

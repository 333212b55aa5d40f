import Conversation.Json.StringText

namespace Conversation.Json

namespace Cursor

def isGap (c : Char) : Bool :=
  c = ' ' || c = '\n' || c = '\t' || c = '\r'

def skipBlanks (cursor : Cursor) : Cursor :=
  let gap := cursor.rest.takeWhile isGap
  ⟨cursor.rest.drop gap.length, cursor.place.pastAll gap⟩

def peekFault (cursor : Cursor) (cause : Cause) : Fault :=
  .at cause cursor.peekPlace

def fault (cursor : Cursor) (cause : Cause) : Fault :=
  .at cause cursor.place

/-- Scans the rest of a word, whose first letter has been seen. -/
def word (cursor : Cursor) : List Char → Except Fault Cursor
  | [] => .ok cursor
  | letter :: letters =>
      match cursor.rest with
      | [] => .error (cursor.fault .endInValue)
      | c :: _ =>
          if c = letter then cursor.past.word letters
          else .error (cursor.peekFault .expectedWord)

end Cursor

/-- A document and the rest of the text behind it. When the text breaks off inside the document,
the fault is the one for a reader that skips it. -/
abbrev Parsed := Doc × Except Fault Cursor

def readWord (cursor : Cursor) (letters : List Char) (value : Bool) : Parsed :=
  match cursor.past.word letters with
  | .ok next => (.plain cursor.place (.ok (.bool value)) next.place, .ok next)
  | .error fault => (.plain cursor.place (.error fault) cursor.place, .error fault)

def readNull (cursor : Cursor) : Parsed :=
  match cursor.past.word ['u', 'l', 'l'] with
  | .ok next => (.null cursor.place (.ok ()) next.place, .ok next)
  | .error fault => (.null cursor.place (.error fault) cursor.place, .error fault)

def readNumber (cursor : Cursor) : Parsed :=
  let scanned :=
    match cursor.rest with
    | '-' :: _ => Numeral.scan true cursor.past
    | _ => Numeral.scan false cursor
  match scanned with
  | .ok (numeral, next) =>
      (.plain cursor.place ((numeral.value next.place).map .number) next.place, .ok next)
  | .error fault => (.plain cursor.place (.error fault.read) cursor.place, .error fault.skip)

def readString (cursor : Cursor) : Parsed :=
  match StringText.scan ⟨[], none, none⟩ cursor.past.place cursor.past.rest with
  | .ok (content, next) => (.string cursor.place content next.place, .ok next)
  | .error fault => (.string cursor.place (.error fault.read) cursor.place, .error fault.skip)

/-- What follows an item of an array: what stands there if it should be the last one, and where
the next item begins or how the array ends. -/
def followItem (cursor : Cursor) : Follow × Except (Items × Except Fault Cursor) Cursor :=
  let here := cursor.skipBlanks
  match here.rest with
  | [] =>
      let fault := here.fault .endInList
      (⟨here.place, some fault⟩, .error (.broken (.both fault), .error fault))
  | ']' :: _ =>
      let next := here.past
      (⟨next.place, none⟩, .error (.close next.place, .ok next))
  | ',' :: _ =>
      let next := here.past.skipBlanks
      match next.rest with
      | [] =>
          let fault := next.fault .endInValue
          (⟨next.place, some (next.fault .trailingCharacters)⟩,
            .error (.broken (.both fault), .error fault))
      | ']' :: _ =>
          let read := next.peekFault .trailingComma
          let skip := next.peekFault .expectedValue
          (⟨next.place, some read⟩, .error (.broken ⟨read, skip⟩, .error skip))
      | _ => (⟨next.place, some (next.peekFault .trailingCharacters)⟩, .ok next)
  | _ =>
      let fault := here.peekFault .expectedListCommaOrEnd
      (⟨here.place, some (here.peekFault .trailingCharacters)⟩,
        .error (.broken (.both fault), .error fault))

/-- What follows a member of an object: the fault if it should be the last one, and where the next
key begins or how the object ends. -/
def followEntry (cursor : Cursor) :
    Option Fault × Except (Entries × Except Fault Cursor) Cursor :=
  let here := cursor.skipBlanks
  match here.rest with
  | [] =>
      let fault := here.fault .endInObject
      (some fault, .error (.broken (.both fault), .error fault))
  | '}' :: _ =>
      let next := here.past
      (none, .error (.close next.place, .ok next))
  | ',' :: _ =>
      let surplus := here.fault .expectedValue
      let next := here.past.skipBlanks
      match next.rest with
      | '"' :: _ => (some surplus, .ok next)
      | [] =>
          let skip := next.fault .endInObject
          (some surplus, .error (.broken ⟨next.fault .endInValue, skip⟩, .error skip))
      | '}' :: _ =>
          let skip := next.peekFault .keyMustBeString
          (some surplus, .error (.broken ⟨next.peekFault .trailingComma, skip⟩, .error skip))
      | _ =>
          let fault := next.peekFault .keyMustBeString
          (some surplus, .error (.broken (.both fault), .error fault))
  | _ =>
      let fault := here.peekFault .expectedObjectCommaOrEnd
      (some (here.fault .expectedValue), .error (.broken (.both fault), .error fault))

/-- How the first member of an object begins, or how the object ends without one. -/
def firstEntry (cursor : Cursor) : Except (Entries × Except Fault Cursor) Cursor :=
  let here := cursor.skipBlanks
  match here.rest with
  | [] =>
      let fault := here.fault .endInObject
      .error (.broken (.both fault), .error fault)
  | '}' :: _ =>
      let next := here.past
      .error (.close next.place, .ok next)
  | '"' :: _ => .ok here
  | _ =>
      let fault := here.peekFault .keyMustBeString
      .error (.broken (.both fault), .error fault)

/-- How the first item of an array begins, or how the array ends without one. -/
def firstItem (cursor : Cursor) : Except (Items × Except Fault Cursor) Cursor :=
  let here := cursor.skipBlanks
  match here.rest with
  | [] =>
      let fault := here.fault .endInList
      .error (.broken (.both fault), .error fault)
  | ']' :: _ =>
      let next := here.past
      .error (.close next.place, .ok next)
  | _ => .ok here

def colon (cursor : Cursor) : Except Fault Cursor :=
  let here := cursor.skipBlanks
  match here.rest with
  | [] => .error (here.fault .endInObject)
  | ':' :: _ => .ok here.past
  | _ => .error (here.peekFault .expectedColon)

/-- The place behind the blanks that follow a key, or behind a closing brace there. -/
def settledPlace (cursor : Cursor) : Place :=
  let here := cursor.skipBlanks
  match here.rest with
  | '}' :: _ => here.past.place
  | _ => here.place

mutual

/-- Reads a value inside `depth` brackets. The fuel bounds the number of values read. -/
def readValue : (fuel depth : Nat) → Cursor → Parsed
  | 0, _, cursor =>
      let fault := cursor.fault .endInValue
      (.absent fault, .error fault)
  | fuel + 1, depth, cursor =>
      let here := cursor.skipBlanks
      match here.rest with
      | [] =>
          let fault := here.fault .endInValue
          (.absent fault, .error fault)
      | 'n' :: _ => readNull here
      | 't' :: _ => readWord here ['r', 'u', 'e'] true
      | 'f' :: _ => readWord here ['a', 'l', 's', 'e'] false
      | '"' :: _ => readString here
      | '[' :: _ =>
          let (items, next) :=
            match firstItem here.past with
            | .ok cursor => readItems fuel (depth + 1) cursor
            | .error done => done
          (.array here.place (depth + 1) items, next)
      | '{' :: _ =>
          let (entries, next) :=
            match firstEntry here.past with
            | .ok cursor => readEntries fuel (depth + 1) cursor
            | .error done => done
          (.object here.place (depth + 1) entries, next)
      | c :: _ =>
          if c = '-' ∨ c.isDigit then readNumber here
          else
            let fault := here.peekFault .expectedValue
            (.absent fault, .error fault)

def readItems : (fuel depth : Nat) → Cursor → Items × Except Fault Cursor
  | 0, _, cursor =>
      let fault := cursor.fault .endInValue
      (.broken (.both fault), .error fault)
  | fuel + 1, depth, cursor =>
      let (value, next) := readValue fuel depth cursor
      match next with
      | .error skip => (.item value ⟨cursor.place, none⟩ (.broken (.both skip)), .error skip)
      | .ok next =>
          let (follow, more) := followItem next
          let (rest, next) :=
            match more with
            | .ok cursor => readItems fuel depth cursor
            | .error done => done
          (.item value follow rest, next)

def readEntries : (fuel depth : Nat) → Cursor → Entries × Except Fault Cursor
  | 0, _, cursor =>
      let fault := cursor.fault .endInValue
      (.broken (.both fault), .error fault)
  | fuel + 1, depth, cursor =>
      match StringText.scan ⟨[], none, none⟩ cursor.past.place cursor.past.rest with
      | .error fault => (.broken fault, .error fault.skip)
      | .ok (key, behind) =>
          let (value, next) :=
            match colon behind with
            | .error fault => (Doc.absent fault, Except.error fault)
            | .ok cursor => readValue fuel depth cursor
          let settled := settledPlace behind
          match next with
          | .error skip =>
              (.entry key behind.place settled value none (.broken (.both skip)), .error skip)
          | .ok next =>
              let (surplus, more) := followEntry next
              let (rest, next) :=
                match more with
                | .ok cursor => readEntries fuel depth cursor
                | .error done => done
              (.entry key behind.place settled value surplus rest, next)

end

/-- The fault of what stands behind a value where the text should end. -/
def surplusFault? (cursor : Cursor) : Option Fault :=
  let here := cursor.skipBlanks
  match here.rest with
  | [] => none
  | _ => some (here.peekFault .trailingCharacters)

/-- Reads a whole text: its value, and the fault of what stands behind it. Where the text stops
being JSON, the document breaks off, on all levels of nesting. Every value takes at least one
character, so the fuel suffices. -/
def document (text : String) : Doc × Option Fault :=
  let chars := text.toList
  match readValue (2 * chars.length + 2) 0 ⟨chars, .start⟩ with
  | (doc, .ok next) => (doc, surplusFault? next)
  | (doc, .error fault) => (doc, some fault)

def ofText (text : String) : Except Fault Json := do
  let (doc, surplus) := document text
  let value ← doc.toJson
  match surplus with
  | some fault => throw fault
  | none => return value

end Conversation.Json

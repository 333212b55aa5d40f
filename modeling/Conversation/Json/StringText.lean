import Conversation.Json.Numeral

namespace Conversation.Json.StringText

def hexValue? (c : Char) : Option Nat :=
  let n := c.toNat
  if c.isDigit then some (n - 0x30)
  else if 0x61 ≤ n ∧ n ≤ 0x66 then some (n - 0x57)
  else if 0x41 ≤ n ∧ n ≤ 0x46 then some (n - 0x37)
  else none

def hexCode? (a b c d : Char) : Option Nat := do
  return (((← hexValue? a) * 16 + (← hexValue? b)) * 16 + (← hexValue? c)) * 16 + (← hexValue? d)

def letterEscape? : Char → Option Char
  | '"' => some '"'
  | '\\' => some '\\'
  | '/' => some '/'
  | 'b' => some '\x08'
  | 'f' => some '\x0C'
  | 'n' => some '\n'
  | 'r' => some '\r'
  | 't' => some '\t'
  | _ => none

/-- What has been read of a string: the characters so far, the latest first; the first fault that
only concerns a reader that reads; and a leading surrogate that waits for its partner. -/
structure Progress where
  chars : List Char
  fault : Option Fault
  leading : Option Nat

namespace Progress

def note (progress : Progress) (fault : Fault) : Progress :=
  { progress with fault := progress.fault.or (some fault), leading := none }

def add (progress : Progress) (c : Char) (place : Place) : Progress :=
  if progress.leading.isSome then progress.note (.at .unexpectedEndOfEscape place)
  else { progress with chars := c :: progress.chars }

def addCode (progress : Progress) (code : Nat) (place : Place) : Progress :=
  match progress.leading with
  | some leading =>
      if 0xDC00 ≤ code ∧ code ≤ 0xDFFF then
        { progress with
          chars := Char.ofNat ((leading - 0xD800) * 0x400 + (code - 0xDC00) + 0x10000)
            :: progress.chars
          leading := none }
      else progress.note (.at .loneSurrogate place)
  | none =>
      if 0xDC00 ≤ code ∧ code ≤ 0xDFFF then progress.note (.at .loneSurrogate place)
      else if 0xD800 ≤ code ∧ code ≤ 0xDBFF then { progress with leading := some code }
      else { progress with chars := Char.ofNat code :: progress.chars }

def content (progress : Progress) : Except Fault String :=
  match progress.fault with
  | some fault => .error fault
  | none => .ok (String.ofList progress.chars.reverse)

/-- Both readers' faults where the string breaks off; an earlier fault of the reading one wins. -/
def breakAt (progress : Progress) (fault : Break) : Break :=
  ⟨progress.fault.getD fault.read, fault.skip⟩

end Progress

/-- Scans a string behind its opening quotation mark. Gives its content and the rest behind the
closing mark. -/
def scan (progress : Progress) (place : Place) :
    List Char → Except Break (Except Fault String × Cursor)
  | [] => .error (progress.breakAt (.both (.at .endInString place)))
  | '"' :: rest =>
      let stop := place.past '"'
      let progress :=
        if progress.leading.isSome then progress.note (.at .unexpectedEndOfEscape stop)
        else progress
      .ok (progress.content, ⟨rest, stop⟩)
  | ['\\'] => .error (progress.breakAt (.both (.at .endInString (place.past '\\'))))
  | '\\' :: 'u' :: rest =>
      let opened := (place.past '\\').past 'u'
      if (rest.take 4).foldl (fun size c => size + c.utf8Size) 0 < 4 then
        .error (progress.breakAt (.both (.at .endInString (opened.pastAll rest))))
      else
        let stop := opened.pastBytes 4 rest
        match rest with
        | a :: b :: c :: d :: rest =>
            match hexCode? a b c d with
            | some code => scan (progress.addCode code stop) stop rest
            | none => .error (progress.breakAt (.both (.at .invalidEscape stop)))
        | _ => .error (progress.breakAt (.both (.at .invalidEscape stop)))
  | '\\' :: letter :: rest =>
      let stop := (place.past '\\').pastByte letter
      match letterEscape? letter with
      | some c => scan (progress.add c stop) stop rest
      | none =>
          let progress :=
            if progress.leading.isSome then progress.note (.at .unexpectedEndOfEscape stop)
            else progress
          .error (progress.breakAt (.both (.at .invalidEscape stop)))
  | c :: rest =>
      if c.toNat < 0x20 then
        let progress :=
          if progress.leading.isSome then
            progress.note (.at .unexpectedEndOfEscape (place.pastByte c))
          else progress
        .error (progress.breakAt
          ⟨.at .controlCharacter (place.pastByte c), .at .controlCharacter place⟩)
      else scan (progress.add c (place.pastByte c)) (place.past c) rest

end Conversation.Json.StringText

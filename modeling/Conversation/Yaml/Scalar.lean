import Conversation.Yaml.Cursor

namespace Conversation.Yaml

/-- Blanks and line breaks between two words of a text. A line break counts as a space; of several
breaks the first one does not count. -/
structure Gap where
  blanks : List Char
  /-- The first break; an escaped one stands for nothing. -/
  first : Option (List Char)
  more : List Char

namespace Gap

def none : Gap := ⟨[], .none, []⟩

def escaped : Gap := ⟨[], some [], []⟩

/-- Adds a blank; behind a break it does not count. -/
def addBlank (gap : Gap) (c : Char) : Gap :=
  if gap.first.isSome then gap else { gap with blanks := gap.blanks ++ [c] }

def addBreak (gap : Gap) (c : Char) : Gap :=
  if gap.first.isSome then { gap with more := gap.more ++ [c] }
  else { gap with first := some [c] }

def text (gap : Gap) : List Char :=
  match gap.first with
  | .none => gap.blanks
  | some ['\n'] => if gap.more.isEmpty then [' '] else gap.more
  | some first => first ++ gap.more

def isNone (gap : Gap) : Bool :=
  gap.blanks.isEmpty && gap.first.isNone

/-- Reads on in a gap. Behind a line break, a tab before the column `indent` is refused; the error
is its place. -/
def scan (indent : Nat) (gap : Gap) (mark : Mark) : List Char → Except Mark (Gap × Cursor)
  | [] => .ok (gap, ⟨[], mark⟩)
  | '\r' :: '\n' :: rest => scan indent (gap.addBreak '\n') (mark.nextLine 2) rest
  | c :: rest =>
      if isBreak c then scan indent (gap.addBreak (breakChar c)) (mark.nextLine 1) rest
      else if isBlank c then
        if gap.first.isSome ∧ mark.column < indent ∧ c = '\t' then .error mark
        else scan indent (gap.addBlank c) (mark.past 1) rest
      else .ok (gap, ⟨c :: rest, mark⟩)

end Gap

structure Scanned where
  text : String
  /-- The place behind the last character of the text. -/
  stop : Mark
  next : Cursor
  brokeLine : Bool

def hexDigit? (c : Char) : Option Nat :=
  let n := c.toNat
  if c.isDigit then some (n - 0x30)
  else if 0x61 ≤ n ∧ n ≤ 0x66 then some (n - 0x57)
  else if 0x41 ≤ n ∧ n ≤ 0x46 then some (n - 0x37)
  else none

def hexNumber? (digits : List Char) : Option Nat :=
  digits.foldlM (fun n c => (hexDigit? c).map fun d => n * 16 + d) 0

def letterEscape? : Char → Option Char
  | '0' => some '\x00'
  | 'a' => some '\x07'
  | 'b' => some '\x08'
  | 't' => some '\t'
  | '\t' => some '\t'
  | 'n' => some '\n'
  | 'v' => some '\x0B'
  | 'f' => some '\x0C'
  | 'r' => some '\r'
  | 'e' => some '\x1B'
  | ' ' => some ' '
  | '"' => some '"'
  | '/' => some '/'
  | '\\' => some '\\'
  | 'N' => some '\u0085'
  | '_' => some '\u00A0'
  | 'L' => some '\u2028'
  | 'P' => some '\u2029'
  | _ => none

def escapeLength? : Char → Option Nat
  | 'x' => some 2
  | 'u' => some 4
  | 'U' => some 8
  | _ => none

/-- Reads an escape of a quoted text that begins at `start`; the backslash stands here. -/
def scanEscape (start : Mark) (cursor : Cursor) : Except Fault (Char × Cursor) :=
  let fault := fun problem (place : Cursor) => Fault.within .escape start problem place.mark
  match (cursor.past 1).rest with
  | [] => .error (fault .unknownEscape cursor)
  | letter :: _ =>
      let next := cursor.past 2
      match letterEscape? letter, escapeLength? letter with
      | some c, _ => .ok (c, next)
      | none, some count =>
          let digits := next.rest.take count
          match hexNumber? digits with
          | none => .error (fault .missingHexadecimal next)
          | some code =>
              if digits.length < count then .error (fault .missingHexadecimal next)
              else if code.isValidChar then .ok (Char.ofNat code, next.past count)
              else .error (fault .invalidCode next)
      | none, none => .error (fault .unknownEscape cursor)

/-- Reads on in a quoted text that begins at `start`, up to its closing mark. The text so far is
given in reverse. Every step takes a character, which the fuel counts. -/
def scanQuoted (double : Bool) (start : Mark) :
    (fuel : Nat) → (text : List Char) → Cursor → Except Fault Scanned
  | 0, _, cursor => .error (.within .quotedText start .unexpectedEnd cursor.mark)
  | fuel + 1, text, cursor => do
      let goOn := fun gap (mark : Mark) rest => do
        match Gap.scan 0 gap mark rest with
        | .error place => throw (.within .quotedText start .tabInIndentation place)
        | .ok (gap, next) =>
            if next.isAtDocumentMark then
              throw (.within .quotedText start .unexpectedDocumentMark next.mark)
            scanQuoted double start fuel (gap.text.reverse ++ text) next
      let finish := fun _ : Unit =>
        let next := cursor.past 1
        pure ⟨String.ofList text.reverse, next.mark, next, false⟩
      match cursor.rest with
      | [] => throw (.within .quotedText start .unexpectedEnd cursor.mark)
      | '\'' :: rest =>
          if double then scanQuoted double start fuel ('\'' :: text) (cursor.past 1)
          else if rest.head? = some '\'' then
            scanQuoted double start fuel ('\'' :: text) (cursor.past 2)
          else finish ()
      | '"' :: _ =>
          if double then finish ()
          else scanQuoted double start fuel ('"' :: text) (cursor.past 1)
      | '\\' :: _ =>
          if double then
            match (cursor.past 1).break? with
            | some (_, next) => goOn .escaped next.mark next.rest
            | none => do
                let (c, next) ← scanEscape start cursor
                scanQuoted double start fuel (c :: text) next
          else scanQuoted double start fuel ('\\' :: text) (cursor.past 1)
      | c :: rest =>
          if isBlank c || isBreak c then goOn .none cursor.mark (c :: rest)
          else scanQuoted double start fuel (c :: text) (cursor.past 1)

def isFlowEnd (c : Char) : Bool :=
  c = ',' || c = '[' || c = ']' || c = '{' || c = '}'

/-- Whether a plain text ends before what stands here. -/
def endsPlain (flow : Bool) (cursor : Cursor) : Bool :=
  match cursor.rest with
  | [] => true
  | c :: _ => (c = ':' && (cursor.past 1).isAtGap) || (flow && isFlowEnd c)

/-- Reads on in a plain text that begins at `start`; between brackets when `flow` is set, and else
in lines that begin at the column `indent` at least. The text so far is given in reverse, and
ended at `stop`; behind it there was a gap. Every step takes a character, which the fuel counts. -/
def scanPlain (flow : Bool) (indent : Nat) (start : Mark) :
    (fuel : Nat) → (text : List Char) → (stop : Mark) → Gap → Cursor → Except Fault Scanned
  | 0, text, stop, gap, cursor =>
      .ok ⟨String.ofList text.reverse, stop, cursor, gap.first.isSome⟩
  | fuel + 1, text, stop, gap, cursor => do
      let finished : Scanned := ⟨String.ofList text.reverse, stop, cursor, gap.first.isSome⟩
      if !gap.isNone && (cursor.isAtDocumentMark || cursor.isAt '#') then return finished
      match cursor.rest with
      | [] => return finished
      | c :: rest =>
          if isBlank c || isBreak c then
            match Gap.scan indent .none cursor.mark (c :: rest) with
            | .error place => throw (.within .plainText start .tabInIndentation place)
            | .ok (gap, next) =>
                if !flow && decide (next.mark.column < indent) then
                  return ⟨String.ofList text.reverse, stop, next, gap.first.isSome⟩
                scanPlain flow indent start fuel text stop gap next
          else if flow && c = ':' && rest.head?.any (fun c => isFlowEnd c || c = '?') then
            throw (.within .plainText start .unexpectedColon cursor.mark)
          else if endsPlain flow cursor then return finished
          else
            let next := cursor.past 1
            scanPlain flow indent start fuel (c :: (gap.text.reverse ++ text)) next.mark .none next

inductive Chomping
  | strip
  | clip
  | keep

/-- Reads the sign of a block text that says what happens to its last line breaks. -/
def scanChomping (cursor : Cursor) : Option Chomping × Cursor :=
  match cursor.rest with
  | '+' :: _ => (some .keep, cursor.past 1)
  | '-' :: _ => (some .strip, cursor.past 1)
  | _ => (none, cursor)

/-- Reads the digit of a block text that says how far it is indented. -/
def scanIndentation (start : Mark) (cursor : Cursor) : Except Fault (Option Nat × Cursor) :=
  match cursor.rest with
  | c :: _ =>
      if c = '0' then .error (.within .blockText start .zeroIndentation cursor.mark)
      else if c.isDigit then .ok (some (c.toNat - 0x30), cursor.past 1)
      else .ok (none, cursor)
  | [] => .ok (none, cursor)

/-- Reads the blank lines of a block text and the indentation behind them. Without a given
indentation, all spaces are taken; `widest` is the largest column met. Gives the line breaks in
reverse. -/
def scanBlankLines (start : Mark) (indent : Option Nat) :
    (fuel : Nat) → (widest : Nat) → (breaks : List Char) → Cursor →
      Except Fault (Nat × List Char × Cursor)
  | 0, widest, breaks, cursor => .ok (widest, breaks, cursor)
  | fuel + 1, widest, breaks, cursor =>
      let spaces := (cursor.rest.takeWhile fun c => c = ' ').length
      let count := match indent with
        | some indent => min spaces (indent - cursor.mark.column)
        | none => spaces
      let here := cursor.past count
      let widest := max widest here.mark.column
      if here.isAt '\t' && indent.all (fun indent => decide (here.mark.column < indent)) then
        .error (.within .blockText start .tabForSpace here.mark)
      else
        match here.break? with
        | some (c, next) => scanBlankLines start indent fuel widest (c :: breaks) next
        | none => .ok (widest, breaks, here)

/-- Reads the lines of a block text, whose first line begins here. The text so far and the line
breaks behind it are given in reverse. -/
def scanLines (literal : Bool) (start : Mark) (indent : Nat) :
    (fuel : Nat) → (text leading trailing : List Char) → (indentedBefore : Bool) → (stop : Mark) →
      Cursor → Except Fault (List Char × List Char × List Char × Mark × Cursor)
  | 0, text, leading, trailing, _, stop, cursor => .ok (text, leading, trailing, stop, cursor)
  | fuel + 1, text, leading, trailing, indentedBefore, stop, cursor => do
      if cursor.mark.column ≠ indent ∨ cursor.rest.isEmpty then
        return (text, leading, trailing, stop, cursor)
      let indented := cursor.rest.head?.any isBlank
      let joined :=
        if !literal && leading = ['\n'] && !indentedBefore && !indented then
          if trailing.isEmpty then ' ' :: text else trailing ++ text
        else trailing ++ leading ++ text
      let line := cursor.rest.takeWhile fun c => !isBreak c
      let here := cursor.past line.length
      let text := line.reverse ++ joined
      match here.break? with
      | none => return (text, [], [], here.mark, here)
      | some (c, next) =>
          let (_, breaks, after) ← scanBlankLines start (some indent) fuel 0 [] next
          scanLines literal start indent fuel text [c] breaks indented next.mark after

/-- Reads a block text, whose sign stands at `start`. The block around it is indented by
`outer`, if there is one. -/
def scanBlock (literal : Bool) (outer : Option Nat) (cursor : Cursor) : Except Fault Scanned := do
  let start := cursor.mark
  let fuel := cursor.rest.length + 1
  let (chomping, next) := scanChomping (cursor.past 1)
  let (increment, next) ← scanIndentation start next
  let (chomping, next) := match chomping with
    | some chomping => (chomping, next)
    | none =>
        let (chomping, next) := scanChomping next
        (chomping.getD .clip, next)
  let next := next.pastAll isBlank
  let next := if next.isAt '#' then next.pastAll fun c => !isBreak c else next
  let body ← match next.break?, next.rest with
    | some (_, body), _ => pure body
    | none, [] => pure next
    | none, _ => throw (Fault.within .blockText start .missingLineBreak next.mark)
  let given := increment.map fun increment => outer.getD 0 + increment
  let (widest, breaks, first) ← scanBlankLines start given fuel 0 [] body
  let least := (outer.map (· + 1)).getD 0
  let indent := given.getD (max (max widest least) 1)
  let (text, leading, trailing, stop, next) ←
    scanLines literal start indent fuel [] [] breaks false body.mark first
  let text := match chomping with
    | .strip => text
    | .clip => leading ++ text
    | .keep => trailing ++ leading ++ text
  return ⟨String.ofList text.reverse, stop, next, true⟩

end Conversation.Yaml

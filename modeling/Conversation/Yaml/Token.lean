import Conversation.Yaml.Scalar

/-!
Cutting YAML texts into tokens. Indentation opens and closes blocks. Whether a scalar or a bracket
begins a key is only known when a colon follows; until then its place is remembered, and the token
for the key is inserted there later.
-/

namespace Conversation.Yaml

inductive Token
  | streamEnd
  | directive
  | documentStart
  | documentEnd
  | blockSequence
  | blockMapping
  | blockEnd
  | flowSequence
  | flowSequenceEnd
  | flowMapping
  | flowMappingEnd
  | dash
  | comma
  | key
  | value
  | alias (name : String)
  | anchor (name : String)
  | tag (name : String)
  | scalar (text : String) (plain : Bool)
  deriving DecidableEq, Repr

structure Located where
  token : Token
  start : Mark
  stop : Mark

/-- A token that may turn out to begin a key. -/
structure Candidate where
  /-- The number of tokens before it. -/
  number : Nat
  start : Mark
  required : Bool

structure Scanner where
  cursor : Cursor
  tokens : Array Located
  /-- Whether a key may begin here. -/
  keyAllowed : Bool
  /-- The candidate of the innermost brackets, or of the blocks. -/
  candidate : Option Candidate
  /-- The candidates around the open brackets, innermost first. -/
  outer : List (Option Candidate)
  indents : List Nat

namespace Scanner

def inFlow (scanner : Scanner) : Bool :=
  !scanner.outer.isEmpty

def candidates (scanner : Scanner) : List Candidate :=
  (scanner.candidate :: scanner.outer).filterMap id

/-- The number of tokens that no later one can change. -/
def settled (scanner : Scanner) : Nat :=
  scanner.candidates.foldl (fun count candidate => min count candidate.number)
    scanner.tokens.size

def emit (scanner : Scanner) (token : Token) (start stop : Mark) : Scanner :=
  { scanner with tokens := scanner.tokens.push ⟨token, start, stop⟩ }

/-- Adds a token of some characters and goes on behind it. -/
def take (scanner : Scanner) (token : Token) (count : Nat) : Scanner :=
  let next := scanner.cursor.past count
  { scanner.emit token scanner.cursor.mark next.mark with cursor := next }

/-- The fault of a candidate that had to be a key. -/
def missingColon (scanner : Scanner) (candidate : Candidate) : Fault :=
  .within .simpleKey candidate.start .missingColon scanner.cursor.mark

/-- Whether a candidate can no longer be a key: keys stand in one line and are not too long. -/
def isStale (scanner : Scanner) (candidate : Candidate) : Bool :=
  candidate.start.line < scanner.cursor.mark.line
    || candidate.start.index + 1024 < scanner.cursor.mark.index

def dropStale (scanner : Scanner) : Except Fault Scanner :=
  let keep := fun candidate : Option Candidate =>
    candidate.filter fun candidate => !scanner.isStale candidate
  match scanner.candidates.reverse.find? fun candidate =>
      candidate.required && scanner.isStale candidate with
  | some candidate => .error (scanner.missingColon candidate)
  | none =>
      .ok { scanner with
        candidate := keep scanner.candidate
        outer := scanner.outer.map keep }

def dropCandidate (scanner : Scanner) : Except Fault Scanner :=
  match scanner.candidate with
  | some candidate =>
      if candidate.required then .error (scanner.missingColon candidate)
      else .ok { scanner with candidate := none }
  | none => .ok scanner

/-- Makes the next token the current candidate, where a key may begin. -/
def noteCandidate (scanner : Scanner) : Except Fault Scanner :=
  if scanner.keyAllowed then do
    let scanner ← scanner.dropCandidate
    let mark := scanner.cursor.mark
    let required := !scanner.inFlow && scanner.indents.head? = some mark.column
    return { scanner with candidate := some ⟨scanner.tokens.size, mark, required⟩ }
  else .ok scanner

/-- Opens a block at a column if it is further in than the current one. Its token is inserted
before the token of a number. -/
def openBlock (scanner : Scanner) (token : Token) (number : Nat) (mark : Mark) : Scanner :=
  if scanner.inFlow || !scanner.indents.head?.all (fun indent => decide (indent < mark.column))
  then scanner
  else
    { scanner with
      indents := mark.column :: scanner.indents
      tokens := scanner.tokens.insertIdxIfInBounds number ⟨token, mark, mark⟩ }

def closeBlocks (scanner : Scanner) (column : Int) : Scanner :=
  if scanner.inFlow then scanner
  else
    let mark := scanner.cursor.mark
    let closed := scanner.indents.takeWhile fun indent => decide (column < Int.ofNat indent)
    closed.foldl (fun scanner _ => scanner.emit .blockEnd mark mark)
      { scanner with indents := scanner.indents.drop closed.length }

/-- Passes over blanks, comments and line breaks. In a block, tabs are no blanks where a key may
begin, and a key may begin behind a line break. -/
def skipGap : (fuel : Nat) → Scanner → Scanner
  | 0, scanner => scanner
  | fuel + 1, scanner =>
      let here := scanner.cursor.pastAll fun c =>
        c = ' ' || ((scanner.inFlow || !scanner.keyAllowed) && c = '\t')
      let here := if here.isAt '#' then here.pastAll fun c => !isBreak c else here
      match here.break? with
      | some (_, next) =>
          skipGap fuel { scanner with
            cursor := next
            keyAllowed := scanner.keyAllowed || !scanner.inFlow }
      | none => { scanner with cursor := here }

def takeEnd (scanner : Scanner) : Except Fault Scanner := do
  let mark := scanner.cursor.mark
  let mark : Mark := if mark.column = 0 then mark else ⟨mark.index, mark.line + 1, 0⟩
  let scanner := { scanner with cursor := ⟨[], mark⟩ }
  let scanner ← (scanner.closeBlocks (-1)).dropCandidate
  return scanner.emit .streamEnd mark mark

def takeDocumentMark (scanner : Scanner) (token : Token) : Except Fault Scanner := do
  let scanner ← (scanner.closeBlocks (-1)).dropCandidate
  return { scanner.take token 3 with keyAllowed := false }

/-- Takes the line of a directive. Only that of the version is known, and what it says makes no
difference. -/
def takeDirective (scanner : Scanner) : Except Fault Scanner := do
  let scanner ← (scanner.closeBlocks (-1)).dropCandidate
  let line := scanner.cursor.rest.takeWhile fun c => !isBreak c
  if "%YAML ".toList.isPrefixOf line then
    return { scanner.take .directive line.length with keyAllowed := false }
  else
    let name := (line.drop 1).takeWhile isNameChar
    throw (.within .directive scanner.cursor.mark .unknownDirective
      (scanner.cursor.past (name.length + 1)).mark)

def takeOpening (scanner : Scanner) (token : Token) : Except Fault Scanner := do
  let scanner ← scanner.noteCandidate
  return { scanner.take token 1 with
    candidate := none
    outer := scanner.candidate :: scanner.outer
    keyAllowed := true }

def takeClosing (scanner : Scanner) (token : Token) : Except Fault Scanner := do
  let scanner ← scanner.dropCandidate
  let scanner :=
    match scanner.outer with
    | candidate :: outer => { scanner with candidate, outer }
    | [] => scanner
  return { scanner.take token 1 with keyAllowed := false }

def takeComma (scanner : Scanner) : Except Fault Scanner := do
  let scanner ← scanner.dropCandidate
  return { scanner.take .comma 1 with keyAllowed := true }

/-- Opens a block for an entry that begins here, where a key may begin. -/
def openHere (scanner : Scanner) (token : Token) (problem : Problem) : Except Fault Scanner :=
  let mark := scanner.cursor.mark
  if scanner.inFlow then .ok scanner
  else if scanner.keyAllowed then .ok (scanner.openBlock token scanner.tokens.size mark)
  else .error (.found problem mark none)

def takeDash (scanner : Scanner) : Except Fault Scanner := do
  let scanner ← scanner.openHere .blockSequence .sequenceNotAllowed
  let scanner ← scanner.dropCandidate
  return { scanner.take .dash 1 with keyAllowed := true }

def takeKey (scanner : Scanner) : Except Fault Scanner := do
  let scanner ← scanner.openHere .blockMapping .keyNotAllowed
  let scanner ← scanner.dropCandidate
  return { scanner.take .key 1 with keyAllowed := !scanner.inFlow }

/-- Takes the colon before a value. If there is a candidate, it was a key. -/
def takeValue (scanner : Scanner) : Except Fault Scanner :=
  match scanner.candidate with
  | some candidate =>
      let mark := candidate.start
      let scanner := { scanner with
        tokens := scanner.tokens.insertIdxIfInBounds candidate.number ⟨.key, mark, mark⟩ }
      let scanner := scanner.openBlock .blockMapping candidate.number mark
      .ok { scanner.take .value 1 with candidate := none, keyAllowed := false }
  | none => do
      let scanner ← scanner.openHere .blockMapping .valueNotAllowed
      return { scanner.take .value 1 with keyAllowed := !scanner.inFlow }

def takeName (scanner : Scanner) (reading : Reading) (token : String → Token) :
    Except Fault Scanner := do
  let scanner ← scanner.noteCandidate
  let name := (scanner.cursor.rest.drop 1).takeWhile isNameChar
  let next := scanner.cursor.past (name.length + 1)
  let ends := next.isAtGap || next.rest.head?.any fun c => "?:,]\x7d%@`".toList.contains c
  if name.isEmpty || !ends then
    throw (.within reading scanner.cursor.mark .missingName next.mark)
  return { scanner.take (token (String.ofList name)) (name.length + 1) with keyAllowed := false }

def tagName : List Char → String
  | '!' :: '<' :: name => String.ofList (name.takeWhile fun c => c ≠ '>')
  | '!' :: '!' :: name => "tag:yaml.org,2002:" ++ String.ofList name
  | name => String.ofList name

def takeTag (scanner : Scanner) : Except Fault Scanner := do
  let scanner ← scanner.noteCandidate
  let name := scanner.cursor.rest.takeWhile fun c =>
    !isBlank c && !isBreak c && !(scanner.inFlow && c = ',')
  return { scanner.take (.tag (tagName name)) name.length with keyAllowed := false }

def takeScanned (scanner : Scanner) (plain : Bool) (scanned : Scanned) : Scanner :=
  { scanner.emit (.scalar scanned.text plain) scanner.cursor.mark scanned.stop with
    cursor := scanned.next
    keyAllowed := scanned.brokeLine }

def takeBlock (scanner : Scanner) (literal : Bool) : Except Fault Scanner := do
  let scanner ← scanner.dropCandidate
  let scanned ← scanBlock literal scanner.indents.head? scanner.cursor
  return scanner.takeScanned false scanned

def takeQuoted (scanner : Scanner) (double : Bool) : Except Fault Scanner := do
  let scanner ← scanner.noteCandidate
  let start := scanner.cursor
  let scanned ← scanQuoted double start.mark (start.rest.length + 1) [] (start.past 1)
  return scanner.takeScanned false scanned

def takePlain (scanner : Scanner) : Except Fault Scanner := do
  let scanner ← scanner.noteCandidate
  let start := scanner.cursor
  let indent := (scanner.indents.head?.map (· + 1)).getD 0
  let scanned ← scanPlain scanner.inFlow indent start.mark (2 * start.rest.length + 2) []
    start.mark .none start
  return scanner.takeScanned true scanned

def beginsPlain (c : Char) : Bool :=
  !isBlank c && !isBreak c && !"-?:,[]\x7b\x7d#&*!|>'\"%@`".toList.contains c

def takeToken (scanner : Scanner) : Except Fault Scanner :=
  let cursor := scanner.cursor
  match cursor.rest with
  | [] => scanner.takeEnd
  | c :: _ =>
      let next := cursor.past 1
      if cursor.mark.column = 0 ∧ c = '%' then scanner.takeDirective
      else if cursor.isAtDocumentMark then
        scanner.takeDocumentMark (if c = '-' then .documentStart else .documentEnd)
      else if c = '[' then scanner.takeOpening .flowSequence
      else if c = '{' then scanner.takeOpening .flowMapping
      else if c = ']' then scanner.takeClosing .flowSequenceEnd
      else if c = '}' then scanner.takeClosing .flowMappingEnd
      else if c = ',' then scanner.takeComma
      else if c = '-' ∧ next.isAtGap then scanner.takeDash
      else if c = '?' ∧ (scanner.inFlow || next.isAtGap) then scanner.takeKey
      else if c = ':' ∧ (scanner.inFlow || next.isAtGap) then scanner.takeValue
      else if c = '*' then scanner.takeName .alias .alias
      else if c = '&' then scanner.takeName .anchor .anchor
      else if c = '!' then scanner.takeTag
      else if c = '|' ∧ !scanner.inFlow then scanner.takeBlock true
      else if c = '>' ∧ !scanner.inFlow then scanner.takeBlock false
      else if c = '\'' then scanner.takeQuoted false
      else if c = '"' then scanner.takeQuoted true
      else if beginsPlain c ∨ c = '-' ∨ (!scanner.inFlow ∧ (c = '?' ∨ c = ':')) then
        scanner.takePlain
      else .error (.within .nextToken cursor.mark .unexpectedCharacter cursor.mark)

def advance (scanner : Scanner) : Except Fault Scanner := do
  let scanner ← (scanner.skipGap (scanner.cursor.rest.length + 1)).dropStale
  (scanner.closeBlocks scanner.cursor.mark.column).takeToken

/-- Takes all tokens. Where the text cannot be cut further, gives the settled tokens and the
fault. Every token but the last takes a character, which the fuel counts. -/
def takeAll : (fuel : Nat) → Scanner → List Located × Option Fault
  | 0, scanner => (scanner.tokens.toList, none)
  | fuel + 1, scanner =>
      match scanner.dropStale with
      | .error fault => (scanner.tokens.toList.take scanner.settled, some fault)
      | .ok scanner =>
          match scanner.advance with
          | .error fault => (scanner.tokens.toList.take scanner.settled, some fault)
          | .ok next =>
              if next.tokens.back?.any (fun last => last.token = .streamEnd) then
                (next.tokens.toList, none)
              else takeAll fuel next

end Scanner

def isAllowed (c : Char) : Bool :=
  let n := c.toNat
  n = 0x09 || n = 0x0A || n = 0x0D || (0x20 ≤ n && n ≤ 0x7E) || n = 0x85
    || (0xA0 ≤ n && n ≤ 0xFFFD && n ≠ 0xFEFF) || 0x10000 ≤ n

/-- The number of bytes before the first character that no text may hold. -/
def forbiddenOffset? (offset : Nat) : List Char → Option Nat
  | [] => none
  | c :: rest =>
      if isAllowed c then forbiddenOffset? (offset + c.utf8Size) rest else some offset

def tokensOf (text : String) : List Located × Option Fault :=
  let (offset, chars) :=
    match text.toList with
    | '\ufeff' :: chars => (3, chars)
    | chars => (0, chars)
  match forbiddenOffset? offset chars with
  | some offset => ([], some (.character offset))
  | none =>
      Scanner.takeAll (chars.length + 2)
        { cursor := ⟨chars, .start⟩, tokens := #[], keyAllowed := true, candidate := none,
          outer := [], indents := [] }

end Conversation.Yaml

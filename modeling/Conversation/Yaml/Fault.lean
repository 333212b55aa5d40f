import Conversation.Text.Decimal

namespace Conversation.Yaml

/-- A place in a text: the number of characters before it, and its line and column, both counted
from zero. -/
structure Mark where
  index : Nat
  line : Nat
  column : Nat
  deriving DecidableEq, Repr, Inhabited

namespace Mark

def start : Mark := ⟨0, 0, 0⟩

def past (mark : Mark) (count : Nat) : Mark :=
  ⟨mark.index + count, mark.line, mark.column + count⟩

def nextLine (mark : Mark) (count : Nat) : Mark :=
  ⟨mark.index + count, mark.line + 1, 0⟩

def isOrigin (mark : Mark) : Bool :=
  mark.line = 0 && mark.column = 0

/-- Lines and columns are shown counted from one. The start of the text is not shown. -/
def suffix (mark : Mark) : String :=
  if mark.isOrigin then ""
  else " at line " ++ Text.decimal (mark.line + 1) ++ " column "
    ++ Text.decimal (mark.column + 1)

end Mark

inductive Problem
  | unexpectedCharacter
  | missingColon
  | sequenceNotAllowed
  | keyNotAllowed
  | valueNotAllowed
  | unexpectedDocumentMark
  | unexpectedEnd
  | unknownEscape
  | missingHexadecimal
  | invalidCode
  | unexpectedColon
  | tabInIndentation
  | tabForSpace
  | zeroIndentation
  | missingLineBreak
  | missingName
  | missingTagEnd
  | unknownDirective
  | missingDocumentStart
  | missingContent
  | missingDash
  | missingKey
  | missingSequenceSeparator
  | missingMappingSeparator
  | unknownAnchor
  deriving DecidableEq, Repr

def Problem.text : Problem → String
  | .unexpectedCharacter => "found character that cannot start any token"
  | .missingColon => "could not find expected ':'"
  | .sequenceNotAllowed => "block sequence entries are not allowed in this context"
  | .keyNotAllowed => "mapping keys are not allowed in this context"
  | .valueNotAllowed => "mapping values are not allowed in this context"
  | .unexpectedDocumentMark => "found unexpected document indicator"
  | .unexpectedEnd => "found unexpected end of stream"
  | .unknownEscape => "found unknown escape character"
  | .missingHexadecimal => "did not find expected hexdecimal number"
  | .invalidCode => "found invalid Unicode character escape code"
  | .unexpectedColon => "found unexpected ':'"
  | .tabInIndentation => "found a tab character that violates indentation"
  | .tabForSpace => "found a tab character where an indentation space is expected"
  | .zeroIndentation => "found an indentation indicator equal to 0"
  | .missingLineBreak => "did not find expected comment or line break"
  | .missingName => "did not find expected alphabetic or numeric character"
  | .missingTagEnd => "did not find expected whitespace or line break"
  | .unknownDirective => "found unknown directive name"
  | .missingDocumentStart => "did not find expected <document start>"
  | .missingContent => "did not find expected node content"
  | .missingDash => "did not find expected '-' indicator"
  | .missingKey => "did not find expected key"
  | .missingSequenceSeparator => "did not find expected ',' or ']'"
  | .missingMappingSeparator => "did not find expected ',' or '\x7d'"
  | .unknownAnchor => "unknown anchor"

inductive Reading
  | nextToken
  | simpleKey
  | quotedText
  | escape
  | plainText
  | blockText
  | anchor
  | alias
  | tag
  | directive
  | blockNode
  | flowNode
  | blockSequence
  | blockMapping
  | flowSequence
  | flowMapping
  deriving DecidableEq, Repr

def Reading.text : Reading → String
  | .nextToken => "while scanning for the next token"
  | .simpleKey => "while scanning a simple key"
  | .quotedText => "while scanning a quoted scalar"
  | .escape => "while parsing a quoted scalar"
  | .plainText => "while scanning a plain scalar"
  | .blockText => "while scanning a block scalar"
  | .anchor => "while scanning an anchor"
  | .alias => "while scanning an alias"
  | .tag => "while scanning a tag"
  | .directive => "while scanning a directive"
  | .blockNode => "while parsing a block node"
  | .flowNode => "while parsing a flow node"
  | .blockSequence => "while parsing a block collection"
  | .blockMapping => "while parsing a block mapping"
  | .flowSequence => "while parsing a flow sequence"
  | .flowMapping => "while parsing a flow mapping"

inductive Fault
  /-- A problem, with its place, and what was being read since which place. -/
  | found (problem : Problem) (place : Mark) (context : Option (Reading × Mark))
  /-- A character that no text may hold, after that many bytes. -/
  | character (offset : Nat)

namespace Fault

def within (reading : Reading) (start : Mark) (problem : Problem) (place : Mark) : Fault :=
  .found problem place (some (reading, start))

/-- The description of a fault. The start of what was being read is shown unless the problem is
there as well. -/
def text : Fault → String
  | .found problem place none => problem.text ++ place.suffix
  | .found problem place (some (reading, start)) =>
      problem.text ++ place.suffix ++ ", " ++ reading.text
        ++ (if start.line = place.line ∧ start.column = place.column then "" else start.suffix)
  | .character offset =>
      "control characters are not allowed"
        ++ (if offset = 0 then "" else " at position " ++ Text.decimal offset)

end Fault

end Conversation.Yaml

import Conversation.Yaml.Fault

namespace Conversation.Yaml

def isBlank (c : Char) : Bool :=
  c = ' ' || c = '\t'

def isBreak (c : Char) : Bool :=
  c = '\n' || c = '\r' || c = '\u0085' || c = '\u2028' || c = '\u2029'

def isNameChar (c : Char) : Bool :=
  c.isAlphanum || c = '_' || c = '-'

/-- What a line break stands for in a text. -/
def breakChar (c : Char) : Char :=
  if c = '\r' || c = '\u0085' then '\n' else c

/-- The rest of a text, and its place. -/
structure Cursor where
  rest : List Char
  mark : Mark

namespace Cursor

def past (cursor : Cursor) (count : Nat) : Cursor :=
  ⟨cursor.rest.drop count, cursor.mark.past count⟩

/-- The line break that stands here, and the rest behind it. A carriage return and the line feed
behind it are one break. -/
def break? (cursor : Cursor) : Option (Char × Cursor) :=
  match cursor.rest with
  | '\r' :: '\n' :: rest => some ('\n', ⟨rest, cursor.mark.nextLine 2⟩)
  | c :: rest => if isBreak c then some (breakChar c, ⟨rest, cursor.mark.nextLine 1⟩) else none
  | [] => none

/-- Behind the characters of a class that stand here; they break no line. -/
def pastAll (cursor : Cursor) (p : Char → Bool) : Cursor :=
  cursor.past (cursor.rest.takeWhile p).length

def isAt (cursor : Cursor) (c : Char) : Bool :=
  cursor.rest.head? = some c

/-- Whether the text ends here, or a blank or a line break stands here. -/
def isAtGap (cursor : Cursor) : Bool :=
  cursor.rest.head?.all fun c => isBlank c || isBreak c

def isAtDocumentMark (cursor : Cursor) : Bool :=
  cursor.mark.column = 0
    && (['-', '-', '-'].isPrefixOf cursor.rest || ['.', '.', '.'].isPrefixOf cursor.rest)
    && (cursor.past 3).isAtGap

end Cursor

end Conversation.Yaml

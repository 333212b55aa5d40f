import Conversation.Text.Blank

namespace Conversation

/-- A guard as it is stored: the expression without the markers `@{` and `}`, between which a
protocol may write it. It is never evaluated. -/
structure Assertion where
  expression : String
  deriving DecidableEq, Repr, Inhabited

namespace Assertion

def dropOpening : List Char → List Char
  | '@' :: '{' :: rest => rest
  | text => text

def dropClosing (text : List Char) : List Char :=
  if text.getLast? = some '}' then text.dropLast else text

/-- One layer of markers is taken off between two trims; either marker may be missing. -/
def strip (text : List Char) : List Char :=
  Text.trim (dropClosing (dropOpening (Text.trim text)))

def ofText (text : String) : Assertion :=
  ⟨String.ofList (strip text.toList)⟩

def text (guard : Assertion) : String :=
  "@\x7b" ++ guard.expression ++ "\x7d"

end Assertion

end Conversation

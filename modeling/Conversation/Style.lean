import Conversation.Text.Decimal

namespace Conversation

inductive Style
  | bold
  | dimmed
  | red
  | green
  | yellow
  | cyan
  deriving DecidableEq, Repr, Inhabited

namespace Style

def code : Style → Nat
  | .bold => 1
  | .dimmed => 2
  | .red => 31
  | .green => 32
  | .yellow => 33
  | .cyan => 36

def sequence (code : Nat) : List Char :=
  '\x1B' :: '[' :: ((Text.decimal code).toList ++ ['m'])

/-- Puts `opening` behind every sequence that switches styles off. -/
def reopen (opening : List Char) : List Char → List Char
  | '\x1B' :: '[' :: '0' :: 'm' :: rest => sequence 0 ++ opening ++ reopen opening rest
  | c :: rest => c :: reopen opening rest
  | [] => []

/-- A text in a style, or as it is when colors are off. -/
def paint (style : Style) (colored : Bool) (text : String) : String :=
  if colored then
    let opening := sequence style.code
    String.ofList (opening ++ reopen opening text.toList ++ sequence 0)
  else text

end Style

end Conversation

import Conversation.Text.CharSet
import Conversation.Text.Decimal
import Conversation.Text.Unprintable

namespace Conversation.Text

def hexNumeral (n : Nat) : List Char :=
  digits 16 n

def showChar (c : Char) : List Char :=
  if c = '\x00' then ['\\', '0']
  else if c = '\t' then ['\\', 't']
  else if c = '\n' then ['\\', 'n']
  else if c = '\r' then ['\\', 'r']
  else if c = '"' ∨ c = '\\' then ['\\', c]
  else if inRanges unprintable c.toNat then '\\' :: 'u' :: '{' :: hexNumeral c.toNat ++ ['}']
  else [c]

def quoted (text : String) : String :=
  String.ofList ('"' :: text.toList.flatMap showChar ++ ['"'])

end Conversation.Text

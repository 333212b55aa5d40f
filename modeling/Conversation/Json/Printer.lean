import Conversation.Json

namespace Conversation.Json

def escape (c : Char) : List Char :=
  if c = '"' then ['\\', '"']
  else if c = '\\' then ['\\', '\\']
  else if c = '\x08' then ['\\', 'b']
  else if c = '\x09' then ['\\', 't']
  else if c = '\x0A' then ['\\', 'n']
  else if c = '\x0C' then ['\\', 'f']
  else if c = '\x0D' then ['\\', 'r']
  else if c.toNat < 0x20 then '\\' :: 'u' :: Text.hexadecimal 4 c.toNat
  else [c]

def quoted (text : String) : List Char :=
  '"' :: text.toList.flatMap escape ++ ['"']

mutual

def compactChars : Json → List Char
  | .null => ['n', 'u', 'l', 'l']
  | .bool true => ['t', 'r', 'u', 'e']
  | .bool false => ['f', 'a', 'l', 's', 'e']
  | .number value => value.text.toList
  | .string value => quoted value
  | .array [] => ['[', ']']
  | .array (item :: rest) => '[' :: item.compactChars ++ compactItems rest ++ [']']
  | .object [] => ['{', '}']
  | .object ((key, value) :: rest) =>
      '{' :: quoted key ++ ':' :: value.compactChars ++ compactMembers rest ++ ['}']

def compactItems : List Json → List Char
  | [] => []
  | item :: rest => ',' :: item.compactChars ++ compactItems rest

def compactMembers : List (String × Json) → List Char
  | [] => []
  | (key, value) :: rest =>
      ',' :: quoted key ++ ':' :: value.compactChars ++ compactMembers rest

end

def compact (value : Json) : String :=
  String.ofList value.compactChars

/-- A line break and the indentation of a depth, two blanks for each level. -/
def newline (depth : Nat) : List Char :=
  '\n' :: List.replicate (2 * depth) ' '

mutual

def prettyChars (depth : Nat) : Json → List Char
  | .array [] => ['[', ']']
  | .array (item :: rest) =>
      '[' :: newline (depth + 1) ++ item.prettyChars (depth + 1)
        ++ prettyItems (depth + 1) rest ++ newline depth ++ [']']
  | .object [] => ['{', '}']
  | .object ((key, value) :: rest) =>
      '{' :: newline (depth + 1) ++ quoted key ++ ':' :: ' ' :: value.prettyChars (depth + 1)
        ++ prettyMembers (depth + 1) rest ++ newline depth ++ ['}']
  | value => value.compactChars

def prettyItems (depth : Nat) : List Json → List Char
  | [] => []
  | item :: rest =>
      ',' :: newline depth ++ item.prettyChars depth ++ prettyItems depth rest

def prettyMembers (depth : Nat) : List (String × Json) → List Char
  | [] => []
  | (key, value) :: rest =>
      ',' :: newline depth ++ quoted key ++ ':' :: ' ' :: value.prettyChars depth
        ++ prettyMembers depth rest

end

def pretty (value : Json) : String :=
  String.ofList (value.prettyChars 0)

end Conversation.Json

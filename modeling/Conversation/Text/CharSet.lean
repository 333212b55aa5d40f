namespace Conversation.Text

/-- Whether a code point lies in the set whose changes are listed in ascending order: the first
one begins a range of members, the second one ends it, and so on. -/
def inRanges : (changes : List Nat) → (code : Nat) → Bool
  | [], _ => false
  | [first], code => first ≤ code
  | first :: last :: rest, code => (first ≤ code && code < last) || inRanges rest code

end Conversation.Text

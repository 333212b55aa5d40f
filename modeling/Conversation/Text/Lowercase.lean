import Conversation.Text.CaseTable
import Conversation.Text.CharSet

namespace Conversation.Text

/-- The lower case of a code point that is mapped to a single one. -/
def lowerCode (code : Nat) : List (Nat × Nat × Nat × Int) → Nat
  | [] => code
  | (first, last, step, distance) :: rest =>
      if first ≤ code ∧ code ≤ last then
        if (code - first) % step = 0 then (Int.ofNat code + distance).toNat
        else lowerCode code rest
      else lowerCode code rest

/-- Whether the first character that is not ignored in questions of case has a case. -/
def startsCased (text : List Char) : Bool :=
  match text.dropWhile fun c => inRanges caseIgnorable c.toNat with
  | [] => false
  | c :: _ => inRanges cased c.toNat

/-- The lower case of a text that stands behind another one, which is given in reverse. A capital
sigma at the end of a word becomes a final one. -/
def lowerChars : (before text : List Char) → List Char
  | _, [] => []
  | before, c :: rest =>
      let lower :=
        if c = '\u0130' then ['i', '\u0307']
        else if c = 'Σ' then [if startsCased before && !startsCased rest then 'ς' else 'σ']
        else [Char.ofNat (lowerCode c.toNat lowercaseRuns)]
      lower ++ lowerChars (c :: before) rest

def lowercase (text : String) : String :=
  String.ofList (lowerChars [] text.toList)

end Conversation.Text

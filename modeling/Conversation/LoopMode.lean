import Conversation.Text.Lowercase

namespace Conversation

inductive LoopMode
  /-- The body hangs off a head of its own, to which its end leads back: it runs once or more. -/
  | loop
  /-- The body runs exactly once. -/
  | once
  deriving DecidableEq, Repr, Inhabited

def LoopMode.text : LoopMode → String
  | .loop => "loop"
  | .once => "once"

/-- The wiring that a word names, in letters of any case. -/
def LoopMode.ofWord? (word : String) : Option LoopMode :=
  match Text.lowercase word with
  | "loop" => some .loop
  | "once" => some .once
  | _ => none

def LoopMode.unknownText (word : String) : String :=
  "unknown repeat mode '" ++ Text.lowercase word ++ "'"

structure CompileOptions where
  loops : LoopMode
  deriving DecidableEq, Repr, Inhabited

end Conversation

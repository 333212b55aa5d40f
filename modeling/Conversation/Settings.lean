import Conversation.LoopMode

namespace Conversation

inductive OutputFormat
  | text
  | json
  | dot
  deriving DecidableEq, Repr, Inhabited

namespace OutputFormat

def name : OutputFormat → String
  | .text => "text"
  | .json => "json"
  | .dot => "dot"

def ofName? : String → Option OutputFormat
  | "text" => some .text
  | "json" => some .json
  | "dot" => some .dot
  | _ => none

/-- The format that a word names, in letters of any case. -/
def ofWord? (word : String) : Option OutputFormat :=
  ofName? (Text.lowercase word)

end OutputFormat

structure Settings where
  loops : LoopMode
  format : OutputFormat
  color : Bool
  trace : Bool
  deriving DecidableEq, Repr, Inhabited

abbrev Environment := List (String × String)

def Environment.get? (environment : Environment) (name : String) : Option String :=
  environment.lookup name

namespace Settings

def standard : Settings where
  loops := .loop
  format := .text
  color := true
  trace := false

def fileVariable : String := "CONVFSM_CONFIG"

def loopsVariable : String := "CONVFSM_REPEAT"

def formatVariable : String := "CONVFSM_FORMAT"

def colorVariable : String := "CONVFSM_COLOR"

def traceVariable : String := "CONVFSM_TRACE"

/-- Whether a word says yes. Every other word says no. -/
def saysYes (word : String) : Bool :=
  word = "1" || Text.lowercase word = "true"

/-- Takes over what the environment says. Words that name no wiring or format say nothing. -/
def withEnvironment (settings : Settings) (environment : Environment) : Settings where
  loops := ((environment.get? loopsVariable).bind LoopMode.ofWord?).getD settings.loops
  format := ((environment.get? formatVariable).bind OutputFormat.ofWord?).getD settings.format
  color := ((environment.get? colorVariable).map saysYes).getD settings.color
  trace := ((environment.get? traceVariable).map saysYes).getD settings.trace

def options (settings : Settings) : CompileOptions :=
  ⟨settings.loops⟩

def boolText (value : Bool) : String :=
  if value then "true" else "false"

def text (settings : Settings) : String :=
  "compiler:\n  repeat: " ++ settings.loops.text
    ++ "\noutput:\n  format: " ++ settings.format.name
    ++ "\n  color: " ++ boolText settings.color
    ++ "\n  trace: " ++ boolText settings.trace ++ "\n"

end Settings

end Conversation

import Conversation.CommandLine
import Conversation.Compiler
import Conversation.Decoding
import Conversation.Dot
import Conversation.Encoding
import Conversation.Failure
import Conversation.Listing
import Conversation.Settings.Reading

namespace Conversation

abbrev Contents := Except String String

def Contents.ofBytes (bytes : ByteArray) : Contents :=
  match String.fromUTF8? bytes with
  | some text => .ok text
  | none => .error "stream did not contain valid UTF-8"

structure Surroundings where
  environment : Environment
  read : String → Contents
  input : Contents

/-- The settings that a text stands for, or why it stands for none. -/
abbrev SettingsReader := String → Except String Settings

inductive SettingsError
  | unavailable (file reason : String)
  | unreadable (file reason : String)

def SettingsError.text : SettingsError → String
  | .unavailable file reason => "failed to read config file '" ++ file ++ "': " ++ reason
  | .unreadable file reason => "failed to parse config file '" ++ file ++ "': " ++ reason

namespace Settings

def ofYaml : SettingsReader :=
  fun text => (ofText text).mapError SettingsFault.text

def ofFile (decode : SettingsReader) (read : String → Contents) (file : String) :
    Except SettingsError Settings := do
  let text ← (read file).mapError fun reason => .unavailable file reason
  (decode text).mapError fun reason => .unreadable file reason

/-- The settings in effect: those of the file that the environment names, or the standard ones,
changed by the environment. -/
def loadWith (decode : SettingsReader) (surroundings : Surroundings) :
    Except SettingsError Settings := do
  let settings ← match surroundings.environment.get? fileVariable with
    | some file => ofFile decode surroundings.read file
    | none => pure standard
  return settings.withEnvironment surroundings.environment

def load (surroundings : Surroundings) : Except SettingsError Settings :=
  loadWith ofYaml surroundings

end Settings

inductive CommandError
  | unavailable (file reason : String)
  | unavailableInput (reason : String)
  | unreadable (file : String) (fault : Json.Fault)
  | unbuildable (error : BuildError)

def CommandError.text : CommandError → String
  | .unavailable file reason => "failed to read '" ++ file ++ "': " ++ reason
  | .unavailableInput reason => reason
  | .unreadable file fault =>
      "invalid protocol '" ++ file ++ "': " ++ (Failure.unreadable fault).message
  | .unbuildable error => "[" ++ error.code ++ "] " ++ error.message

/-- What a command prints: its output or an error, and before that a trace of the construction if
one was wanted and the construction succeeded. -/
structure Outcome where
  output : Except CommandError String
  trace : Option (List Event)

namespace Command

/-- Whether a path stands for the standard input: a single dash, possibly with parts behind it
that lead nowhere else. -/
def isInput (path : String) : Bool :=
  match path.splitOn "/" with
  | "-" :: parts => parts.all fun part => part = "" || part = "."
  | _ => false

def readProtocol (surroundings : Surroundings) (file : String) :
    Except CommandError Protocol := do
  let text ←
    if isInput file then surroundings.input.mapError .unavailableInput
    else (surroundings.read file).mapError fun reason => .unavailable file reason
  (Protocol.ofText text).mapError fun fault => .unreadable file fault

def print (colored : Bool) (automaton : Automaton) : OutputFormat → String
  | .text => Listing.ofAutomaton colored automaton
  | .json => automaton.toJson.sorted.pretty
  | .dot => Dot.render automaton

/-- Compiles the protocol of a file and prints the automaton; without a trace if it fails. -/
def compileFile (surroundings : Surroundings) (file : String) (loops : LoopMode) (traced : Bool)
    (view : Automaton → String) : Outcome :=
  match readProtocol surroundings file with
  | .error error => ⟨.error error, none⟩
  | .ok protocol =>
      let (result, trace) :=
        if traced then
          let (result, events) := protocol.compileTraced ⟨loops⟩
          (result, some events)
        else (protocol.compile ⟨loops⟩, none)
      match result with
      | .error error => ⟨.error (.unbuildable error), none⟩
      | .ok automaton => ⟨.ok (view automaton), trace⟩

def run (surroundings : Surroundings) (settings : Settings) (colored : Bool) :
    Command → Outcome
  | .compile file format loops trace =>
      compileFile surroundings file (loops.getD settings.loops) (trace || settings.trace)
        fun automaton => print colored automaton (format.getD settings.format)
  | .inspect file loops =>
      compileFile surroundings file (loops.getD settings.loops) false (Listing.summary colored)
  | .config => ⟨.ok settings.text, none⟩

def file? : Command → Option String
  | .compile file _ _ _ => some file
  | .inspect file _ => some file
  | .config => none

end Command

/-- What a run of the program leaves: its exit code and what it has written. -/
structure Report where
  exit : Nat
  output : String
  errors : String
  deriving DecidableEq, Repr

namespace Program

def errorLine (colored : Bool) (text : String) : String :=
  Style.red.paint colored "Error" ++ ": " ++ text ++ "\n"

def forcesColor (environment : Environment) : Bool :=
  (environment.get? "CLICOLOR_FORCE").any fun value => value ≠ "0"

/-- Runs the program with files of settings read by `decode`. The settings decide about colors, but
an error in them is reported before they are known; the output is then not colored unless the
environment forces it. -/
def runWith (decode : SettingsReader) (surroundings : Surroundings) (args : List String) :
    Except UsageError Report := do
  let invocation ← CommandLine.parse surroundings.environment args
  match Settings.loadWith decode surroundings with
  | .error error =>
      return ⟨1, "", errorLine (forcesColor surroundings.environment) error.text⟩
  | .ok settings =>
      let colored := settings.color && !invocation.noColor
      let outcome := invocation.command.run surroundings settings colored
      let trace := (outcome.trace.map fun events => Listing.trace colored events ++ "\n").getD ""
      match outcome.output with
      | .ok output => return ⟨0, output ++ "\n", trace⟩
      | .error error => return ⟨1, "", trace ++ errorLine colored error.text⟩

def run (surroundings : Surroundings) (args : List String) : Except UsageError Report :=
  runWith Settings.ofYaml surroundings args

end Program

end Conversation

import Conversation.Settings

/-!
The arguments of the command line. The value of an option is only looked at when the next argument
needs it, so that an unknown argument behind a bad value is what gets reported. Options that are
not given can come from the environment.
-/

namespace Conversation

inductive Command
  | compile (file : String) (format : Option OutputFormat) (loops : Option LoopMode)
      (trace : Bool)
  | inspect (file : String) (loops : Option LoopMode)
  | config
  deriving DecidableEq, Repr, Inhabited

structure Invocation where
  command : Command
  noColor : Bool
  deriving DecidableEq, Repr, Inhabited

/-- Why arguments make no invocation. Asking for help or for the version counts as well. -/
inductive UsageError
  | unknownArgument
  | unknownCommand
  | missingCommand
  | missingArgument
  | invalidValue
  | invalidLoopMode
  | unexpectedValue
  | repeatedArgument
  | help
  | helpWithoutArguments
  | version
  deriving DecidableEq, Repr, Inhabited

namespace CommandLine

inductive Verb
  | compile
  | inspect
  | config
  deriving DecidableEq, Repr

inductive Slot
  | file
  | format
  | loops
  deriving DecidableEq, Repr

inductive Flag
  | trace
  | noColor
  | help
  deriving DecidableEq, Repr

inductive Name
  | slot (slot : Slot)
  | flag (flag : Flag)

def verb? : String → Option Verb
  | "compile" => some .compile
  | "inspect" => some .inspect
  | "config" => some .config
  | _ => none

def Verb.long? : Verb → String → Option Name
  | _, "help" => some (.flag .help)
  | _, "no-color" => some (.flag .noColor)
  | .compile, "format" => some (.slot .format)
  | .compile, "repeat" => some (.slot .loops)
  | .compile, "trace" => some (.flag .trace)
  | .inspect, "repeat" => some (.slot .loops)
  | _, _ => none

def Verb.short? : Verb → Char → Option Name
  | _, 'h' => some (.flag .help)
  | .compile, 'f' => some (.slot .format)
  | .compile, 'r' => some (.slot .loops)
  | .compile, 't' => some (.flag .trace)
  | .inspect, 'r' => some (.slot .loops)
  | _, _ => none

def Verb.takesFile : Verb → Bool
  | .config => false
  | _ => true

inductive Argument
  | separator
  | long (name : String) (value : Option String)
  | short (letters : List Char)
  | plain (text : String)

def cutValue (text : List Char) : String × Option String :=
  let name := text.takeWhile fun c => c ≠ '='
  match text.drop name.length with
  | _ :: value => (String.ofList name, some (String.ofList value))
  | [] => (String.ofList name, none)

/-- How an argument is written. A single dash is no option. -/
def Argument.ofText (text : String) : Argument :=
  match text.toList with
  | ['-', '-'] => .separator
  | '-' :: '-' :: rest =>
      let (name, value) := cutValue rest
      .long name value
  | '-' :: c :: rest => .short (c :: rest)
  | _ => .plain text

structure Given where
  file : Option String
  format : Option OutputFormat
  loops : Option LoopMode
  trace : Bool
  noColor : Bool
  /-- An argument whose value has not been looked at, or has not been met yet. -/
  pending : Option (Slot × Option String)
  fileMet : Bool
  separated : Bool

namespace Given

def nothing : Given :=
  { file := none, format := none, loops := none, trace := false, noColor := false,
    pending := none, fileMet := false, separated := false }

def assign (given : Given) (slot : Slot) (value : String) : Except UsageError Given :=
  match slot with
  | .file =>
      if value.isEmpty then .error .invalidValue else .ok { given with file := some value }
  | .format =>
      if given.format.isSome then .error .repeatedArgument
      else
        match OutputFormat.ofName? value with
        | some format => .ok { given with format := some format }
        | none => .error .invalidValue
  | .loops =>
      if given.loops.isSome then .error .repeatedArgument
      else
        match LoopMode.ofWord? value with
        | some mode => .ok { given with loops := some mode }
        | none => .error .invalidLoopMode

/-- Looks at the value that has been put off. -/
def settle (given : Given) : Except UsageError Given :=
  match given.pending with
  | none => .ok given
  | some (_, none) => .error .invalidValue
  | some (slot, some value) => { given with pending := none }.assign slot value

def raise (given : Given) (flag : Flag) : Except UsageError Given := do
  let given ← given.settle
  match flag with
  | .help => throw .help
  | .trace => if given.trace then throw .repeatedArgument else return { given with trace := true }
  | .noColor =>
      if given.noColor then throw .repeatedArgument else return { given with noColor := true }

def meet (given : Given) (slot : Slot) (value : Option String) : Except UsageError Given := do
  let given ← given.settle
  match value with
  | some value => given.assign slot value
  | none => return { given with pending := some (slot, none) }

/-- Meets the letters of options and flags. The letters behind an option are its value. -/
def meetLetters (verb : Verb) (given : Given) : List Char → Except UsageError Given
  | [] => .ok given
  | letter :: rest =>
      match verb.short? letter with
      | none => .error .unknownArgument
      | some (.flag flag) => do meetLetters verb (← given.raise flag) rest
      | some (.slot slot) =>
          match rest with
          | [] => given.meet slot none
          | '=' :: value => given.meet slot (some (String.ofList value))
          | value => given.meet slot (some (String.ofList value))

def meetFile (verb : Verb) (given : Given) (text : String) : Except UsageError Given :=
  if verb.takesFile && !given.fileMet then do
    let given ← given.settle
    return { given with pending := some (.file, some text), fileMet := true }
  else .error .unknownArgument

def next (verb : Verb) (given : Given) (text : String) : Except UsageError Given :=
  if given.separated then given.meetFile verb text
  else
    match Argument.ofText text with
    | .separator => .ok { given with separated := true }
    | .long name value =>
        match verb.long? name, value with
        | none, _ => .error .unknownArgument
        | some (.flag _), some _ => .error .unexpectedValue
        | some (.flag flag), none => given.raise flag
        | some (.slot slot), value => given.meet slot value
    | .short letters => given.meetLetters verb letters
    | .plain text =>
        match given.pending with
        | some (slot, none) => .ok { given with pending := some (slot, some text) }
        | _ => given.meetFile verb text

/-- Takes the value of an option from a variable unless it has been given. -/
def orVariable (given : Given) (environment : Environment) (slot : Slot) (isGiven : Bool)
    (key : String) : Except UsageError Given :=
  match environment.get? key with
  | some value => if isGiven then .ok given else given.assign slot value
  | none => .ok given

def withEnvironment (given : Given) (environment : Environment) (verb : Verb) :
    Except UsageError Given := do
  let given ←
    if verb = .compile then
      given.orVariable environment .format given.format.isSome Settings.formatVariable
    else pure given
  if verb.takesFile then
    given.orVariable environment .loops given.loops.isSome Settings.loopsVariable
  else return given

def command (given : Given) (verb : Verb) : Except UsageError Command :=
  match verb, given.file with
  | .config, _ => .ok .config
  | .compile, some file => .ok (.compile file given.format given.loops given.trace)
  | .inspect, some file => .ok (.inspect file given.loops)
  | _, none => .error .missingArgument

end Given

def parseVerb (environment : Environment) (verb : Verb) (noColor : Bool) (args : List String) :
    Except UsageError Invocation := do
  let given ← args.foldlM (Given.next verb) Given.nothing
  let given ← given.settle
  let given ← given.withEnvironment environment verb
  return ⟨← given.command verb, noColor || given.noColor⟩

def parseHelp : List String → UsageError
  | [] => .help
  | [name] => if (verb? name).isSome ∨ name = "help" then .help else .unknownCommand
  | _ => .unknownCommand

def parseSeparated (noColor : Bool) : List String → UsageError
  | [] => if noColor then .missingCommand else .helpWithoutArguments
  | name :: _ =>
      if (verb? name).isSome ∨ name = "help" then .unknownArgument else .unknownCommand

/-- Reads the arguments before and behind the command. -/
def parseFrom (environment : Environment) :
    (noColor : Bool) → List String → Except UsageError Invocation
  | noColor, [] => .error (if noColor then .missingCommand else .helpWithoutArguments)
  | noColor, text :: rest =>
      match verb? text with
      | some verb => parseVerb environment verb noColor rest
      | none =>
          match Argument.ofText text with
          | .separator => .error (parseSeparated noColor rest)
          | .long "no-color" none =>
              if noColor then .error .repeatedArgument else parseFrom environment true rest
          | .long "help" none => .error .help
          | .long "version" none => .error .version
          | .long name (some _) =>
              .error (if ["no-color", "help", "version"].contains name then .unexpectedValue
                else .unknownArgument)
          | .long _ none => .error .unknownArgument
          | .short ('h' :: _) => .error .help
          | .short ('V' :: _) => .error .version
          | .short _ => .error .unknownArgument
          | .plain _ =>
              .error (if text = "help" then parseHelp rest else .unknownCommand)

def parse (environment : Environment) (args : List String) : Except UsageError Invocation :=
  parseFrom environment false args

end CommandLine

end Conversation

import Conversation.Json.Fault
import Conversation.Settings
import Conversation.Yaml.Value

namespace Conversation

open Yaml (Mark Node Pairs)

/-- What is wrong with a part of a file. -/
inductive Mismatch
  | wrongKind (found expected : String)
  | unknownName (name : String) (known : List String)
  | repeated (name : String)
  deriving DecidableEq, Repr

def Mismatch.text : Mismatch → String
  | .wrongKind found expected => "invalid type: " ++ found ++ ", expected " ++ expected
  | .unknownName name known => "unknown variant " ++ Json.tick name ++ ", " ++ Json.oneOf known
  | .repeated name => "duplicate field " ++ Json.tick name

inductive SettingsFault
  | unreadable (fault : Yaml.Fault)
  /-- A mismatch under the names that lead to it, with its place. -/
  | mismatch (path : List String) (mismatch : Mismatch) (place : Mark)
  | severalDocuments

def SettingsFault.text : SettingsFault → String
  | .unreadable fault => fault.text
  | .mismatch path found place =>
      (if path.isEmpty then "" else ".".intercalate path ++ ": ") ++ found.text ++ place.suffix
  | .severalDocuments =>
      "deserializing from YAML containing more than one document is not supported"

namespace Settings

/-- How a part of a file, reached by a path, changes settings. -/
abbrev Change := List String → Node → Settings → Except SettingsFault Settings

def unexpected (path : List String) (expected : String) : Node → SettingsFault
  | .broken fault => .unreadable fault
  | .scalar mark tag plain text =>
      let value := if plain && tag.isNone then Yaml.Value.ofPlain text else .string text
      .mismatch path (.wrongKind value.description expected) mark
  | .sequence mark _ => .mismatch path (.wrongKind "sequence" expected) mark
  | .mapping mark _ => .mismatch path (.wrongKind "map" expected) mark

/-- Reads one of some names. A tag can be given instead of the name. -/
def readName {α : Type} (known : List (String × α)) (path : List String) :
    Node → Except SettingsFault α
  | .scalar mark tag plain text =>
      let find := fun name =>
        match known.lookup name with
        | some value => .ok value
        | none => .error (.mismatch path (.unknownName name (known.map Prod.fst)) mark)
      match (tag.getD "").toList with
      | '!' :: c :: rest => do
          let value ← find (String.ofList (c :: rest))
          if Yaml.isNull text then return value
          else throw (unexpected path "unit" (.scalar mark none plain text))
      | _ => find text
  | node => .error (unexpected path "a YAML tag starting with '!'" node)

def readBool (path : List String) (node : Node) : Except SettingsFault Bool :=
  match node with
  | .scalar _ tag plain text =>
      let counts := match tag with
        | some tag => tag == "tag:yaml.org,2002:bool"
        | none => plain
      match Yaml.bool? text with
      | some value => if counts then .ok value else .error (unexpected path "a boolean" node)
      | none => .error (unexpected path "a boolean" node)
  | node => .error (unexpected path "a boolean" node)

def readKey (path : List String) : Node → Except SettingsFault String
  | .scalar _ _ _ text => .ok text
  | node => .error (unexpected path "field identifier" node)

/-- Applies the changes that the pairs of a mapping at `mark` name. Each is named only once. -/
def changeAll (changes : List (String × Change)) (path : List String) (mark : Mark) :
    (seen : List String) → Pairs → Settings → Except SettingsFault Settings
  | _, .close, settings => .ok settings
  | _, .broken fault, _ => .error (.unreadable fault)
  | seen, .pair key value rest, settings => do
      let name ← readKey path key
      match changes.lookup name with
      | some change =>
          if name ∈ seen then throw (.mismatch path (.repeated name) mark)
          let settings ← change (path ++ [name]) value settings
          changeAll changes path mark (name :: seen) rest settings
      | none =>
          match value.fault? with
          | some fault => throw (.unreadable fault)
          | none => changeAll changes path mark seen rest settings

/-- A section of a file, which faults call `title`. An empty one changes nothing. -/
def sectionOf (title : String) (changes : List (String × Change)) : Change :=
  fun path node settings =>
    match node with
    | .mapping mark pairs => changeAll changes path mark [] pairs settings
    | .scalar _ _ _ "" => .ok settings
    | node => .error (unexpected path title node)

def loopModes : List (String × LoopMode) :=
  [LoopMode.loop, .once].map fun mode => (mode.text, mode)

def formats : List (String × OutputFormat) :=
  [OutputFormat.text, .json, .dot].map fun format => (format.name, format)

def compilerSection : Change :=
  sectionOf "struct CompilerConfig"
    [("repeat", fun path node settings => do
        return { settings with loops := ← readName loopModes path node })]

def outputSection : Change :=
  sectionOf "struct OutputConfig"
    [("format", fun path node settings => do
        return { settings with format := ← readName formats path node }),
      ("color", fun path node settings => do
        return { settings with color := ← readBool path node }),
      ("trace", fun path node settings => do
        return { settings with trace := ← readBool path node })]

def file : Change :=
  sectionOf "struct Config" [("compiler", compilerSection), ("output", outputSection)]

/-- The settings that a text stands for. What its only document says is looked at before what
stands behind it. -/
def ofText (text : String) : Except SettingsFault Settings := do
  let document := Yaml.Document.ofText text
  let settings ← match document.root with
    | some node => file [] node standard
    | none => pure standard
  match document.fault with
  | some fault => throw (.unreadable fault)
  | none => if document.more then throw .severalDocuments else return settings

end Settings

end Conversation

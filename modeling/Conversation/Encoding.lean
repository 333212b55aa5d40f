import Conversation.Activity
import Conversation.Automaton
import Conversation.Checksum
import Conversation.Json.Printer
import Conversation.LoopMode

namespace Conversation

def Json.list {α : Type} (encode : α → Json) (elements : List α) : Json :=
  .array (elements.map encode)

def Role.toJson (role : Role) : Json := .string role.name

def PayloadType.toJson (type : PayloadType) : Json := .string type.text

def Direction.toJson : Direction → Json
  | .receive => .string "receive"
  | .send => .string "send"

def Assertion.toJson (guard : Assertion) : Json := .string guard.expression

def ValueDecl.toJson (decl : ValueDecl) : Json :=
  .object (("name", .string decl.name) :: Json.member? "type" PayloadType.toJson decl.type)

def Message.toJson (message : Message) : Json :=
  .object (("direction", message.direction.toJson)
    :: Json.member? "label" .string message.label
    ++ [("partner", message.partner.toJson)])

/-- The encoding of a key; an untyped value is encoded as null. -/
def DispatchKey.toJson (key : DispatchKey) : Json :=
  .object (Json.member? "label" .string key.label
    ++ [("types", Json.list (Json.orNull PayloadType.toJson) key.types)])

/-- A member for a list, left out when the list is empty. -/
def Json.listMember? {α : Type} (key : String) (encode : α → Json) :
    List α → List (String × Json)
  | [] => []
  | elements => [(key, Json.list encode elements)]

def Interaction.toJson (interaction : Interaction) : Json :=
  .object (("direction", interaction.direction.toJson)
    :: Json.member? "label" .string interaction.label
    ++ Json.listMember? "payload" ValueDecl.toJson interaction.payload
    ++ ("partner", interaction.partner.toJson)
    :: Json.member? "assertion" Assertion.toJson interaction.assertion)

/-- An object of a single member: the name of a variant and its content. -/
def Json.variant (name : String) (content : Json) : Json :=
  .object [(name, content)]

mutual

def Activity.toJson : Activity → Json
  | .interaction exchange => .variant "interaction" exchange.toJson
  | .choice branches => .variant "choice" (.object [("branches", .array (encodeBranches branches))])
  | .directedChoice sender receivers branches =>
      .variant "directed_choice" (.object
        [("from", sender.toJson), ("to", Json.list Role.toJson receivers),
          ("on_message", .array (encodeDirected branches))])
  | .parallel branches =>
      .variant "parallel" (.object [("branches", .array (encodeBranches branches))])
  | .loop body => .variant "repeat" (.object [("body", .array (encodeActivities body))])
  | .recursion label body =>
      .variant "recursion_def" (.object
        [("label", .string label), ("body", .array (encodeActivities body))])
  | .call label => .variant "recursion_call" (.object [("label", .string label)])
  | .escape body role handler =>
      .variant "global_escape" (.object
        [("body", .array (encodeActivities body)), ("interrupt_role", role.toJson),
          ("interrupt_body", .array (encodeActivities handler))])
  | .finish => .string "end"

def encodeActivities : List Activity → List Json
  | [] => []
  | activity :: rest => activity.toJson :: encodeActivities rest

def encodeBranches : List (List Activity) → List Json
  | [] => []
  | branch :: rest => .array (encodeActivities branch) :: encodeBranches rest

def encodeDirected : List DirectedBranch → List Json
  | [] => []
  | .mk exchange body :: rest =>
      .object (("message", exchange.toJson)
        :: (match body with
            | [] => []
            | first :: others =>
                [("body", .array (first.toJson :: encodeActivities others))]))
        :: encodeDirected rest

end

namespace Protocol

def toJson (protocol : Protocol) : Json :=
  .object (("name", .string protocol.name)
    :: Json.member? "at" Role.toJson protocol.viewpoint
    ++ [("roles", Json.list Role.toJson protocol.roles),
      ("activities", .array (encodeActivities protocol.activities))])

/-- The canonical text of a protocol, by which protocols are identified. -/
def canonical (protocol : Protocol) : String :=
  protocol.toJson.compact

def checksum (protocol : Protocol) : String :=
  Checksum.ofText protocol.canonical

end Protocol

def LoopMode.toJson (mode : LoopMode) : Json := .string mode.text

def CompileOptions.toJson (options : CompileOptions) : Json :=
  .object [("repeat", options.loops.toJson)]

def Label.toJson : Label → Json
  | .message shown => .variant "message" shown.toJson
  | .silent => .string "epsilon"
  | .parallelEnd => .string "parallel_end"

def Transition.toJson (transition : Transition) : Json :=
  .object ([("from", .nat transition.source), ("label", transition.label.toJson),
      ("to", .nat transition.target)]
    ++ Json.member? "guard" Assertion.toJson transition.guard
    ++ Json.member? "payload" (Json.list ValueDecl.toJson) transition.payload)

def Interrupt.toJson (interrupt : Interrupt) : Json :=
  .object [("anchor", .nat interrupt.anchor), ("transition", interrupt.transition.toJson)]

def DispatchEntry.toJson (entry : DispatchEntry) : Json :=
  .object [("key", entry.key.toJson), ("target", .nat entry.target)]

/-- A member for a table, left out when the table is empty; its keys become numerals. -/
def Json.tableMember? {α : Type} (key : String) (encode : α → Json) :
    Table α → List (String × Json)
  | [] => []
  | entries => [(key, .object (entries.map fun entry =>
      (Text.decimal entry.1, encode entry.2)))]

mutual

def Automaton.toJson : Automaton → Json
  | { name, checksum, initial, states, transitions, finals, roles, nested, interrupts,
      dispatch, anchors } =>
      .object (Json.member? "name" .string name
        ++ Json.member? "checksum" .string checksum
        ++ [("initial", .nat initial), ("states", Json.list .nat states),
          ("transitions", Json.list Transition.toJson transitions),
          ("finals", Json.list .nat finals), ("roles", Json.list Role.toJson roles)]
        ++ (match nested with
            | [] => []
            | (anchor, branches) :: rest =>
                [("nested", .object
                  ((Text.decimal anchor, .array (encodeAutomata branches))
                    :: encodeRegions rest))])
        ++ Json.listMember? "interrupts" Interrupt.toJson interrupts
        ++ Json.tableMember? "dispatch" (Json.list DispatchEntry.toJson) dispatch
        ++ Json.tableMember? "anchors" .nat anchors)

def encodeAutomata : List Automaton → List Json
  | [] => []
  | branch :: rest => branch.toJson :: encodeAutomata rest

def encodeRegions : List (State × List Automaton) → List (String × Json)
  | [] => []
  | (anchor, branches) :: rest =>
      (Text.decimal anchor, .array (encodeAutomata branches)) :: encodeRegions rest

end

end Conversation

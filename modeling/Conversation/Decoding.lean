import Conversation.Activity
import Conversation.Automaton
import Conversation.Json.Record
import Conversation.Json.Variant
import Conversation.LoopMode

namespace Conversation

open Json (Decoder Field Fields Variant Fault)

def Role.decoder : Decoder Role :=
  Decoder.string.map Role.mk

def Assertion.decoder : Decoder Assertion :=
  Decoder.string.map Assertion.ofText

def PayloadType.decoder : Decoder PayloadType :=
  .variant [⟨"int", .nothing .int⟩, ⟨"string", .nothing .string⟩]

def Direction.decoder : Decoder Direction :=
  .variant [⟨"receive", .nothing .receive⟩, ⟨"send", .nothing .send⟩]

def ValueDecl.decoder : Decoder ValueDecl :=
  .record "struct ValueDecl" ValueDecl.mk <|
    .field (.required "name" .string) <|
    .field (.optional "type" PayloadType.decoder)
    .done

def Message.decoder : Decoder Message :=
  .record "struct Message" Message.mk <|
    .field (.required "direction" Direction.decoder) <|
    .field (.optional "label" .string) <|
    .field (.required "partner" Role.decoder)
    .done

/-- Takes a key; an untyped value is given as null. -/
def DispatchKey.decoder : Decoder DispatchKey :=
  .record "struct DispatchKey" DispatchKey.mk <|
    .field (.optional "label" .string) <|
    .field (.required "types" (.list PayloadType.decoder.optional))
    .done

def Interaction.decoder : Decoder Interaction :=
  .record "struct Interaction" Interaction.mk <|
    .field (.required "direction" Direction.decoder) <|
    .field (.optional "label" .string) <|
    .field (.defaulted "payload" (.list ValueDecl.decoder) []) <|
    .field (.required "partner" Role.decoder) <|
    .field (.optional "assertion" Assertion.decoder)
    .done

def DirectedBranch.decoder (body : Decoder (List Activity)) : Decoder DirectedBranch :=
  .record "struct DirectedBranch" DirectedBranch.mk <|
    .field (.required "message" Interaction.decoder) <|
    .field (.defaulted "body" body [])
    .done

namespace Activity

def branchFields (body : Decoder (List Activity)) :
    Fields Activity (List (List Activity) → Activity) :=
  .field (.required "branches" (.list body)) .done

/-- The forms of activities, by how the activities inside them are read. -/
def variants (body : Decoder (List Activity)) : List (Variant Activity) :=
  [⟨"interaction", .single (Interaction.decoder.map .interaction)⟩,
    ⟨"choice", .fields
      (.record "struct variant Activity::Choice" Activity.choice (branchFields body))⟩,
    ⟨"directed_choice", .fields
      (.record "struct variant Activity::DirectedChoice" Activity.directedChoice <|
        .field (.required "from" Role.decoder) <|
        .field (.required "to" (.list Role.decoder)) <|
        .field (.required "on_message" (.list (DirectedBranch.decoder body)))
        .done)⟩,
    ⟨"parallel", .fields
      (.record "struct variant Activity::Parallel" Activity.parallel (branchFields body))⟩,
    ⟨"repeat", .fields
      (.record "struct variant Activity::Repeat" Activity.loop <|
        .field (.required "body" body)
        .done)⟩,
    ⟨"recursion_def", .fields
      (.record "struct variant Activity::RecursionDef" Activity.recursion <|
        .field (.required "label" .string) <|
        .field (.required "body" body)
        .done)⟩,
    ⟨"recursion_call", .fields
      (.record "struct variant Activity::RecursionCall" Activity.call <|
        .field (.required "label" .string)
        .done)⟩,
    ⟨"global_escape", .fields
      (.record "struct variant Activity::GlobalEscape" Activity.escape <|
        .field (.required "body" body) <|
        .field (.required "interrupt_role" Role.decoder) <|
        .field (.required "interrupt_body" body)
        .done)⟩,
    ⟨"end", .nothing .finish⟩]

/-- Takes an activity from a document of at most `height` levels. -/
def decoderWithin : (height : Nat) → Decoder Activity
  | 0 => fun _ _ => .error ⟨.recursionLimit, none⟩
  | height + 1 => .variant (variants (.list (decoderWithin height)))

def decoder : Decoder Activity :=
  fun origin doc => decoderWithin doc.height origin doc

def ofJson (value : Json) : Except Fault Activity :=
  decoder.ofJson value

end Activity

namespace Protocol

def decoder : Decoder Protocol :=
  .record "struct Protocol" Protocol.mk <|
    .field (.required "name" .string) <|
    .field (.optional "at" Role.decoder) <|
    .field (.defaulted "roles" (.list Role.decoder) []) <|
    .field (.required "activities" (.list Activity.decoder))
    .done

def ofJson (value : Json) : Except Fault Protocol :=
  decoder.ofJson value

def ofText (text : String) : Except Fault Protocol :=
  decoder.ofText text

end Protocol

def Label.decoder : Decoder Label :=
  .variant [⟨"message", .single (Message.decoder.map .message)⟩, ⟨"epsilon", .nothing .silent⟩,
    ⟨"parallel_end", .nothing .parallelEnd⟩]

def Transition.decoder : Decoder Transition :=
  .record "struct Transition" Transition.mk <|
    .field (.required "from" .state) <|
    .field (.required "label" Label.decoder) <|
    .field (.required "to" .state) <|
    .field (.optional "guard" Assertion.decoder) <|
    .field (.optional "payload" (.list ValueDecl.decoder))
    .done

def Interrupt.decoder : Decoder Interrupt :=
  .record "struct InterruptTransition" Interrupt.mk <|
    .field (.required "anchor" .state) <|
    .field (.required "transition" Transition.decoder)
    .done

def DispatchEntry.decoder : Decoder DispatchEntry :=
  .record "struct DispatchEntry" DispatchEntry.mk <|
    .field (.required "key" DispatchKey.decoder) <|
    .field (.required "target" .state)
    .done

namespace Automaton

def decoderWithin : (height : Nat) → Decoder Automaton
  | 0 => fun _ _ => .error ⟨.recursionLimit, none⟩
  | height + 1 =>
      .record "struct Automaton" Automaton.mk <|
        .field (.optional "name" .string) <|
        .field (.optional "checksum" .string) <|
        .field (.required "initial" .state) <|
        .field (.required "states" (.list .state)) <|
        .field (.required "transitions" (.list Transition.decoder)) <|
        .field (.required "finals" .stateSet) <|
        .field (.defaulted "roles" (.list Role.decoder) []) <|
        .field (.defaulted "nested" (.table (.list (decoderWithin height))) []) <|
        .field (.defaulted "interrupts" (.list Interrupt.decoder) []) <|
        .field (.defaulted "dispatch" (.table (.list DispatchEntry.decoder)) []) <|
        .field (.defaulted "anchors" (.table .state) [])
        .done

def decoder : Decoder Automaton :=
  fun origin doc => decoderWithin doc.height origin doc

def ofJson (value : Json) : Except Fault Automaton :=
  decoder.ofJson value

end Automaton

def LoopMode.decoder : Decoder LoopMode :=
  .variant [⟨"loop", .nothing .loop⟩, ⟨"once", .nothing .once⟩]

def CompileOptions.decoder : Decoder CompileOptions :=
  .record "struct CompileOptions" CompileOptions.mk <|
    .field (.defaulted "repeat" LoopMode.decoder .loop)
    .done

end Conversation

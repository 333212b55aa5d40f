import Conversation.Activity
import Conversation.LoopMode
import Conversation.Proofs.Emission

/-!
What protocols mean. A conversation is at each moment determined by its agenda, the list of what is
still to be done: a choice puts one of its branches on the agenda, a loop its body and the decision
whether to run it again, a recursion its body and the place where calls of its label start anew.

A second semantics differs in one point only. It keeps a checkpoint, the agenda at the last moment
at which a message was emitted, branches joined, a loop was started or taken back, a region was
passed or a call was made; and a call goes back to the checkpoint at which its recursion was
entered, instead of the recursion itself.
-/

namespace Conversation

/-- A part of what is still to be done. -/
inductive Task
  | run (activity : Activity)
  /-- The body of a loop has ended: it may be run again. -/
  | again (body : List Activity)
  /-- The body of an escape has ended: the conversation may stop, or the handler is run. -/
  | handle (handler : List Activity)
  /-- A branch of a choice has ended. -/
  | join
  /-- The body of a recursion has ended. A call of the label before that goes on with `entry`. -/
  | leave (label : String) (entry : List Task)

/-- What is still to be done, in order. -/
abbrev Agenda := List Task

def agendaOf (activities : List Activity) : Agenda :=
  activities.map .run

def DirectedBranch.activities (branch : DirectedBranch) : List Activity :=
  .interaction branch.exchange :: branch.body

/-- What a call of a label goes on with: the entry of the innermost recursion of that label whose
end is still on the agenda. -/
def Agenda.entryOf? (label : String) : Agenda → Option Agenda
  | [] => none
  | .leave own entry :: rest => if own = label then some entry else Agenda.entryOf? label rest
  | .run _ :: rest => Agenda.entryOf? label rest
  | .again _ :: rest => Agenda.entryOf? label rest
  | .handle _ :: rest => Agenda.entryOf? label rest
  | .join :: rest => Agenda.entryOf? label rest

/-- The decisions that are taken without emitting anything and without leaving the state that the
conversation is in. -/
inductive Unfolds (mode : LoopMode) : Agenda → Agenda → Prop
  | choice {branches : List (List Activity)} {branch : List Activity} {rest : Agenda} :
      branch ∈ branches →
      Unfolds mode (.run (.choice branches) :: rest) (agendaOf branch ++ .join :: rest)
  | directedChoice {sender : Role} {receivers : List Role} {branches : List DirectedBranch}
      {branch : DirectedBranch} {rest : Agenda} :
      branch ∈ branches →
      Unfolds mode (.run (.directedChoice sender receivers branches) :: rest)
        (agendaOf branch.activities ++ .join :: rest)
  | loopOnce {body : List Activity} {rest : Agenda} :
      mode = .once → Unfolds mode (.run (.loop body) :: rest) (agendaOf body ++ rest)
  | loopLeft {body : List Activity} {rest : Agenda} : Unfolds mode (.again body :: rest) rest
  | recursionLeft {label : String} {entry rest : Agenda} :
      Unfolds mode (.leave label entry :: rest) rest
  | escape {body handler : List Activity} {role : Role} {rest : Agenda} :
      Unfolds mode (.run (.escape body role handler) :: rest)
        (agendaOf body ++ .handle handler :: rest)
  | handle {handler : List Activity} {rest : Agenda} :
      Unfolds mode (.handle handler :: rest) (agendaOf handler ++ rest)
  | finish {rest : Agenda} : Unfolds mode (.run .finish :: rest) rest

/-- The moves that emit a message or reach another state silently. -/
inductive Moves (mode : LoopMode) : Agenda → Option Message → Agenda → Prop
  | interaction {exchange : Interaction} {rest : Agenda} :
      Moves mode (.run (.interaction exchange) :: rest) (some exchange.message) rest
  | parallel {branches : List (List Activity)} {rest : Agenda} :
      Moves mode (.run (.parallel branches) :: rest) none rest
  | join {rest : Agenda} : Moves mode (.join :: rest) none rest
  | loop {body : List Activity} {rest : Agenda} :
      mode = .loop →
      Moves mode (.run (.loop body) :: rest) none (agendaOf body ++ .again body :: rest)
  | again {body : List Activity} {rest : Agenda} :
      Moves mode (.again body :: rest) none (agendaOf body ++ .again body :: rest)
  | call {label : String} {rest entry : Agenda} :
      rest.entryOf? label = some entry → Moves mode (.run (.call label) :: rest) none entry

/-- The steps of a conversation. A recursion remembers itself and what follows it as the entry for
calls of its label, so a call abandons what follows it, starts the recursion anew and goes on
afterwards with what follows the recursion. -/
inductive Advances (mode : LoopMode) : Agenda → Option Message → Agenda → Prop
  | unfold {agenda next : Agenda} : Unfolds mode agenda next → Advances mode agenda none next
  | move {agenda next : Agenda} {shown : Option Message} :
      Moves mode agenda shown next → Advances mode agenda shown next
  | enter {label : String} {body : List Activity} {rest : Agenda} :
      Advances mode (.run (.recursion label body) :: rest) none
        (agendaOf body ++ .leave label (.run (.recursion label body) :: rest) :: rest)

/-- The agendas at which a conversation may stop and is accepted: at an end mark, and where the
body of an escape has ended. -/
inductive Agenda.Stops : Agenda → Prop
  | finish {rest : Agenda} : Agenda.Stops (.run .finish :: rest)
  | handle {handler : List Activity} {rest : Agenda} : Agenda.Stops (.handle handler :: rest)

/-- The agenda of a protocol. Its end accepts, as an end mark does. -/
def Protocol.agenda (protocol : Protocol) : Agenda :=
  agendaOf (protocol.activities ++ [.finish])

/-- A word is admitted by an agenda if it can be emitted before the conversation stops. -/
def Admits (mode : LoopMode) (agenda : Agenda) (word : List Message) : Prop :=
  ∃ last, Emits (Advances mode) agenda word last ∧ last.Stops

/-- A point of a conversation in the semantics with checkpoints. -/
structure Point where
  ahead : Agenda
  checkpoint : Agenda

/-- The steps of a conversation with checkpoints. A recursion remembers the checkpoint as the entry
for calls of its label. -/
inductive Resumes (mode : LoopMode) : Point → Option Message → Point → Prop
  | unfold {agenda next checkpoint : Agenda} :
      Unfolds mode agenda next → Resumes mode ⟨agenda, checkpoint⟩ none ⟨next, checkpoint⟩
  | move {agenda next checkpoint : Agenda} {shown : Option Message} :
      Moves mode agenda shown next → Resumes mode ⟨agenda, checkpoint⟩ shown ⟨next, next⟩
  | enter {label : String} {body : List Activity} {rest checkpoint : Agenda} :
      Resumes mode ⟨.run (.recursion label body) :: rest, checkpoint⟩ none
        ⟨agendaOf body ++ .leave label checkpoint :: rest, checkpoint⟩

def Point.fresh (agenda : Agenda) : Point := ⟨agenda, agenda⟩

mutual

/-- The checkpoint at the end of an activity that starts at `checkpoint` and is followed by
`rest`. -/
def checkpointAfter (mode : LoopMode) (rest checkpoint : Agenda) : Activity → Agenda
  | .interaction _ => rest
  | .choice _ => rest
  | .directedChoice _ _ _ => rest
  | .parallel _ => rest
  | .loop body =>
      match mode with
      | .once => checkpointAfterAll mode rest checkpoint body
      | .loop =>
          checkpointAfterAll mode (.again body :: rest) (agendaOf body ++ .again body :: rest) body
  | .recursion label body =>
      checkpointAfterAll mode (.leave label checkpoint :: rest) checkpoint body
  | .call _ => rest
  | .escape body _ handler =>
      checkpointAfterAll mode rest
        (checkpointAfterAll mode (.handle handler :: rest) checkpoint body) handler
  | .finish => checkpoint

def checkpointAfterAll (mode : LoopMode) (rest checkpoint : Agenda) : List Activity → Agenda
  | [] => checkpoint
  | first :: others =>
      checkpointAfterAll mode rest
        (checkpointAfter mode (agendaOf others ++ rest) checkpoint first) others

end

end Conversation

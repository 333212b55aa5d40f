import Conversation.Proofs.CompilerActions

namespace Conversation

/-- The compilation without what has been recorded, and recording nothing. -/
def Build.mute (build : Build) : Build :=
  { build with recording := false, events := [] }

theorem Build.record_mute (build : Build) (event : Event) :
    build.mute.record event = (build.record event).mute := by
  simp only [record, mute, Bool.false_eq_true, if_false]
  split <;> rfl

namespace Builder

variable {α β : Type}

def muteResult : EStateM.Result BuildError Build α → EStateM.Result BuildError Build α
  | .ok value build => .ok value build.mute
  | .error error build => .error error build.mute

/-- What the action does, and whether it fails, does not depend on what is recorded. -/
def Passive (action : Builder α) : Prop :=
  ∀ build : Build, action build.mute = muteResult (action build)

namespace Passive

theorem pure (value : α) : Passive (pure value : Builder α) := fun _ => rfl

theorem throw (error : BuildError) : Passive (throw error : Builder α) := fun _ => rfl

theorem bind {action : Builder α} {next : α → Builder β} (haction : Passive action)
    (hnext : ∀ value, Passive (next value)) : Passive (action >>= next) := by
  intro build
  have hfirst := haction build
  simp only [Bind.bind, EStateM.bind]
  cases hresult : action build with
  | ok value between =>
      rw [hresult] at hfirst
      rw [hfirst]
      exact hnext value between
  | error error failed =>
      rw [hresult] at hfirst
      rw [hfirst]
      rfl

theorem modifyRecord {change : Build → Build} {event : Event}
    (hchange : ∀ build, change build.mute = (change build).mute) :
    Passive (modify fun build => (change build).record event : Builder PUnit) := by
  intro build
  have hrecord := Build.record_mute (change build) event
  rw [← hchange] at hrecord
  exact congrArg (EStateM.Result.ok PUnit.unit) hrecord

theorem modify {change : Build → Build}
    (hchange : ∀ build, change build.mute = (change build).mute) :
    Passive (modify change : Builder PUnit) := by
  intro build
  exact congrArg (EStateM.Result.ok PUnit.unit) (hchange build)

theorem modifyGet {change : Build → α × Build}
    (hchange : ∀ build, change build.mute = ((change build).1, (change build).2.mute)) :
    Passive (modifyGet change : Builder α) := by
  intro build
  exact congrArg (fun result => EStateM.Result.ok result.1 result.2) (hchange build)

theorem get_bind {next : Build → Builder α} (hsame : ∀ build, next build.mute = next build)
    (hnext : ∀ build, Passive (next build)) : Passive (get >>= next) := by
  intro build
  rw [Builder.get_bind, Builder.get_bind, hsame]
  exact hnext build build

end Passive

end Builder

open Builder

namespace Compiler

theorem passive_cursor : Passive cursor := fun _ => rfl

theorem passive_setCursor (state : State) : Passive (setCursor state) := .modify fun _ => rfl

theorem passive_record (event : Event) : Passive (record event) :=
  .modify fun build => build.record_mute event

theorem passive_newState : Passive newState := .modifyGet fun _ => rfl

theorem passive_markFinal (state : State) : Passive (markFinal state) :=
  .modifyRecord fun _ => rfl

theorem passive_addRole (role : Role) : Passive (addRole role) := .modify fun _ => rfl

theorem passive_addRoles (roles : List Role) : Passive (addRoles roles) := by
  induction roles with
  | nil => exact .pure ()
  | cons role rest ih => exact .bind (passive_addRole role) fun _ => ih

theorem passive_requireNoInterrupt (anchor : State) : Passive (requireNoInterrupt anchor) := by
  refine .get_bind (fun _ => rfl) fun build => ?_
  split
  · exact .throw _
  · exact .pure ()

theorem passive_registerInterrupt (transition : Transition) (message : Message) :
    Passive (registerInterrupt transition message) := by
  -- The rest of the action sets the state that it has looked at, with what is recorded.
  have hrest (anchor : State) : Passive (requireNoInterrupt anchor >>= fun _ =>
      modify fun build =>
        (build.modifyAutomaton fun automaton => automaton.addInterrupt ⟨anchor, transition⟩).record
          (.interruptRegistered anchor message)) :=
    (passive_requireNoInterrupt anchor).bind fun _ => .modifyRecord fun _ => rfl
  intro build
  have hmute : build.mute.pending = build.pending := rfl
  rw [registerInterrupt, Builder.get_bind, Builder.get_bind, hmute]
  cases hpending : build.pending with
  | none => rfl
  | some pending =>
      obtain ⟨anchor, owner⟩ := pending
      by_cases howner : owner = build.scopes.owner
      · have howner' : owner = build.mute.scopes.owner := howner
        simp only [if_pos howner, if_pos howner']
        exact hrest anchor { build with pending := none }
      · have howner' : ¬ owner = build.mute.scopes.owner := howner
        simp only [if_neg howner, if_neg howner']
        rfl

theorem passive_addTransition (transition : Transition) : Passive (addTransition transition) := by
  have hconnect : Passive (modify fun build => build.connect transition : Builder PUnit) :=
    .modifyRecord fun _ => rfl
  unfold addTransition
  split
  · exact (passive_registerInterrupt _ _).bind fun _ => hconnect
  · exact hconnect

theorem passive_addSilent (source target : State) : Passive (addSilent source target) :=
  passive_addTransition _

theorem passive_requireNonempty {α : Type} (which : RequiredList) (list : List α) :
    Passive (requireNonempty which list) := by
  cases list with
  | nil => exact .throw _
  | cons first rest => exact .pure ()

theorem passive_requireAllNonempty {α : Type} (which : RequiredList) (lists : List (List α)) :
    Passive (requireAllNonempty which lists) := by
  induction lists with
  | nil => exact .pure ()
  | cons list rest ih => exact .bind (passive_requireNonempty which list) fun _ => ih

theorem passive_requireDistinctKeys (branches : List DirectedBranch) :
    Passive (requireDistinctKeys branches) := by
  unfold requireDistinctKeys
  split
  · exact .throw _
  · exact .pure ()

theorem passive_requireLeading (handler : List Activity) : Passive (requireLeading handler) := by
  unfold requireLeading
  split
  · exact .pure ()
  · split
    · exact .pure ()
    · exact .throw _

theorem passive_interaction (exchange : Interaction) : Passive (interaction exchange) :=
  passive_cursor.bind fun _ => passive_newState.bind fun _ => (passive_addRole _).bind fun _ =>
    (passive_addTransition _).bind fun _ => passive_setCursor _

theorem passive_openChoice (branches : Nat) : Passive (openChoice branches) :=
  passive_cursor.bind fun _ => (passive_record _).bind fun _ =>
    .bind (.modify fun _ => rfl) fun _ => .pure _

theorem passive_enterChoiceBranch (index : Nat) (start : State) :
    Passive (enterChoiceBranch index start) :=
  (passive_setCursor start).bind fun _ => passive_record _

theorem passive_choiceExit : Passive choiceExit := by
  refine .get_bind (fun _ => rfl) fun build => ?_
  split
  · exact .pure _
  · exact passive_newState.bind fun _ => .bind (.modify fun _ => rfl) fun _ => .pure _

theorem passive_converge : Passive converge :=
  passive_choiceExit.bind fun _ => passive_cursor.bind fun _ => passive_addSilent _ _

theorem passive_closeChoice (start : State) : Passive (closeChoice start) :=
  .get_bind (fun _ => rfl) fun _ => .bind (.modify fun _ => rfl) fun _ => passive_record _

theorem passive_registerDispatch (state : State) (key : DispatchKey) :
    Passive (registerDispatch state key) :=
  passive_cursor.bind fun _ => .modifyRecord fun _ => rfl

theorem passive_openParallel (branches : Nat) : Passive (openParallel branches) :=
  passive_cursor.bind fun _ => passive_newState.bind fun _ => (passive_record _).bind fun _ =>
    .pure _

theorem passive_enterParallelBranch (anchor : State) : Passive (enterParallelBranch anchor) :=
  .bind (.modifyGet fun _ => rfl) fun _ => .modify fun _ => rfl

theorem passive_leaveParallelBranch (index : Nat) (anchor : State) :
    Passive (leaveParallelBranch index anchor) := by
  refine passive_cursor.bind fun _ => passive_newState.bind fun _ =>
    (passive_addTransition _).bind fun _ => (passive_markFinal _).bind fun _ =>
      .get_bind (fun _ => rfl) fun build => ?_
  split
  · exact .modifyRecord fun _ => rfl
  · exact .pure ()

theorem passive_closeParallel (anchor join : State) : Passive (closeParallel anchor join) :=
  (passive_addSilent _ _).bind fun _ => (passive_setCursor _).bind fun _ => passive_record _

theorem passive_openLoop (mode : LoopMode) : Passive (openLoop mode) := by
  refine passive_cursor.bind fun _ => ?_
  cases mode with
  | once => exact (passive_record _).bind fun _ => .pure _
  | loop =>
      exact passive_newState.bind fun _ => (passive_addSilent _ _).bind fun _ =>
        (passive_setCursor _).bind fun _ => (passive_record _).bind fun _ => .pure _

theorem passive_closeLoop (mode : LoopMode) (head : State) : Passive (closeLoop mode head) := by
  cases mode with
  | once => exact passive_record _
  | loop =>
      exact passive_cursor.bind fun _ => (passive_addSilent _ _).bind fun _ => passive_record _

theorem passive_openRecursion (label : String) : Passive (openRecursion label) :=
  passive_cursor.bind fun _ => .bind (.modify fun _ => rfl) fun _ => passive_record _

theorem passive_closeRecursion (label : String) : Passive (closeRecursion label) := by
  refine .get_bind (fun _ => rfl) fun build => ?_
  split
  · exact .bind (.modify fun _ => rfl) fun _ => passive_record _
  · exact passive_record _

theorem passive_call (label : String) : Passive (call label) := by
  refine .get_bind (fun _ => rfl) fun build => ?_
  split
  · exact .throw _
  · exact passive_cursor.bind fun _ => (passive_addSilent _ _).bind fun _ =>
      (passive_record _).bind fun _ => passive_newState.bind fun _ => passive_setCursor _

theorem passive_armInterrupt (role : Role) : Passive (armInterrupt role) :=
  passive_cursor.bind fun _ => (passive_markFinal _).bind fun _ =>
    (passive_requireNoInterrupt _).bind fun _ => .modifyRecord fun _ => rfl

theorem passive_disarmInterrupt : Passive disarmInterrupt := .modify fun _ => rfl

mutual

theorem passive_activity (mode : LoopMode) (work : Activity) : Passive (activity mode work) := by
  cases work with
  | interaction exchange => exact passive_interaction exchange
  | choice branches =>
      exact (passive_requireNonempty _ _).bind fun _ =>
        (passive_requireAllNonempty _ _).bind fun _ => (passive_openChoice _).bind fun start =>
          (passive_choiceBranches mode start 0 branches).bind fun _ => passive_closeChoice start
  | directedChoice sender receivers branches =>
      exact (passive_requireNonempty _ _).bind fun _ =>
        (passive_requireDistinctKeys _).bind fun _ => (passive_addRole _).bind fun _ =>
          (passive_addRoles _).bind fun _ => (passive_openChoice _).bind fun start =>
            (passive_directedBranches mode start 0 branches).bind fun _ =>
              passive_closeChoice start
  | parallel branches =>
      exact (passive_requireNonempty _ _).bind fun _ =>
        (passive_requireAllNonempty _ _).bind fun _ =>
          (passive_openParallel _).bind fun (anchor, join) =>
            (passive_parallelBranches mode anchor 0 branches).bind fun _ =>
              passive_closeParallel anchor join
  | loop body =>
      exact (passive_requireNonempty _ _).bind fun _ => (passive_openLoop mode).bind fun head =>
        (passive_activities mode body).bind fun _ => passive_closeLoop mode head
  | recursion label body =>
      exact (passive_requireNonempty _ _).bind fun _ => (passive_openRecursion label).bind fun _ =>
        (passive_activities mode body).bind fun _ => passive_closeRecursion label
  | call label => exact passive_call label
  | escape body role handler =>
      exact (passive_requireNonempty _ _).bind fun _ => (passive_requireNonempty _ _).bind fun _ =>
        (passive_requireLeading handler).bind fun _ => (passive_addRole role).bind fun _ =>
          (passive_activities mode body).bind fun _ => (passive_armInterrupt role).bind fun _ =>
            (passive_activities mode handler).bind fun _ => passive_disarmInterrupt
  | finish => exact passive_cursor.bind fun _ => passive_markFinal _

theorem passive_activities (mode : LoopMode) (list : List Activity) :
    Passive (activities mode list) := by
  cases list with
  | nil => exact .pure ()
  | cons first rest =>
      exact (passive_activity mode first).bind fun _ => passive_activities mode rest

theorem passive_choiceBranches (mode : LoopMode) (start : State) (index : Nat)
    (branches : List (List Activity)) : Passive (choiceBranches mode start index branches) := by
  cases branches with
  | nil => exact .pure ()
  | cons branch rest =>
      exact (passive_enterChoiceBranch _ _).bind fun _ => (passive_activities mode branch).bind
        fun _ => passive_converge.bind fun _ =>
          passive_choiceBranches mode start (index + 1) rest

theorem passive_directedBranches (mode : LoopMode) (start : State) (index : Nat)
    (branches : List DirectedBranch) : Passive (directedBranches mode start index branches) := by
  cases branches with
  | nil => exact .pure ()
  | cons branch rest =>
      obtain ⟨exchange, body⟩ := branch
      exact (passive_enterChoiceBranch _ _).bind fun _ => (passive_interaction exchange).bind
        fun _ => (passive_registerDispatch _ _).bind fun _ =>
          (passive_activities mode body).bind fun _ => passive_converge.bind fun _ =>
            passive_directedBranches mode start (index + 1) rest

theorem passive_parallelBranches (mode : LoopMode) (anchor : State) (index : Nat)
    (branches : List (List Activity)) :
    Passive (parallelBranches mode anchor index branches) := by
  cases branches with
  | nil => exact .pure ()
  | cons branch rest =>
      exact (passive_enterParallelBranch _).bind fun _ => (passive_activities mode branch).bind
        fun _ => (passive_leaveParallelBranch _ _).bind fun _ =>
          passive_parallelBranches mode anchor (index + 1) rest

end

theorem passive_protocol (mode : LoopMode) (source : Protocol) :
    Passive (Compiler.protocol mode source) :=
  (passive_record _).bind fun _ => (passive_requireNonempty _ _).bind fun _ =>
    (passive_addRoles _).bind fun _ => (passive_activities mode _).bind fun _ =>
      passive_cursor.bind fun _ => passive_markFinal _

end Compiler

/-- A compilation gives the same automaton, or the same error, when its steps are recorded. -/
theorem Protocol.compileTraced_fst (protocol : Protocol) (options : CompileOptions) :
    (protocol.compileTraced options).1 = protocol.compile options := by
  have hmute : (Compiler.protocol options.loops protocol).run (Build.start false) =
      muteResult ((Compiler.protocol options.loops protocol).run (Build.start true)) :=
    Compiler.passive_protocol options.loops protocol (Build.start true)
  unfold compile compileTraced compileRecording
  rw [hmute]
  cases (Compiler.protocol options.loops protocol).run (Build.start true) <;> rfl

end Conversation

import Conversation.Proofs.CompilerSteps

namespace Conversation

namespace Builder

variable {α β : Type} {action : Builder α} {next : α → Builder β} {build between : Build}

theorem bind_of_ok {value : α} (h : action build = .ok value between) :
    (action >>= next) build = next value between := by
  simp only [bind, EStateM.bind, h]

theorem bind_eq_error_iff {error : BuildError} {failed : Build} :
    (action >>= next) build = .error error failed ↔
      action build = .error error failed ∨
        ∃ value between, action build = .ok value between ∧
          next value between = .error error failed := by
  simp only [bind, EStateM.bind]
  cases action build with
  | ok value between => simp
  | error error between => simp

theorem get_bind (next : Build → Builder β) (build : Build) :
    ((get : Builder Build) >>= next) build = next build build := rfl

theorem modify_eq_ok_iff {change : Build → Build} {result : PUnit} {build final : Build} :
    (modify change : Builder PUnit) build = .ok result final ↔ final = change build := by
  constructor
  · intro h
    cases h
    rfl
  · rintro rfl
    rfl

end Builder

/-- The automaton of a parallel branch that ends at `last`. -/
def Automaton.complete (automaton : Automaton) (last done : State) : Automaton :=
  ((automaton.addState done).addTransition (.completion last done)).markFinal done

namespace Build

def exit? (build : Build) : Option State :=
  build.scopes.choice.bind OpenChoice.exit

def settle (build : Build) (anchor : State) (transition : Transition) (message : Message) :
    Build :=
  (({ build with pending := none } : Build).modifyAutomaton fun automaton =>
    automaton.addInterrupt ⟨anchor, transition⟩).record (.interruptRegistered anchor message)

def complete (build : Build) : Build :=
  (build.newState.2.connect (.completion build.scopes.cursor build.arena.next)).markFinal
    build.arena.next

def leaveBranch (build : Build) (index : Nat) (anchor : State) : Build :=
  match build.complete.scopes.exitBranch with
  | some (branch, scopes) =>
      ({ build.complete with scopes }.modifyAutomaton fun automaton =>
        automaton.addBranch anchor branch).record
          (.parallelBranchLeft index anchor branch.states.length)
  | none => build.complete

section Fields

variable (build : Build)

@[simp] theorem pending_record (event : Event) : (build.record event).pending = build.pending := by
  rw [record]
  split <;> rfl

@[simp] theorem scopes_modifyScopes (change : ScopeStack → ScopeStack) :
    (build.modifyScopes change).scopes = change build.scopes := rfl

@[simp] theorem arena_modifyScopes (change : ScopeStack → ScopeStack) :
    (build.modifyScopes change).arena = build.arena := rfl

@[simp] theorem pending_modifyScopes (change : ScopeStack → ScopeStack) :
    (build.modifyScopes change).pending = build.pending := rfl

@[simp] theorem scopes_newState : build.newState.2.scopes =
    build.scopes.modifyAutomaton fun automaton => automaton.addState build.arena.next := rfl

@[simp] theorem next_newState : build.newState.2.arena.next = build.arena.next + 1 := rfl

@[simp] theorem pending_newState : build.newState.2.pending = build.pending := rfl

@[simp] theorem scopes_connect (transition : Transition) : (build.connect transition).scopes =
    build.scopes.modifyAutomaton fun automaton => automaton.addTransition transition :=
  scopes_record _ _

@[simp] theorem arena_connect (transition : Transition) :
    (build.connect transition).arena = build.arena := arena_record _ _

@[simp] theorem pending_connect (transition : Transition) :
    (build.connect transition).pending = build.pending := pending_record _ _

@[simp] theorem scopes_markFinal (state : State) : (build.markFinal state).scopes =
    build.scopes.modifyAutomaton fun automaton => automaton.markFinal state :=
  scopes_record _ _

@[simp] theorem arena_markFinal (state : State) :
    (build.markFinal state).arena = build.arena := arena_record _ _

@[simp] theorem pending_markFinal (state : State) :
    (build.markFinal state).pending = build.pending := pending_record _ _

theorem scopes_complete : build.complete.scopes = { build.scopes with
    automaton := build.scopes.automaton.complete build.scopes.cursor build.arena.next } := by
  rw [complete, scopes_markFinal, scopes_connect, scopes_newState]
  rfl

end Fields

@[simp] theorem pending_addRoles (roles : List Role) (build : Build) :
    (roles.foldl addRole build).pending = build.pending := by
  induction roles generalizing build with
  | nil => rfl
  | cons role rest ih => exact ih (build.addRole role)

end Build

namespace Compiler

theorem addRoles_eq (roles : List Role) (build : Build) :
    addRoles roles build = .ok () (roles.foldl Build.addRole build) := by
  induction roles generalizing build with
  | nil => rfl
  | cons role rest ih => exact ih (build.addRole role)

theorem openChoice_eq (branches : Nat) (build : Build) :
    openChoice branches build = .ok build.scopes.cursor
      ((build.record (.choiceEntered build.scopes.cursor branches)).modifyScopes fun scopes =>
        scopes.pushChoice build.scopes.cursor) := rfl

theorem enterChoiceBranch_eq (index : Nat) (start : State) (build : Build) :
    enterChoiceBranch index start build = .ok ()
      ((build.modifyScopes fun scopes => scopes.setCursor start).record
        (.choiceBranchEntered index start)) := rfl

theorem choiceExit_eq (build : Build) :
    choiceExit build =
      match build.exit? with
      | some exit => .ok exit build
      | none => .ok build.arena.next
          (build.newState.2.modifyScopes fun scopes => scopes.setChoiceExit build.arena.next) := by
  rw [choiceExit, Builder.get_bind, Build.exit?]
  cases build.scopes.choice.bind OpenChoice.exit with
  | none => rfl
  | some exit => rfl

theorem converge_of_some {build : Build} {exit : State} (h : build.exit? = some exit) :
    converge build = .ok () (build.connect (.silent build.scopes.cursor exit)) := by
  have hexit := choiceExit_eq build
  rw [h] at hexit
  simp only [converge, bind, EStateM.bind, hexit]
  rfl

theorem converge_of_none {build : Build} (h : build.exit? = none) :
    converge build = .ok ()
      (let opened :=
        build.newState.2.modifyScopes fun scopes => scopes.setChoiceExit build.arena.next
      opened.connect (.silent opened.scopes.cursor build.arena.next)) := by
  have hexit := choiceExit_eq build
  rw [h] at hexit
  simp only [converge, bind, EStateM.bind, hexit]
  rfl

theorem closeChoice_eq (start : State) (build : Build) :
    closeChoice start build = .ok ()
      ((build.modifyScopes fun scopes => scopes.popChoice.setCursor (build.exit?.getD start)).record
        (.choiceLeft (build.exit?.getD start))) := rfl

theorem registerDispatch_eq (state : State) (key : DispatchKey) (build : Build) :
    registerDispatch state key build = .ok ()
      ((build.modifyAutomaton fun automaton =>
        automaton.addDispatch state ⟨key, build.scopes.cursor⟩).record
          (.dispatchRegistered state key build.scopes.cursor)) := rfl

theorem openParallel_eq (branches : Nat) (build : Build) :
    openParallel branches build = .ok (build.scopes.cursor, build.arena.next)
      (build.newState.2.record
        (.parallelEntered build.scopes.cursor build.arena.next branches)) := rfl

theorem closeParallel_eq (anchor join : State) (build : Build) :
    closeParallel anchor join build = .ok ()
      (((build.connect (.silent anchor join)).modifyScopes fun scopes =>
        scopes.setCursor join).record (.parallelLeft join)) := rfl

theorem enterParallelBranch_eq (anchor : State) (build : Build) :
    enterParallelBranch anchor build = .ok ()
      ((build.alloc (some anchor)).2.modifyScopes fun scopes =>
        scopes.enterBranch anchor (.single build.arena.next)) := rfl

theorem openLoop_once_eq (build : Build) :
    openLoop .once build = .ok build.scopes.cursor
      (build.record (.loopEntered build.scopes.cursor)) := rfl

theorem openLoop_loop_eq (build : Build) :
    openLoop .loop build = .ok build.arena.next
      (((build.newState.2.connect (.silent build.scopes.cursor build.arena.next)).modifyScopes
        fun scopes => scopes.setCursor build.arena.next).record
          (.loopEntered build.arena.next)) := rfl

theorem closeLoop_once_eq (head : State) (build : Build) :
    closeLoop .once head build = .ok () (build.record (.loopLeft false)) := rfl

theorem closeLoop_loop_eq (head : State) (build : Build) :
    closeLoop .loop head build = .ok ()
      ((build.connect (.silent build.scopes.cursor head)).record (.loopLeft true)) := rfl

theorem openRecursion_eq (label : String) (build : Build) :
    openRecursion label build = .ok ()
      ((build.modifyScopes fun scopes => scopes.enterRecursion label build.scopes.cursor).record
        (.recursionEntered label build.scopes.cursor)) := rfl

theorem requireNoInterrupt_eq (anchor : State) (build : Build) :
    requireNoInterrupt anchor build =
      if (build.scopes.automaton.interruptAt anchor).isSome then
        .error (.interruptConflict anchor) build
      else .ok () build := by
  change (if (build.scopes.automaton.interruptAt anchor).isSome = true then
    throw (.interruptConflict anchor) else pure () : Builder Unit) build = _
  split <;> rfl

theorem requireNoInterrupt_eq_ok_iff {anchor : State} {result : Unit} {build final : Build} :
    requireNoInterrupt anchor build = .ok result final ↔
      build.scopes.automaton.interruptAt anchor = none ∧ final = build := by
  rw [requireNoInterrupt_eq]
  cases build.scopes.automaton.interruptAt anchor with
  | none => simp [eq_comm]
  | some interrupt => simp

/-- Only an interrupt that was armed in the automaton under construction gets the transition. -/
theorem registerInterrupt_eq_ok_iff {transition : Transition} {message : Message}
    {build final : Build} :
    registerInterrupt transition message build = .ok () final ↔
      (∀ pending, build.pending = some pending → pending.owner ≠ build.scopes.owner) ∧
          final = build ∨
        ∃ anchor, build.pending = some ⟨anchor, build.scopes.owner⟩ ∧
          build.scopes.automaton.interruptAt anchor = none ∧
          final = build.settle anchor transition message := by
  rw [registerInterrupt, Builder.get_bind]
  cases hpending : build.pending with
  | none => simp [Builder.pure_eq_ok_iff, eq_comm]
  | some pending =>
      obtain ⟨anchor, owner⟩ := pending
      by_cases howner : owner = build.scopes.owner
      · have hset : (set ({ build with pending := none } : Build) : Builder PUnit) build =
            .ok ⟨⟩ { build with pending := none } := rfl
        simp only [if_pos howner, Builder.bind_of_ok hset, Builder.bind_eq_ok_iff,
          requireNoInterrupt_eq_ok_iff, Builder.modify_eq_ok_iff]
        constructor
        · rintro ⟨_, _, ⟨hfree, rfl⟩, rfl⟩
          exact .inr ⟨anchor, by rw [howner], hfree, rfl⟩
        · rintro (⟨hforeign, -⟩ | ⟨_, hanchor, hfree, rfl⟩)
          · exact absurd howner (hforeign _ rfl)
          · cases hanchor
            exact ⟨(), _, ⟨hfree, rfl⟩, rfl⟩
      · simp [howner, Builder.pure_eq_ok_iff, eq_comm]

theorem interaction_eq_ok_iff {exchange : Interaction} {build final : Build} :
    interaction exchange build = .ok () final ↔
      ∃ registered,
        registerInterrupt (exchange.transition build.scopes.cursor build.arena.next)
          exchange.message (build.newState.2.addRole exchange.partner) = .ok () registered ∧
        final = (registered.connect
          (exchange.transition build.scopes.cursor build.arena.next)).modifyScopes fun scopes =>
            scopes.setCursor build.arena.next := by
  simp only [interaction, addTransition, Builder.bind_eq_ok_iff]
  constructor
  · rintro ⟨_, _, hcursor, _, _, hplaced, _, _, hnamed, _, _, ⟨_, _, hregister, hconnect⟩, hmove⟩
    cases hcursor
    cases hplaced
    cases hnamed
    cases hconnect
    cases hmove
    exact ⟨_, hregister, rfl⟩
  · rintro ⟨_, hregister, rfl⟩
    exact ⟨_, _, rfl, _, _, rfl, _, _, rfl, _, _, ⟨_, _, hregister, rfl⟩, rfl⟩

theorem call_eq_ok_iff {label : String} {build final : Build} :
    call label build = .ok () final ↔
      ∃ start, build.scopes.resolveRecursion label = some start ∧
        let called := (build.connect (.silent build.scopes.cursor start)).record
          (.recursionCalled label start)
        final = called.newState.2.modifyScopes fun scopes =>
          scopes.setCursor called.arena.next := by
  rw [call, Builder.get_bind]
  cases hresolve : build.scopes.resolveRecursion label with
  | none => simp [Builder.throw_ne_ok]
  | some start =>
      simp only [Builder.bind_eq_ok_iff, Option.some.injEq, exists_eq_left']
      constructor
      · rintro ⟨_, _, hcursor, _, _, hsilent, _, _, hrecord, _, _, hplaced, hmove⟩
        cases hcursor
        cases hsilent
        cases hrecord
        cases hplaced
        cases hmove
        rfl
      · rintro rfl
        exact ⟨_, _, rfl, _, _, rfl, _, _, rfl, _, _, rfl, rfl⟩

theorem armInterrupt_eq_ok_iff {role : Role} {build final : Build} :
    armInterrupt role build = .ok () final ↔
      build.scopes.automaton.interruptAt build.scopes.cursor = none ∧
        final =
          ({ build.markFinal build.scopes.cursor with
            pending := some ⟨build.scopes.cursor, build.scopes.owner⟩ } : Build).record
              (.interruptArmed build.scopes.cursor role) := by
  have hmarked : (build.markFinal build.scopes.cursor).scopes.automaton.interruptAt
      build.scopes.cursor = build.scopes.automaton.interruptAt build.scopes.cursor := by
    rw [Build.scopes_markFinal]
    rfl
  have howner : (build.markFinal build.scopes.cursor).scopes.owner = build.scopes.owner := by
    rw [Build.scopes_markFinal]
    rfl
  simp only [armInterrupt, Builder.bind_eq_ok_iff, requireNoInterrupt_eq_ok_iff,
    Builder.modify_eq_ok_iff]
  constructor
  · rintro ⟨_, _, hcursor, _, _, hmark, _, _, ⟨hfree, rfl⟩, rfl⟩
    cases hcursor
    cases hmark
    exact ⟨hmarked.symm.trans hfree, by rw [howner]⟩
  · rintro ⟨hfree, rfl⟩
    exact ⟨_, _, rfl, _, _, rfl, (), _, ⟨hmarked.trans hfree, rfl⟩, by rw [howner]⟩

theorem closeRecursion_eq {own label : String} {frame : Frame} {frames : List Frame}
    {build : Build} (hkind : build.scopes.current.kind = .recursion own)
    (henclosing : build.scopes.enclosing = frame :: frames) :
    closeRecursion label build = .ok ()
      ((build.modifyScopes fun scopes =>
        { scopes with
          current :=
            { frame with
              cursor := scopes.cursor
              recursions := retire frame.recursions scopes.current.recursions }
          enclosing := frames }).record (.recursionLeft label)) := by
  rw [closeRecursion, Builder.get_bind, ScopeStack.exitRecursion_eq hkind henclosing]
  rfl

theorem closeRecursion_eq_ok {build opened closing final : Build} {label : String} {piece : Piece}
    {next last : State} {choices : List OpenChoice}
    (hopen : openRecursion label build = .ok () opened)
    (hgrows : opened.Grows piece next last choices closing)
    (hclose : closeRecursion label closing = .ok () final) :
    final.arena = closing.arena ∧ final.pending = closing.pending ∧
      final.scopes.automaton = closing.scopes.automaton := by
  obtain ⟨-, hscopes⟩ := openRecursion_eq_ok hopen
  rw [closeRecursion_eq (hgrows.kind_eq.trans (by rw [hscopes]; rfl))
    (hgrows.enclosing_eq.trans (by rw [hscopes]; rfl))] at hclose
  cases hclose
  simp

theorem leaveParallelBranch_eq (index : Nat) (anchor : State) (build : Build) :
    leaveParallelBranch index anchor build = .ok () (build.leaveBranch index anchor) := by
  have hcursor : cursor build = .ok build.scopes.cursor build := rfl
  have hplaced : newState build = .ok build.arena.next build.newState.2 := rfl
  have hconnected : addTransition ⟨build.scopes.cursor, .parallelEnd, build.arena.next, none, none⟩
      build.newState.2 = .ok () (build.newState.2.connect
        (.completion build.scopes.cursor build.arena.next)) := rfl
  have hmarked : markFinal build.arena.next (build.newState.2.connect
      (.completion build.scopes.cursor build.arena.next)) = .ok () build.complete := rfl
  rw [leaveParallelBranch, Builder.bind_of_ok hcursor, Builder.bind_of_ok hplaced,
    Builder.bind_of_ok hconnected, Builder.bind_of_ok hmarked, Builder.get_bind, Build.leaveBranch]
  cases build.complete.scopes.exitBranch with
  | none => rfl
  | some closed => rfl

theorem leaveParallelBranch_eq_ok {index : Nat} {anchor own : State} {automaton : Automaton}
    {automata : List Automaton} {frame : Frame} {frames : List Frame} {build final : Build}
    (hkind : build.scopes.current.kind = .branch own)
    (hsuspended : build.scopes.suspended = automaton :: automata)
    (henclosing : build.scopes.enclosing = frame :: frames)
    (h : leaveParallelBranch index anchor build = .ok () final) :
    final.arena.next = build.arena.next + 1 ∧ final.pending = build.pending ∧
      final.scopes = ⟨automaton.addBranch anchor
        (build.scopes.automaton.complete build.scopes.cursor build.arena.next),
        automata, frame, frames⟩ := by
  have hexit : build.complete.scopes.exitBranch =
      some (build.complete.scopes.automaton, ⟨automaton, automata, frame, frames⟩) := by
    rw [Build.scopes_complete]
    exact ScopeStack.exitBranch_eq hkind hsuspended henclosing
  rw [leaveParallelBranch_eq, Build.leaveBranch, hexit] at h
  cases h
  refine ⟨?_, ?_, ?_⟩
  · simp [Build.complete, Build.modifyAutomaton]
  · simp [Build.complete, Build.modifyAutomaton]
  · simp [Build.modifyAutomaton, Build.scopes_complete, ScopeStack.modifyAutomaton]

theorem leaveParallelBranch_eq_of_enter {index : Nat} {anchor next last : State} {piece : Piece}
    {choices : List OpenChoice} {build opened closing final : Build}
    (henter : enterParallelBranch anchor build = .ok () opened)
    (hgrows : opened.Grows piece next last choices closing)
    (hleave : leaveParallelBranch index anchor closing = .ok () final) :
    final = ({ closing.complete with scopes := build.scopes }.modifyAutomaton fun automaton =>
      automaton.addBranch anchor closing.complete.scopes.automaton).record
        (.parallelBranchLeft index anchor closing.complete.scopes.automaton.states.length) := by
  obtain ⟨-, hscopes⟩ := enterParallelBranch_eq_ok henter
  have hexit : closing.complete.scopes.exitBranch =
      some (closing.complete.scopes.automaton, build.scopes) := by
    rw [Build.scopes_complete]
    exact ScopeStack.exitBranch_eq (hgrows.kind_eq.trans (by rw [hscopes]; rfl))
      (hgrows.suspended_eq.trans (by rw [hscopes]; rfl))
      (hgrows.enclosing_eq.trans (by rw [hscopes]; rfl))
  rw [leaveParallelBranch_eq, Build.leaveBranch, hexit] at hleave
  cases hleave
  rfl

theorem leaveParallelBranch_eq_of_grows {index : Nat} {anchor next last : State} {piece : Piece}
    {choices : List OpenChoice} {build opened closing final : Build}
    (henter : enterParallelBranch anchor build = .ok () opened)
    (hgrows : opened.Grows piece next last choices closing)
    (hleave : leaveParallelBranch index anchor closing = .ok () final) :
    final.arena.next = closing.arena.next + 1 ∧ final.pending = closing.pending ∧
      final.scopes = ⟨build.scopes.automaton.addBranch anchor
        (closing.scopes.automaton.complete closing.scopes.cursor closing.arena.next),
        build.scopes.suspended, build.scopes.current, build.scopes.enclosing⟩ := by
  obtain ⟨-, hscopes⟩ := enterParallelBranch_eq_ok henter
  exact leaveParallelBranch_eq_ok (hgrows.kind_eq.trans (by rw [hscopes]; rfl))
    (hgrows.suspended_eq.trans (by rw [hscopes]; rfl))
    (hgrows.enclosing_eq.trans (by rw [hscopes]; rfl)) hleave

end Compiler

end Conversation

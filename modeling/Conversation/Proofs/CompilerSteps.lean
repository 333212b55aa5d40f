import Conversation.Proofs.CompilerRuns
import Conversation.Proofs.Layout
import Conversation.Proofs.ScopeHistory

namespace Conversation

namespace ScopeStack

variable {stack : ScopeStack} {label : String} {start : State}

theorem lookupRecursion_eq (stack : ScopeStack) (label : String) :
    stack.lookupRecursion label =
      (stack.current.find? label).or
        ((stack.enclosing.takeWhile fun frame => frame.owner = stack.owner).findSome?
          (Frame.find? label)) := by
  cases hcurrent : stack.current.find? label with
  | none => simp [lookupRecursion, frames, owner, hcurrent]
  | some entry => simp [lookupRecursion, frames, owner, hcurrent]

theorem resolveRecursion_eq_some_iff :
    stack.resolveRecursion label = some start ↔
      stack.lookupRecursion label = some ⟨start, true⟩ := by
  rw [resolveRecursion]
  split
  · next entry hlookup => simp [hlookup]
  · next hlookup =>
      constructor
      · intro h
        cases h
      · intro h
        exact absurd h (hlookup start)

theorem resolveRecursion_congr {other : ScopeStack} (label : String)
    (howner : other.owner = stack.owner)
    (hrecursions : other.current.recursions = stack.current.recursions)
    (henclosing : other.enclosing = stack.enclosing) :
    other.resolveRecursion label = stack.resolveRecursion label := by
  simp only [resolveRecursion, lookupRecursion_eq, Frame.find?, howner, hrecursions, henclosing]

theorem resolveRecursion_enterRecursion (stack : ScopeStack) (own label : String)
    (start : State) :
    (stack.enterRecursion own start).resolveRecursion label =
      if label = own then some start else stack.resolveRecursion label := by
  have hlookup : (stack.enterRecursion own start).lookupRecursion label =
      ([(own, ⟨start, true⟩)].lookup label).or (stack.lookupRecursion label) := by
    rw [lookupRecursion_eq]
    rfl
  rw [resolveRecursion, hlookup]
  by_cases hlabel : label = own
  · subst hlabel
    simp
  · have hbeq : (label == own) = false := by simpa using hlabel
    simp [List.lookup_cons, hbeq, hlabel, resolveRecursion]

theorem resolveRecursion_enterBranch (anchor : State) (branch : Automaton) (label : String)
    (hlevel : stack.owner = stack.suspended.length) :
    (stack.enterBranch anchor branch).resolveRecursion label = none := by
  have hlookup : (stack.enterBranch anchor branch).lookupRecursion label = none := by
    rw [lookupRecursion_eq]
    have howner : stack.current.owner ≠ stack.suspended.length + 1 := by
      rw [show stack.current.owner = stack.suspended.length from hlevel]
      exact Nat.ne_of_lt (Nat.lt_succ_self _)
    simp [enterBranch, push, Frame.ofKind, Frame.find?, owner, howner]
  rw [resolveRecursion, hlookup]

theorem exitRecursion_eq {frame : Frame} {frames : List Frame}
    (hkind : stack.current.kind = .recursion label) (henclosing : stack.enclosing = frame :: frames) :
    stack.exitRecursion = some (label,
      { stack with
        current :=
          { frame with
            cursor := stack.cursor
            recursions := retire frame.recursions stack.current.recursions }
        enclosing := frames }) := by
  rw [exitRecursion, hkind, henclosing]
  rfl

theorem exitBranch_eq {anchor : State} {automaton : Automaton} {automata : List Automaton}
    {frame : Frame} {frames : List Frame} (hkind : stack.current.kind = .branch anchor)
    (hsuspended : stack.suspended = automaton :: automata)
    (henclosing : stack.enclosing = frame :: frames) :
    stack.exitBranch = some (stack.automaton, ⟨automaton, automata, frame, frames⟩) := by
  rw [exitBranch, hkind, hsuspended, henclosing]

@[simp] theorem automaton_setChoiceExit (exit : State) :
    (stack.setChoiceExit exit).automaton = stack.automaton := by
  rw [setChoiceExit]
  split <;> rfl

@[simp] theorem cursor_setChoiceExit (exit : State) :
    (stack.setChoiceExit exit).cursor = stack.cursor := by
  rw [setChoiceExit]
  split <;> rfl

@[simp] theorem owner_setChoiceExit (exit : State) :
    (stack.setChoiceExit exit).owner = stack.owner := by
  rw [setChoiceExit]
  split <;> rfl

theorem resolveRecursion_exitRecursion {opened : ScopeStack} {cursor : State}
    (closed : List (String × RecursionEntry))
    (hresolve : ScopeStack.resolveRecursion
      { opened with
        current :=
          { stack.current with cursor, recursions := retire stack.current.recursions closed }
        enclosing := stack.enclosing } label = some start) :
    stack.resolveRecursion label = some start := by
  rw [resolveRecursion_eq_some_iff, lookupRecursion_eq] at hresolve ⊢
  simp only [Frame.find?, lookup_retire, owner] at hresolve ⊢
  cases hknown : stack.current.recursions.lookup label with
  | some entry => simpa [hknown] using hresolve
  | none =>
      cases hclosed : closed.lookup label with
      | some entry => simp [hknown, hclosed] at hresolve
      | none =>
          simp only [hknown, hclosed, Option.map_none, Option.none_or] at hresolve ⊢
          exact hresolve

end ScopeStack

structure Automaton.Grows (automaton : Automaton) (piece : Piece) (automaton' : Automaton) :
    Prop where
  transitions_eq : automaton'.transitions = automaton.transitions ++ piece.transitions
  mem_finals_iff : ∀ state, state ∈ automaton'.finals ↔
    state ∈ automaton.finals ∨ state ∈ piece.finals
  nested_eq : automaton'.nested = Table.appendAll automaton.nested piece.branches
  initial_eq : automaton'.initial = automaton.initial

namespace Automaton.Grows

variable {automaton automaton' automaton'' : Automaton} {piece piece' : Piece}

theorem trans (h : automaton.Grows piece automaton') (h' : automaton'.Grows piece' automaton'') :
    automaton.Grows (piece ++ piece') automaton'' where
  transitions_eq := by
    rw [h'.transitions_eq, h.transitions_eq, Piece.transitions_append, List.append_assoc]
  mem_finals_iff := by
    intro state
    rw [h'.mem_finals_iff, h.mem_finals_iff, Piece.finals_append, List.mem_append, or_assoc]
  nested_eq := by
    rw [h'.nested_eq, h.nested_eq, Piece.branches_append, Table.appendAll, Table.appendAll,
      Table.appendAll, List.foldl_append]
  initial_eq := h'.initial_eq.trans h.initial_eq

theorem of_eq (htransitions : automaton'.transitions = automaton.transitions)
    (hfinals : automaton'.finals = automaton.finals)
    (hnested : automaton'.nested = automaton.nested)
    (hinitial : automaton'.initial = automaton.initial) : automaton.Grows .empty automaton' where
  transitions_eq := htransitions.trans (List.append_nil _).symm
  mem_finals_iff := by simp [Piece.empty, hfinals]
  nested_eq := hnested
  initial_eq := hinitial

theorem refl (automaton : Automaton) : automaton.Grows .empty automaton :=
  of_eq rfl rfl rfl rfl

theorem addState (automaton : Automaton) (state : State) (agenda : Agenda) :
    automaton.Grows (.place state agenda) (automaton.addState state) where
  transitions_eq := (List.append_nil _).symm
  mem_finals_iff := by simp [Piece.place, Automaton.addState]
  nested_eq := rfl
  initial_eq := rfl

theorem addTransition (automaton : Automaton) (transition : Transition) :
    automaton.Grows (.edge transition) (automaton.addTransition transition) where
  transitions_eq := rfl
  mem_finals_iff := by simp [Piece.edge, Automaton.addTransition]
  nested_eq := rfl
  initial_eq := rfl

theorem markFinal (automaton : Automaton) (state : State) :
    automaton.Grows (.mark state) (automaton.markFinal state) where
  transitions_eq := (List.append_nil _).symm
  mem_finals_iff := by
    intro other
    simp [Piece.mark, Automaton.markFinal, StateSet.mem_insert, or_comm]
  nested_eq := rfl
  initial_eq := rfl

theorem addBranch (automaton : Automaton) (anchor : State) (branch : Automaton) :
    automaton.Grows (.branch anchor branch) (automaton.addBranch anchor branch) where
  transitions_eq := (List.append_nil _).symm
  mem_finals_iff := by simp [Piece.branch, Automaton.addBranch]
  nested_eq := rfl
  initial_eq := rfl

end Automaton.Grows

/-- The compilation gets from `build` to `build'`, and the piece is what it contributes to the
automaton under construction. Then `next` is the next free state, `cursor` the cursor and `choices`
the open choices. Labels are resolved as before, or not any more. -/
structure Build.Grows (build : Build) (piece : Piece) (next cursor : State)
    (choices : List OpenChoice) (build' : Build) : Prop where
  automaton_grows : build.scopes.automaton.Grows piece build'.scopes.automaton
  next_eq : build'.arena.next = next
  cursor_eq : build'.scopes.cursor = cursor
  choices_eq : build'.scopes.current.choices = choices
  suspended_eq : build'.scopes.suspended = build.scopes.suspended
  enclosing_eq : build'.scopes.enclosing = build.scopes.enclosing
  kind_eq : build'.scopes.current.kind = build.scopes.current.kind
  owner_eq : build'.scopes.owner = build.scopes.owner
  resolves : ∀ label start, build'.scopes.resolveRecursion label = some start →
    build.scopes.resolveRecursion label = some start

namespace Build.Grows

variable {build build' build'' : Build} {piece piece' : Piece} {next next' cursor cursor' : State}
  {choices choices' : List OpenChoice}

theorem trans (h : build.Grows piece next cursor choices build')
    (h' : build'.Grows piece' next' cursor' choices' build'') :
    build.Grows (piece ++ piece') next' cursor' choices' build'' where
  automaton_grows := h.automaton_grows.trans h'.automaton_grows
  next_eq := h'.next_eq
  cursor_eq := h'.cursor_eq
  choices_eq := h'.choices_eq
  suspended_eq := h'.suspended_eq.trans h.suspended_eq
  enclosing_eq := h'.enclosing_eq.trans h.enclosing_eq
  kind_eq := h'.kind_eq.trans h.kind_eq
  owner_eq := h'.owner_eq.trans h.owner_eq
  resolves := by
    intro label start hresolve
    exact h.resolves label start (h'.resolves label start hresolve)

/-- The form of all actions that neither open nor close a frame. -/
theorem of_current (hautomaton : build.scopes.automaton.Grows piece build'.scopes.automaton)
    (hnext : build'.arena.next = next)
    (hcurrent : build'.scopes.current = { build.scopes.current with cursor, choices })
    (hsuspended : build'.scopes.suspended = build.scopes.suspended)
    (henclosing : build'.scopes.enclosing = build.scopes.enclosing) :
    build.Grows piece next cursor choices build' where
  automaton_grows := hautomaton
  next_eq := hnext
  cursor_eq := by rw [ScopeStack.cursor, hcurrent]
  choices_eq := by rw [hcurrent]
  suspended_eq := hsuspended
  enclosing_eq := henclosing
  kind_eq := by rw [hcurrent]
  owner_eq := by rw [ScopeStack.owner, hcurrent, ScopeStack.owner]
  resolves := by
    intro label start hresolve
    rwa [ScopeStack.resolveRecursion_congr label (by rw [ScopeStack.owner, hcurrent,
      ScopeStack.owner]) (by rw [hcurrent]) henclosing] at hresolve

theorem congr (h : build.Grows piece next cursor choices build')
    (harena : build''.arena = build'.arena) (hscopes : build''.scopes = build'.scopes) :
    build.Grows piece next cursor choices build'' where
  automaton_grows := hscopes ▸ h.automaton_grows
  next_eq := harena ▸ h.next_eq
  cursor_eq := hscopes ▸ h.cursor_eq
  choices_eq := hscopes ▸ h.choices_eq
  suspended_eq := hscopes ▸ h.suspended_eq
  enclosing_eq := hscopes ▸ h.enclosing_eq
  kind_eq := hscopes ▸ h.kind_eq
  owner_eq := hscopes ▸ h.owner_eq
  resolves := hscopes ▸ h.resolves

theorem extend (h : build.Grows piece next cursor choices build')
    (hautomaton : build'.scopes.automaton.Grows piece' build''.scopes.automaton)
    (hnext : build''.arena.next = next')
    (hcurrent : build''.scopes.current =
      { build'.scopes.current with cursor := cursor', choices := choices' })
    (hsuspended : build''.scopes.suspended = build'.scopes.suspended)
    (henclosing : build''.scopes.enclosing = build'.scopes.enclosing) :
    build.Grows (piece ++ piece') next' cursor' choices' build'' :=
  h.trans (of_current hautomaton hnext hcurrent hsuspended henclosing)

theorem adjust (h : build.Grows piece next cursor choices build')
    (hautomaton : build'.scopes.automaton.Grows .empty build''.scopes.automaton)
    (hnext : build''.arena.next = build'.arena.next)
    (hcurrent : build''.scopes.current =
      { build'.scopes.current with cursor := cursor', choices := choices' })
    (hsuspended : build''.scopes.suspended = build'.scopes.suspended)
    (henclosing : build''.scopes.enclosing = build'.scopes.enclosing) :
    build.Grows piece next cursor' choices' build'' := by
  rw [← piece.append_empty]
  exact h.extend hautomaton (hnext.trans h.next_eq) hcurrent hsuspended henclosing

end Build.Grows

namespace Build

@[simp] theorem arena_record (build : Build) (event : Event) :
    (build.record event).arena = build.arena := by
  rw [record]
  split <;> rfl

@[simp] theorem scopes_record (build : Build) (event : Event) :
    (build.record event).scopes = build.scopes := by
  rw [record]
  split <;> rfl

end Build

namespace Build.Grows

variable {build build' build'' : Build} {piece piece' : Piece} {next next' cursor cursor' : State}
  {choices choices' : List OpenChoice}

theorem record (h : build.Grows piece next cursor choices build') (event : Event) :
    build.Grows piece next cursor choices (build'.record event) :=
  h.congr (build'.arena_record event) (build'.scopes_record event)

theorem newState (h : build.Grows piece next cursor choices build') (agenda : Agenda) :
    build.Grows (piece ++ .place next agenda) (next + 1) cursor choices build'.newState.2 := by
  obtain rfl := h.next_eq
  obtain rfl := h.cursor_eq
  obtain rfl := h.choices_eq
  exact h.extend (.addState _ _ agenda) rfl rfl rfl rfl

theorem connect (h : build.Grows piece next cursor choices build') (transition : Transition) :
    build.Grows (piece ++ .edge transition) next cursor choices (build'.connect transition) := by
  obtain rfl := h.next_eq
  obtain rfl := h.cursor_eq
  obtain rfl := h.choices_eq
  apply record
  exact h.extend (.addTransition _ transition) rfl rfl rfl rfl

theorem markFinal (h : build.Grows piece next cursor choices build') (state : State) :
    build.Grows (piece ++ .mark state) next cursor choices (build'.markFinal state) := by
  obtain rfl := h.next_eq
  obtain rfl := h.cursor_eq
  obtain rfl := h.choices_eq
  apply record
  exact h.extend (.markFinal _ state) rfl rfl rfl rfl

theorem setCursor (h : build.Grows piece next cursor choices build') (state : State) :
    build.Grows piece next state choices
      (build'.modifyScopes fun scopes => scopes.setCursor state) := by
  obtain rfl := h.choices_eq
  exact h.adjust (.refl _) rfl rfl rfl rfl

theorem pushChoice (h : build.Grows piece next cursor choices build') (start : State) :
    build.Grows piece next cursor (⟨start, none⟩ :: choices)
      (build'.modifyScopes fun scopes => scopes.pushChoice start) := by
  obtain rfl := h.cursor_eq
  obtain rfl := h.choices_eq
  exact h.adjust (.refl _) rfl rfl rfl rfl

theorem setChoiceExit {choice : OpenChoice}
    (h : build.Grows piece next cursor (choice :: choices) build') (exit : State) :
    build.Grows piece next cursor (⟨choice.start, some exit⟩ :: choices)
      (build'.modifyScopes fun scopes => scopes.setChoiceExit exit) := by
  have hscopes : build'.scopes.setChoiceExit exit =
      { build'.scopes with
        current := { build'.scopes.current with choices := ⟨choice.start, some exit⟩ :: choices } } := by
    rw [ScopeStack.setChoiceExit, h.choices_eq]
  obtain rfl := h.cursor_eq
  rw [Build.modifyScopes, hscopes]
  exact h.adjust (.refl _) rfl rfl rfl rfl

theorem popChoice {choice : OpenChoice}
    (h : build.Grows piece next cursor (choice :: choices) build') :
    build.Grows piece next cursor choices
      (build'.modifyScopes fun scopes => scopes.popChoice) := by
  have hscopes : build'.scopes.popChoice =
      { build'.scopes with current := { build'.scopes.current with choices } } := by
    rw [ScopeStack.popChoice, h.choices_eq, List.tail_cons]
  obtain rfl := h.cursor_eq
  rw [Build.modifyScopes, hscopes]
  exact h.adjust (.refl _) rfl rfl rfl rfl

end Build.Grows

theorem Build.grows_refl (build : Build) :
    build.Grows .empty build.arena.next build.scopes.cursor build.scopes.current.choices build :=
  .of_current (.refl _) rfl rfl rfl rfl

namespace Compiler

theorem requireNoInterrupt_eq_ok {anchor : State} {build build' : Build}
    (h : requireNoInterrupt anchor build = .ok () build') : build' = build := by
  simp only [requireNoInterrupt, Builder.bind_eq_ok_iff] at h
  obtain ⟨_, _, hget, hcheck⟩ := h
  cases hget
  split at hcheck
  · exact absurd hcheck Builder.throw_ne_ok
  · exact (Builder.pure_eq_ok_iff.mp hcheck).2.symm

end Compiler

namespace Build.Grows

variable {base build build' : Build} {piece : Piece} {next cursor : State}
  {choices : List OpenChoice}

theorem registerInterrupt (h : base.Grows piece next cursor choices build)
    {transition : Transition} {message : Message}
    (hrun : Compiler.registerInterrupt transition message build = .ok () build') :
    base.Grows piece next cursor choices build' := by
  simp only [Compiler.registerInterrupt, Builder.bind_eq_ok_iff] at hrun
  obtain ⟨_, _, hget, hrun⟩ := hrun
  cases hget
  cases hpending : build.pending with
  | none =>
      rw [hpending] at hrun
      obtain rfl := (Builder.pure_eq_ok_iff.mp hrun).2
      exact h
  | some pending =>
      simp only [hpending] at hrun
      split at hrun
      · simp only [Builder.bind_eq_ok_iff] at hrun
        obtain ⟨_, _, hset, _, _, hcheck, hmodify⟩ := hrun
        obtain rfl := Compiler.requireNoInterrupt_eq_ok hcheck
        cases hset
        cases hmodify
        obtain rfl := h.cursor_eq
        obtain rfl := h.choices_eq
        apply record
        exact h.adjust (.of_eq rfl rfl rfl rfl) rfl rfl rfl rfl
      · obtain rfl := (Builder.pure_eq_ok_iff.mp hrun).2
        exact h

theorem addTransition (h : base.Grows piece next cursor choices build) {transition : Transition}
    (hrun : Compiler.addTransition transition build = .ok () build') :
    base.Grows (piece ++ .edge transition) next cursor choices build' := by
  rw [Compiler.addTransition] at hrun
  cases hlabel : transition.label with
  | message message =>
      simp only [hlabel, Builder.bind_eq_ok_iff] at hrun
      obtain ⟨_, between, hregister, hconnect⟩ := hrun
      cases hconnect
      exact (h.registerInterrupt hregister).connect transition
  | silent =>
      simp only [hlabel] at hrun
      cases hrun
      exact h.connect transition
  | parallelEnd =>
      simp only [hlabel] at hrun
      cases hrun
      exact h.connect transition

theorem addRole (h : base.Grows piece next cursor choices build) {role : Role}
    (hrun : Compiler.addRole role build = .ok () build') :
    base.Grows piece next cursor choices build' := by
  cases hrun
  obtain rfl := h.cursor_eq
  obtain rfl := h.choices_eq
  exact h.adjust (.of_eq rfl rfl rfl rfl) rfl rfl rfl rfl

theorem addRoles (h : base.Grows piece next cursor choices build) {roles : List Role}
    (hrun : Compiler.addRoles roles build = .ok () build') :
    base.Grows piece next cursor choices build' := by
  induction roles generalizing build with
  | nil =>
      obtain rfl := (Builder.pure_eq_ok_iff.mp hrun).2
      exact h
  | cons role rest ih =>
      simp only [Compiler.addRoles, Builder.bind_eq_ok_iff] at hrun
      obtain ⟨_, between, hrole, hrest⟩ := hrun
      exact ih (h.addRole hrole) hrest

theorem interaction (h : base.Grows piece next cursor choices build) (rest : Agenda)
    {exchange : Interaction} (hrun : Compiler.interaction exchange build = .ok () build') :
    base.Grows (piece ++ .place next rest ++ .edge (exchange.transition cursor next)) (next + 1)
      next choices build' := by
  simp only [Compiler.interaction, Builder.bind_eq_ok_iff] at hrun
  obtain ⟨source, _, hcursor, target, placed, hplaced, _, named, hnamed, _, connected, hconnected,
    hmove⟩ := hrun
  cases hcursor
  cases hplaced
  cases hmove
  obtain rfl := h.next_eq
  obtain rfl := h.cursor_eq
  exact (((h.newState rest).addRole hnamed).addTransition hconnected).setCursor _

theorem openChoice (h : base.Grows piece next cursor choices build) {branches : Nat} {start : State}
    (hrun : Compiler.openChoice branches build = .ok start build') :
    start = cursor ∧ base.Grows piece next cursor (⟨cursor, none⟩ :: choices) build' := by
  simp only [Compiler.openChoice, Builder.bind_eq_ok_iff] at hrun
  obtain ⟨_, _, hcursor, _, recorded, hrecord, _, pushed, hpush, hreturn⟩ := hrun
  cases hcursor
  cases hrecord
  cases hpush
  cases hreturn
  refine ⟨h.cursor_eq, ?_⟩
  rw [h.cursor_eq]
  exact (h.record _).pushChoice cursor

theorem enterChoiceBranch (h : base.Grows piece next cursor choices build) {index : Nat}
    {start : State} (hrun : Compiler.enterChoiceBranch index start build = .ok () build') :
    base.Grows piece next start choices build' := by
  simp only [Compiler.enterChoiceBranch, Builder.bind_eq_ok_iff] at hrun
  obtain ⟨_, moved, hmove, hrecord⟩ := hrun
  cases hmove
  cases hrecord
  exact (h.setCursor start).record _

theorem choiceExit_none {start exit : State}
    (h : base.Grows piece next cursor (⟨start, none⟩ :: choices) build) (agenda : Agenda)
    (hrun : Compiler.choiceExit build = .ok exit build') :
    exit = next ∧ base.Grows (piece ++ .place next agenda) (next + 1) cursor
      (⟨start, some next⟩ :: choices) build' := by
  simp only [Compiler.choiceExit, Builder.bind_eq_ok_iff] at hrun
  obtain ⟨_, _, hget, hrun⟩ := hrun
  cases hget
  simp only [ScopeStack.choice, h.choices_eq, List.head?_cons, Option.bind_some,
    Builder.bind_eq_ok_iff] at hrun
  obtain ⟨_, placed, hplaced, _, set, hset, hreturn⟩ := hrun
  cases hplaced
  cases hset
  cases hreturn
  obtain rfl := h.next_eq
  exact ⟨rfl, (h.newState agenda).setChoiceExit _⟩

theorem choiceExit_some {start exit exit' : State}
    (h : base.Grows piece next cursor (⟨start, some exit⟩ :: choices) build)
    (hrun : Compiler.choiceExit build = .ok exit' build') :
    exit' = exit ∧ build' = build := by
  simp only [Compiler.choiceExit, Builder.bind_eq_ok_iff] at hrun
  obtain ⟨_, _, hget, hrun⟩ := hrun
  cases hget
  simp only [ScopeStack.choice, h.choices_eq, List.head?_cons, Option.bind_some] at hrun
  cases hrun
  exact ⟨rfl, rfl⟩

theorem converge_none {start : State}
    (h : base.Grows piece next cursor (⟨start, none⟩ :: choices) build) (agenda : Agenda)
    (hrun : Compiler.converge build = .ok () build') :
    base.Grows (piece ++ .place next agenda ++ .edge (.silent cursor next)) (next + 1) cursor
      (⟨start, some next⟩ :: choices) build' := by
  simp only [Compiler.converge, Builder.bind_eq_ok_iff] at hrun
  obtain ⟨exit, _, hexit, _, _, hcursor, hsilent⟩ := hrun
  obtain ⟨rfl, hgrows⟩ := h.choiceExit_none agenda hexit
  cases hcursor
  obtain rfl := hgrows.cursor_eq
  exact hgrows.addTransition hsilent

theorem converge_some {start exit : State}
    (h : base.Grows piece next cursor (⟨start, some exit⟩ :: choices) build)
    (hrun : Compiler.converge build = .ok () build') :
    base.Grows (piece ++ .edge (.silent cursor exit)) next cursor
      (⟨start, some exit⟩ :: choices) build' := by
  simp only [Compiler.converge, Builder.bind_eq_ok_iff] at hrun
  obtain ⟨_, _, hexit, _, _, hcursor, hsilent⟩ := hrun
  obtain ⟨rfl, rfl⟩ := h.choiceExit_some hexit
  cases hcursor
  obtain rfl := h.cursor_eq
  exact h.addTransition hsilent

theorem closeChoice {start start' exit : State}
    (h : base.Grows piece next cursor (⟨start, some exit⟩ :: choices) build)
    (hrun : Compiler.closeChoice start' build = .ok () build') :
    base.Grows piece next exit choices build' := by
  simp only [Compiler.closeChoice, Builder.bind_eq_ok_iff] at hrun
  obtain ⟨_, _, hget, _, closed, hclose, hrecord⟩ := hrun
  cases hget
  simp only [ScopeStack.choice, h.choices_eq, List.head?_cons, Option.bind_some,
    Option.getD_some] at hclose
  cases hclose
  cases hrecord
  exact (h.popChoice.setCursor exit).record _

theorem registerDispatch (h : base.Grows piece next cursor choices build) {state : State}
    {key : DispatchKey} (hrun : Compiler.registerDispatch state key build = .ok () build') :
    base.Grows piece next cursor choices build' := by
  simp only [Compiler.registerDispatch, Builder.bind_eq_ok_iff] at hrun
  obtain ⟨_, _, hcursor, hmodify⟩ := hrun
  cases hcursor
  cases hmodify
  obtain rfl := h.cursor_eq
  obtain rfl := h.choices_eq
  apply record
  exact h.adjust (.of_eq rfl rfl rfl rfl) rfl rfl rfl rfl

theorem openParallel (h : base.Grows piece next cursor choices build) (agenda : Agenda)
    {branches : Nat} {anchor join : State}
    (hrun : Compiler.openParallel branches build = .ok (anchor, join) build') :
    anchor = cursor ∧ join = next ∧
      base.Grows (piece ++ .place next agenda) (next + 1) cursor choices build' := by
  simp only [Compiler.openParallel, Builder.bind_eq_ok_iff] at hrun
  obtain ⟨_, _, hcursor, _, placed, hplaced, _, recorded, hrecord, hreturn⟩ := hrun
  cases hcursor
  cases hplaced
  cases hrecord
  cases hreturn
  exact ⟨h.cursor_eq, h.next_eq, (h.newState agenda).record _⟩

theorem closeParallel (h : base.Grows piece next cursor choices build) {anchor join : State}
    (hrun : Compiler.closeParallel anchor join build = .ok () build') :
    base.Grows (piece ++ .edge (.silent anchor join)) next join choices build' := by
  simp only [Compiler.closeParallel, Builder.bind_eq_ok_iff] at hrun
  obtain ⟨_, connected, hsilent, _, moved, hmove, hrecord⟩ := hrun
  cases hmove
  cases hrecord
  exact ((h.addTransition hsilent).setCursor join).record _

theorem openLoop_once (h : base.Grows piece next cursor choices build) {head : State}
    (hrun : Compiler.openLoop .once build = .ok head build') :
    base.Grows piece next cursor choices build' := by
  simp only [Compiler.openLoop, Builder.bind_eq_ok_iff] at hrun
  obtain ⟨_, _, hcursor, _, recorded, hrecord, hreturn⟩ := hrun
  cases hcursor
  cases hrecord
  cases hreturn
  exact h.record _

theorem closeLoop_once (h : base.Grows piece next cursor choices build) {head : State}
    (hrun : Compiler.closeLoop .once head build = .ok () build') :
    base.Grows piece next cursor choices build' := by
  cases hrun
  exact h.record _

theorem openLoop_loop (h : base.Grows piece next cursor choices build) (agenda : Agenda)
    {head : State} (hrun : Compiler.openLoop .loop build = .ok head build') :
    head = next ∧ base.Grows (piece ++ .place next agenda ++ .edge (.silent cursor next)) (next + 1)
      next choices build' := by
  simp only [Compiler.openLoop, Builder.bind_eq_ok_iff] at hrun
  obtain ⟨_, _, hcursor, _, placed, hplaced, _, connected, hsilent, _, moved, hmove, _, recorded,
    hrecord, hreturn⟩ := hrun
  cases hcursor
  cases hplaced
  cases hmove
  cases hrecord
  cases hreturn
  obtain rfl := h.next_eq
  obtain rfl := h.cursor_eq
  exact ⟨rfl, (((h.newState agenda).addTransition hsilent).setCursor _).record _⟩

theorem closeLoop_loop (h : base.Grows piece next cursor choices build) {head : State}
    (hrun : Compiler.closeLoop .loop head build = .ok () build') :
    base.Grows (piece ++ .edge (.silent cursor head)) next cursor choices build' := by
  simp only [Compiler.closeLoop, Builder.bind_eq_ok_iff] at hrun
  obtain ⟨_, _, hcursor, _, connected, hsilent, hrecord⟩ := hrun
  cases hcursor
  cases hrecord
  obtain rfl := h.cursor_eq
  exact (h.addTransition hsilent).record _

theorem call (h : base.Grows piece next cursor choices build) (agenda : Agenda) {label : String}
    (hrun : Compiler.call label build = .ok () build') :
    ∃ start, build.scopes.resolveRecursion label = some start ∧
      base.Grows (piece ++ .edge (.silent cursor start) ++ .place next agenda) (next + 1) next
        choices build' := by
  simp only [Compiler.call, Builder.bind_eq_ok_iff] at hrun
  obtain ⟨_, _, hget, hrun⟩ := hrun
  cases hget
  cases hresolve : build.scopes.resolveRecursion label with
  | none =>
      rw [hresolve] at hrun
      exact absurd hrun Builder.throw_ne_ok
  | some start =>
      simp only [hresolve, Builder.bind_eq_ok_iff] at hrun
      obtain ⟨_, _, hcursor, _, connected, hsilent, _, recorded, hrecord, _, placed, hplaced,
        hmove⟩ := hrun
      cases hcursor
      cases hrecord
      cases hplaced
      cases hmove
      obtain rfl := h.cursor_eq
      have hnew := ((h.addTransition hsilent).record (.recursionCalled label start)).newState agenda
      have hnext := ((h.addTransition hsilent).record (.recursionCalled label start)).next_eq
      refine ⟨start, rfl, ?_⟩
      obtain rfl := hnext
      exact hnew.setCursor _

theorem armInterrupt (h : base.Grows piece next cursor choices build) {role : Role}
    (hrun : Compiler.armInterrupt role build = .ok () build') :
    base.Grows (piece ++ .mark cursor) next cursor choices build' := by
  simp only [Compiler.armInterrupt, Builder.bind_eq_ok_iff] at hrun
  obtain ⟨_, _, hcursor, _, marked, hmark, _, _, hcheck, hmodify⟩ := hrun
  cases hcursor
  cases hmark
  obtain rfl := Compiler.requireNoInterrupt_eq_ok hcheck
  cases hmodify
  obtain rfl := h.cursor_eq
  apply record
  exact (h.markFinal _).congr rfl rfl

theorem disarmInterrupt (h : base.Grows piece next cursor choices build)
    (hrun : Compiler.disarmInterrupt build = .ok () build') :
    base.Grows piece next cursor choices build' := by
  cases hrun
  exact h.congr rfl rfl

end Build.Grows

namespace Compiler

variable {build opened closing final : Build} {piece : Piece} {next last : State}
  {choices : List OpenChoice}

theorem openRecursion_eq_ok {label : String} (h : openRecursion label build = .ok () opened) :
    opened.arena = build.arena ∧
      opened.scopes = build.scopes.enterRecursion label build.scopes.cursor := by
  simp only [openRecursion, Builder.bind_eq_ok_iff] at h
  obtain ⟨_, _, hcursor, _, _, hmodify, hrecord⟩ := h
  cases hcursor
  cases hmodify
  cases hrecord
  exact ⟨Build.arena_record _ _, Build.scopes_record _ _⟩

theorem grows_of_recursion {label : String} (hopen : openRecursion label build = .ok () opened)
    (h : opened.Grows piece next last choices closing)
    (hclose : closeRecursion label closing = .ok () final) :
    build.Grows piece next last build.scopes.current.choices final := by
  obtain ⟨-, hopened⟩ := openRecursion_eq_ok hopen
  have hkind : closing.scopes.current.kind = .recursion label := by
    rw [h.kind_eq, hopened]
    rfl
  have henclosing : closing.scopes.enclosing = build.scopes.current :: build.scopes.enclosing := by
    rw [h.enclosing_eq, hopened]
    rfl
  simp only [closeRecursion, Builder.bind_eq_ok_iff] at hclose
  obtain ⟨_, _, hget, hclose⟩ := hclose
  cases hget
  simp only [ScopeStack.exitRecursion_eq hkind henclosing, Builder.bind_eq_ok_iff] at hclose
  obtain ⟨_, closed, hmodify, hrecord⟩ := hclose
  cases hmodify
  cases hrecord
  apply Build.Grows.record
  exact
    { automaton_grows := by
        have hgrows := h.automaton_grows
        rw [hopened] at hgrows
        exact hgrows
      next_eq := h.next_eq
      cursor_eq := h.cursor_eq
      choices_eq := rfl
      suspended_eq := by
        have hsuspended := h.suspended_eq
        rw [hopened] at hsuspended
        exact hsuspended
      enclosing_eq := rfl
      kind_eq := rfl
      owner_eq := rfl
      resolves := by
        intro asked start hresolve
        exact ScopeStack.resolveRecursion_exitRecursion closing.scopes.current.recursions hresolve }

theorem enterParallelBranch_eq_ok {anchor : State}
    (h : enterParallelBranch anchor build = .ok () opened) :
    opened.arena.next = build.arena.next + 1 ∧
      opened.scopes = build.scopes.enterBranch anchor (.single build.arena.next) := by
  simp only [enterParallelBranch, Builder.bind_eq_ok_iff] at h
  obtain ⟨_, _, halloc, hmodify⟩ := h
  cases halloc
  cases hmodify
  exact ⟨rfl, rfl⟩

theorem grows_of_parallelBranch {anchor : State} {index : Nat}
    (henter : enterParallelBranch anchor build = .ok () opened)
    (h : opened.Grows piece next last choices closing)
    (hleave : leaveParallelBranch index anchor closing = .ok () final) :
    ∃ automaton : Automaton, automaton.Completed build.arena.next piece last next ∧
      build.Grows (.branch anchor automaton) (next + 1) build.scopes.cursor
        build.scopes.current.choices final := by
  obtain ⟨-, hopened⟩ := enterParallelBranch_eq_ok henter
  simp only [leaveParallelBranch, Builder.bind_eq_ok_iff] at hleave
  obtain ⟨_, _, hcursor, _, placed, hplaced, _, connected, hconnect, _, marked, hmark, _, _, hget,
    hleave⟩ := hleave
  cases hcursor
  cases hplaced
  cases hmark
  cases hget
  obtain rfl := h.next_eq
  obtain rfl := h.cursor_eq
  have hdone := ((h.newState []).addTransition hconnect).markFinal closing.arena.next
  have hkind : (connected.markFinal closing.arena.next).scopes.current.kind = .branch anchor := by
    rw [hdone.kind_eq, hopened]
    rfl
  have hsuspended : (connected.markFinal closing.arena.next).scopes.suspended =
      build.scopes.automaton :: build.scopes.suspended := by
    rw [hdone.suspended_eq, hopened]
    rfl
  have henclosing : (connected.markFinal closing.arena.next).scopes.enclosing =
      build.scopes.current :: build.scopes.enclosing := by
    rw [hdone.enclosing_eq, hopened]
    rfl
  have hgrows := hdone.automaton_grows
  rw [hopened] at hgrows
  simp only [ScopeStack.exitBranch_eq hkind hsuspended henclosing] at hleave
  cases hleave
  refine ⟨(connected.markFinal closing.arena.next).scopes.automaton, ?_, ?_⟩
  · exact
      { initial_eq := hgrows.initial_eq
        transitions_eq := by
          rw [hgrows.transitions_eq]
          simp [Piece.place, Piece.edge, Piece.mark, ScopeStack.enterBranch, ScopeStack.push,
            Automaton.single, Transition.completion]
        mem_finals_iff := by
          intro state
          rw [hgrows.mem_finals_iff]
          simp [Piece.place, Piece.edge, Piece.mark, ScopeStack.enterBranch, ScopeStack.push,
            Automaton.single]
        nested_eq := by
          rw [hgrows.nested_eq]
          simp [Piece.place, Piece.edge, Piece.mark, ScopeStack.enterBranch, ScopeStack.push,
            Automaton.single] }
  · apply Build.Grows.record
    exact .of_current (.addBranch _ anchor _) hdone.next_eq rfl rfl rfl

end Compiler

end Conversation

import Conversation.Proofs.ScopeHistory

/-!
The discipline of the scopes. Whatever is done to a stack of scopes, its frames and its automata
stay in step, and nothing below a frame changes before that frame is closed. So a branch that is
closed leaves behind the stack that it was opened on, and the automaton that was built in it.
-/

namespace Conversation

namespace FrameKind

def anchor? : FrameKind → Option State
  | .branch anchor => some anchor
  | _ => none

def isBranch (kind : FrameKind) : Bool :=
  kind.anchor?.isSome

end FrameKind

/-- What is done to a stack of scopes: an operation on the scopes, or any change of the automaton
under construction. -/
inductive ScopeStep
  | operate (operation : ScopeOp)
  | rebuild (change : Automaton → Automaton)

namespace ScopeStep

/-- The frames that a step leaves open within a scope, innermost first. An exit that does not fit
the innermost of them closes none. -/
def affect : ScopeStep → List FrameKind → List FrameKind
  | .operate (.enterBranch anchor _), inner => .branch anchor :: inner
  | .operate (.enterRecursion label _), inner => .recursion label :: inner
  | .operate .exitBranch, .branch _ :: inner => inner
  | .operate .exitRecursion, .recursion _ :: inner => inner
  | _, inner => inner

/-- What a step makes of the automaton of a scope. A change is made to the automaton of the
innermost branch, so to this one only if no branch is open within the scope. -/
def grow (inner : List FrameKind) : ScopeStep → Automaton → Automaton
  | .operate _, automaton => automaton
  | .rebuild change, automaton =>
      if inner.any FrameKind.isBranch then automaton else change automaton

end ScopeStep

/-- The frames left open within a scope by what has been done since the scope was opened. -/
def openWithin (steps : List ScopeStep) : List FrameKind :=
  steps.foldl (fun inner step => step.affect inner) []

/-- The automaton of a scope after some steps, the first of which finds the frames `inner` open
within the scope. -/
def grown : (inner : List FrameKind) → List ScopeStep → Automaton → Automaton
  | _, [], automaton => automaton
  | inner, step :: rest, automaton => grown (step.affect inner) rest (step.grow inner automaton)

namespace ScopeStack

def take (stack : ScopeStack) : ScopeStep → ScopeStack
  | .operate operation => stack.apply operation
  | .rebuild change => stack.modifyAutomaton change

def takeAll (stack : ScopeStack) (steps : List ScopeStep) : ScopeStack :=
  steps.foldl take stack

/-- Closes the current branch in two moves: the enclosing automaton is resumed first, and the
enclosing frame after it. A move that finds nothing to resume ends the closing where it is. -/
def exitBranchByMoves (stack : ScopeStack) : Option Automaton × ScopeStack :=
  match stack.current.kind with
  | .branch _ =>
      match stack.suspended with
      | [] => (none, stack)
      | automaton :: suspended =>
          match stack.enclosing with
          | [] => (none, { stack with suspended })
          | current :: enclosing =>
              (some stack.automaton, { automaton, suspended, current, enclosing })
  | _ => (none, stack)

end ScopeStack

/-- A scope of the given kind with its own automaton is open above some frames and automata, and the
frames `inner` are open within it. Each branch within it has one automaton, and each frame knows how
many automata are below its own. -/
inductive Within (kind : FrameKind) (frames : List Frame) (automata : List Automaton)
    (own : Automaton) : (inner : List FrameKind) → List Frame → List Automaton → Prop
  | scope {frame : Frame} :
      frame.kind = kind → frame.owner = automata.length →
      Within kind frames automata own [] (frame :: frames) (own :: automata)
  | recursion {inner : List FrameKind} {above : List Frame} {built : List Automaton} {frame : Frame}
      {label : String} :
      frame.kind = .recursion label → frame.owner + 1 = built.length →
      Within kind frames automata own inner above built →
      Within kind frames automata own (.recursion label :: inner) (frame :: above) built
  | branch {inner : List FrameKind} {above : List Frame} {built : List Automaton} {frame : Frame}
      {automaton : Automaton} {anchor : State} :
      frame.kind = .branch anchor → frame.owner = built.length →
      Within kind frames automata own inner above built →
      Within kind frames automata own (.branch anchor :: inner) (frame :: above)
        (automaton :: built)

namespace Within

variable {kind : FrameKind} {frames above : List Frame} {automata built : List Automaton}
  {own : Automaton} {inner : List FrameKind}

theorem owner_add_one {frame : Frame}
    (h : Within kind frames automata own inner (frame :: above) built) :
    frame.owner + 1 = built.length := by
  cases h with
  | scope _ howner => rw [howner, List.length_cons]
  | recursion _ howner _ => exact howner
  | branch _ howner _ => rw [howner, List.length_cons]

theorem exists_cons (h : Within kind frames automata own inner above built) :
    (∃ frame rest, above = frame :: rest) ∧ ∃ automaton rest, built = automaton :: rest := by
  induction h with
  | scope => exact ⟨⟨_, _, rfl⟩, _, _, rfl⟩
  | recursion _ _ _ ih => exact ⟨⟨_, _, rfl⟩, ih.2⟩
  | branch => exact ⟨⟨_, _, rfl⟩, _, _, rfl⟩

theorem map_kind (h : Within kind frames automata own inner above built) :
    above.map Frame.kind = inner ++ kind :: frames.map Frame.kind := by
  induction h with
  | scope hkind _ => rw [List.map_cons, hkind, List.nil_append]
  | recursion hkind _ _ ih => rw [List.map_cons, hkind, ih, List.cons_append]
  | branch hkind _ _ ih => rw [List.map_cons, hkind, ih, List.cons_append]

theorem length_above (h : Within kind frames automata own inner above built) :
    above.length = inner.length + frames.length + 1 := by
  have hkinds := congrArg List.length h.map_kind
  simp only [List.length_map, List.length_append, List.length_cons] at hkinds
  omega

theorem length_built (h : Within kind frames automata own inner above built) :
    built.length = inner.countP FrameKind.isBranch + automata.length + 1 := by
  induction h with
  | scope => simp
  | recursion _ _ _ ih => rw [ih, List.countP_cons_of_neg (by simp [FrameKind.isBranch,
      FrameKind.anchor?])]
  | branch _ _ _ ih =>
      rw [List.length_cons, ih, List.countP_cons_of_pos (by simp [FrameKind.isBranch,
        FrameKind.anchor?])]
      omega

theorem getLast?_built (h : Within kind frames [] own inner above built) :
    built.getLast? = some own := by
  induction h with
  | scope => rfl
  | recursion _ _ _ ih => exact ih
  | branch _ _ _ ih => rw [List.getLast?_cons, ih, Option.getD_some]

theorem congr_head {frame other : Frame}
    (h : Within kind frames automata own inner (frame :: above) built)
    (hkind : other.kind = frame.kind) (howner : other.owner = frame.owner) :
    Within kind frames automata own inner (other :: above) built := by
  cases h with
  | scope h₁ h₂ => exact .scope (hkind.trans h₁) (howner.trans h₂)
  | recursion h₁ h₂ h₃ => exact .recursion (hkind.trans h₁) (howner ▸ h₂) h₃
  | branch h₁ h₂ h₃ => exact .branch (hkind.trans h₁) (howner.trans h₂) h₃

/-- A change of the automaton under construction is one of the scope's own automaton exactly if no
branch is open within the scope. -/
theorem rebuild {automaton : Automaton}
    (h : Within kind frames automata own inner above (automaton :: built))
    (change : Automaton → Automaton) :
    Within kind frames automata ((ScopeStep.rebuild change).grow inner own) inner above
      (change automaton :: built) := by
  generalize hwhole : automaton :: built = whole at h
  induction h with
  | scope hkind howner =>
      cases hwhole
      exact .scope hkind howner
  | @recursion inner above built frame label hkind howner _ ih =>
      subst hwhole
      have hgrow : (ScopeStep.rebuild change).grow (.recursion label :: inner) own =
          (ScopeStep.rebuild change).grow inner own := rfl
      rw [hgrow]
      exact .recursion hkind howner (ih rfl)
  | branch hkind howner hwithin _ =>
      cases hwhole
      exact .branch hkind howner hwithin

end Within

namespace ScopeStack

variable {kind : FrameKind} {frames : List Frame} {automata : List Automaton} {own : Automaton}
  {inner : List FrameKind} {stack : ScopeStack}

/-- The stack has an open scope of the given kind, with the frames `inner` open within. -/
def HasWithin (kind : FrameKind) (frames : List Frame) (automata : List Automaton)
    (own : Automaton) (inner : List FrameKind) (stack : ScopeStack) : Prop :=
  Within kind frames automata own inner stack.frames (stack.automaton :: stack.suspended)

theorem hasWithin_ofRoot (root : Automaton) : (ofRoot root).HasWithin .root [] [] root [] :=
  .scope rfl rfl

theorem depth_of_exitBranch {closed : Automaton × ScopeStack} (h : stack.exitBranch = some closed) :
    stack.depth = closed.2.depth + 1 := by
  unfold exitBranch at h
  split at h
  · next henclosing =>
      cases h
      rw [depth, henclosing, List.length_cons, depth]
  · cases h

theorem depth_of_exitRecursion {closed : String × ScopeStack}
    (h : stack.exitRecursion = some closed) : stack.depth = closed.2.depth + 1 := by
  unfold exitRecursion at h
  split at h
  · next henclosing =>
      cases h
      rw [depth, henclosing, List.length_cons, depth]
  · cases h

theorem hasWithin_exitBranch (h : stack.HasWithin kind frames automata own inner)
    (hopen : frames.length < (stack.apply .exitBranch).depth) :
    (stack.apply .exitBranch).HasWithin kind frames automata own
      ((ScopeStep.operate .exitBranch).affect inner) := by
  obtain ⟨automaton, suspended, current, enclosing⟩ := stack
  change Within kind frames automata own inner (current :: enclosing) (automaton :: suspended) at h
  cases h with
  | scope hkind howner =>
      cases hexit : exitBranch ⟨own, automata, current, frames⟩ with
      | none =>
          rw [apply, hexit, Option.map_none, Option.getD_none]
          exact .scope hkind howner
      | some closed =>
          have hdepth : frames.length + 1 = closed.2.depth + 1 := depth_of_exitBranch hexit
          rw [apply, hexit, Option.map_some, Option.getD_some] at hopen
          omega
  | recursion hkind howner hwithin =>
      rw [apply_exitBranch_of_ne (by simp [hkind])]
      exact .recursion hkind howner hwithin
  | branch hkind howner hwithin =>
      obtain ⟨⟨frame, rest, rfl⟩, automaton', rest', rfl⟩ := hwithin.exists_cons
      rw [apply, exitBranch, hkind]
      exact hwithin

theorem hasWithin_exitRecursion (h : stack.HasWithin kind frames automata own inner)
    (hopen : frames.length < (stack.apply .exitRecursion).depth) :
    (stack.apply .exitRecursion).HasWithin kind frames automata own
      ((ScopeStep.operate .exitRecursion).affect inner) := by
  obtain ⟨automaton, suspended, current, enclosing⟩ := stack
  change Within kind frames automata own inner (current :: enclosing) (automaton :: suspended) at h
  cases h with
  | scope hkind howner =>
      cases hexit : exitRecursion ⟨own, automata, current, frames⟩ with
      | none =>
          rw [apply, hexit, Option.map_none, Option.getD_none]
          exact .scope hkind howner
      | some closed =>
          -- The scope itself would be closed.
          have hdepth : frames.length + 1 = closed.2.depth + 1 := depth_of_exitRecursion hexit
          rw [apply, hexit, Option.map_some, Option.getD_some] at hopen
          omega
  | branch hkind howner hwithin =>
      rw [apply_exitRecursion_of_ne (by simp [hkind])]
      exact .branch hkind howner hwithin
  | recursion hkind howner hwithin =>
      obtain ⟨⟨frame, rest, rfl⟩, -⟩ := hwithin.exists_cons
      rw [apply, exitRecursion, hkind]
      exact hwithin.congr_head rfl rfl

/-- Every step affects the frames within an open scope as it should, and changes the automaton of
the scope only where it should, as long as it does not close the scope. -/
theorem hasWithin_take (h : stack.HasWithin kind frames automata own inner) (step : ScopeStep)
    (hopen : frames.length < (stack.take step).depth) :
    (stack.take step).HasWithin kind frames automata (step.grow inner own) (step.affect inner) := by
  cases step with
  | rebuild change => exact h.rebuild change
  | operate operation =>
      cases operation with
      | setCursor state => exact h.congr_head rfl rfl
      | pushChoice start => exact h.congr_head rfl rfl
      | popChoice => exact h.congr_head rfl rfl
      | setChoiceExit exit =>
          rw [take, apply, setChoiceExit]
          split
          · exact h
          · exact h.congr_head rfl rfl
      | enterBranch anchor branch => exact .branch rfl rfl h
      | enterRecursion label start => exact .recursion rfl h.owner_add_one h
      | exitBranch => exact hasWithin_exitBranch h hopen
      | exitRecursion => exact hasWithin_exitRecursion h hopen

theorem hasWithin_takeAll (h : stack.HasWithin kind frames automata own inner)
    (steps : List ScopeStep)
    (hopen : ∀ taken, taken <+: steps → frames.length < (stack.takeAll taken).depth) :
    (stack.takeAll steps).HasWithin kind frames automata (grown inner steps own)
      (steps.foldl (fun inner step => step.affect inner) inner) := by
  induction steps generalizing stack own inner with
  | nil => exact h
  | cons step rest ih =>
      have hstep : frames.length < (stack.take step).depth := hopen [step] (by simp)
      refine ih (hasWithin_take h step hstep) ?_
      intro taken htaken
      exact hopen (step :: taken) (List.cons_prefix_cons.mpr ⟨rfl, htaken⟩)

theorem hasWithin_takeAll_ofRoot (root : Automaton) (steps : List ScopeStep) :
    ((ofRoot root).takeAll steps).HasWithin .root [] [] (grown [] steps root) (openWithin steps) :=
  hasWithin_takeAll (hasWithin_ofRoot root) steps fun _ _ => Nat.succ_pos _

/-- The exit that closes a branch gives the automaton that was built in it, and the stack that the
branch was opened on. It is the first exit after which the stack is as low as it was then. -/
theorem exitBranch_takeAll_enterBranch (stack : ScopeStack) (anchor : State) (branch : Automaton)
    (steps : List ScopeStep)
    (hopen : ∀ taken, taken <+: steps →
      stack.depth < ((stack.enterBranch anchor branch).takeAll taken).depth)
    (hlast : ((stack.enterBranch anchor branch).takeAll steps).depth = stack.depth + 1) :
    ((stack.enterBranch anchor branch).takeAll steps).exitBranch =
      some (grown [] steps branch, stack) := by
  have hentered : (stack.enterBranch anchor branch).HasWithin (.branch anchor) stack.frames
      (stack.automaton :: stack.suspended) branch [] := .scope rfl rfl
  have hwithin := hasWithin_takeAll hentered steps hopen
  have hinner : openWithin steps = [] := by
    have hlength : ((stack.enterBranch anchor branch).takeAll steps).depth =
        (openWithin steps).length + stack.depth + 1 := hwithin.length_above
    exact List.length_eq_zero_iff.mp (by omega)
  rw [openWithin] at hinner
  rw [hinner] at hwithin
  generalize (stack.enterBranch anchor branch).takeAll steps = ended at hwithin
  obtain ⟨automaton, suspended, current, enclosing⟩ := ended
  rw [HasWithin] at hwithin
  simp only [frames] at hwithin
  cases hwithin with
  | scope hkind _ => rw [exitBranch, hkind]

structure Disciplined (root : Automaton) (steps : List ScopeStep) (stack : ScopeStack) : Prop where
  kinds_eq : stack.frames.map Frame.kind = openWithin steps ++ [.root]
  owner_eq_countP : stack.owner = (openWithin steps).countP FrameKind.isBranch
  owner_eq_length : stack.owner = stack.suspended.length
  currentAnchor_eq : stack.currentAnchor = (openWithin steps).findSome? FrameKind.anchor?
  exitBranch_eq_none_iff : stack.exitBranch = none ↔ ∀ anchor, stack.current.kind ≠ .branch anchor
  exitRecursion_eq_none_iff :
    stack.exitRecursion = none ↔ ∀ label, stack.current.kind ≠ .recursion label
  apply_exitBranch_eq_self : stack.exitBranch = none → stack.apply .exitBranch = stack
  apply_exitRecursion_eq_self : stack.exitRecursion = none → stack.apply .exitRecursion = stack
  exitBranchByMoves_eq : stack.exitBranchByMoves =
    stack.exitBranch.elim (none, stack) fun closed => (some closed.1, closed.2)
  root_eq : stack.root = grown [] steps root

section Root

variable {root : Automaton} {steps : List ScopeStep}

theorem HasWithin.of_branch (h : stack.HasWithin .root [] [] own inner) {anchor : State}
    (hkind : stack.current.kind = .branch anchor) :
    ∃ automaton suspended current enclosing,
      stack.suspended = automaton :: suspended ∧ stack.enclosing = current :: enclosing := by
  obtain ⟨automaton, suspended, current, enclosing⟩ := stack
  simp only [HasWithin, frames] at h hkind
  cases h with
  | scope hroot _ => exact absurd (hkind.symm.trans hroot) (by simp)
  | recursion hlabel _ _ => exact absurd (hkind.symm.trans hlabel) (by simp)
  | branch _ _ hwithin =>
      obtain ⟨⟨frame, rest, rfl⟩, automaton', rest', rfl⟩ := hwithin.exists_cons
      exact ⟨automaton', rest', frame, rest, rfl, rfl⟩

theorem HasWithin.of_recursion (h : stack.HasWithin .root [] [] own inner) {label : String}
    (hkind : stack.current.kind = .recursion label) :
    ∃ current enclosing, stack.enclosing = current :: enclosing := by
  obtain ⟨automaton, suspended, current, enclosing⟩ := stack
  simp only [HasWithin, frames] at h hkind
  cases h with
  | scope hroot _ => exact absurd (hkind.symm.trans hroot) (by simp)
  | recursion _ _ hwithin => exact hwithin.exists_cons.1
  | branch hanchor _ _ => exact absurd (hkind.symm.trans hanchor) (by simp)

theorem HasWithin.exitBranch_eq_none_iff (h : stack.HasWithin .root [] [] own inner) :
    stack.exitBranch = none ↔ ∀ anchor, stack.current.kind ≠ .branch anchor := by
  cases hkind : stack.current.kind with
  | root => simp [exitBranch, hkind]
  | recursion label => simp [exitBranch, hkind]
  | branch anchor =>
      obtain ⟨_, _, _, _, hsuspended, henclosing⟩ := h.of_branch hkind
      simp [exitBranch, hkind, hsuspended, henclosing]

theorem HasWithin.exitRecursion_eq_none_iff (h : stack.HasWithin .root [] [] own inner) :
    stack.exitRecursion = none ↔ ∀ label, stack.current.kind ≠ .recursion label := by
  cases hkind : stack.current.kind with
  | root => simp [exitRecursion, hkind]
  | branch anchor => simp [exitRecursion, hkind]
  | recursion label =>
      obtain ⟨_, _, henclosing⟩ := h.of_recursion hkind
      simp [exitRecursion, hkind, henclosing]

/-- The second move finds a frame wherever the first has found an automaton. -/
theorem HasWithin.exitBranchByMoves_eq (h : stack.HasWithin .root [] [] own inner) :
    stack.exitBranchByMoves =
      stack.exitBranch.elim (none, stack) fun closed => (some closed.1, closed.2) := by
  cases hkind : stack.current.kind with
  | root => simp [exitBranchByMoves, exitBranch, hkind]
  | recursion label => simp [exitBranchByMoves, exitBranch, hkind]
  | branch anchor =>
      obtain ⟨_, _, _, _, hsuspended, henclosing⟩ := h.of_branch hkind
      simp [exitBranchByMoves, exitBranch, hkind, hsuspended, henclosing]

theorem HasWithin.currentAnchor_eq (h : stack.HasWithin .root [] [] own inner) :
    stack.currentAnchor = inner.findSome? FrameKind.anchor? := by
  have hkinds : stack.frames.map Frame.kind = inner ++ [.root] := h.map_kind
  have hanchor : Frame.anchor? = FrameKind.anchor? ∘ Frame.kind := rfl
  rw [currentAnchor, hanchor, ← List.findSome?_map, hkinds, List.findSome?_append]
  simp [FrameKind.anchor?]

theorem HasWithin.disciplined
    (h : stack.HasWithin .root [] [] (grown [] steps root) (openWithin steps)) :
    stack.Disciplined root steps where
  kinds_eq := h.map_kind
  owner_eq_countP := by
    have howner : stack.owner + 1 = (stack.automaton :: stack.suspended).length := h.owner_add_one
    have hbuilt := h.length_built
    rw [← howner, List.length_nil] at hbuilt
    omega
  owner_eq_length := Nat.succ_injective h.owner_add_one
  currentAnchor_eq := h.currentAnchor_eq
  exitBranch_eq_none_iff := h.exitBranch_eq_none_iff
  exitRecursion_eq_none_iff := h.exitRecursion_eq_none_iff
  apply_exitBranch_eq_self := fun hnone =>
    apply_exitBranch_of_ne (h.exitBranch_eq_none_iff.mp hnone)
  apply_exitRecursion_eq_self := fun hnone =>
    apply_exitRecursion_of_ne (h.exitRecursion_eq_none_iff.mp hnone)
  exitBranchByMoves_eq := h.exitBranchByMoves_eq
  root_eq := by
    have hlast := h.getLast?_built
    rw [List.getLast?_cons, Option.some.injEq] at hlast
    exact hlast

end Root

/-- Whatever is done to a stack, matched or not, it stays in step with its history; and a branch
that is opened on it and closed again, after whatever was done in between, gives what was built in
it and restores the stack. -/
theorem disciplined_takeAll (root : Automaton) (steps : List ScopeStep) :
    let stack := (ofRoot root).takeAll steps
    stack.Disciplined root steps ∧
      ∀ anchor branch inner,
        (∀ taken, taken <+: inner →
          stack.depth < ((stack.enterBranch anchor branch).takeAll taken).depth) →
        ((stack.enterBranch anchor branch).takeAll inner).depth = stack.depth + 1 →
        ((stack.enterBranch anchor branch).takeAll inner).exitBranch =
          some (grown [] inner branch, stack) :=
  ⟨(hasWithin_takeAll_ofRoot root steps).disciplined, exitBranch_takeAll_enterBranch _⟩

/-- A branch with a recursion and a branch inside, and three exits on the way that fit no frame. -/
theorem disciplined_detour :
    let stack := (ofRoot (.single 0)).takeAll
      [.operate (.enterRecursion "x" 0), .operate .exitBranch, .operate (.pushChoice 0)]
    let inner : List ScopeStep :=
      [.rebuild fun automaton => automaton.addState 2, .operate (.enterRecursion "y" 1),
        .operate (.enterBranch 2 (.single 3)), .rebuild fun automaton => automaton.addState 4,
        .operate .exitRecursion, .operate .exitBranch, .operate .exitBranch,
        .operate .exitRecursion, .operate .exitRecursion]
    (∀ taken, taken <+: inner →
        stack.depth < ((stack.enterBranch 0 (.single 1)).takeAll taken).depth) ∧
      ((stack.enterBranch 0 (.single 1)).takeAll inner).depth = stack.depth + 1 ∧
      ((stack.enterBranch 0 (.single 1)).takeAll inner).exitBranch =
        some ((Automaton.single 1).addState 2, stack) := by
  intro stack inner
  have hopen : ∀ taken ∈ inner.inits,
      stack.depth < ((stack.enterBranch 0 (.single 1)).takeAll taken).depth := by decide
  have hstays : ∀ taken, taken <+: inner →
      stack.depth < ((stack.enterBranch 0 (.single 1)).takeAll taken).depth :=
    fun taken htaken => hopen taken ((List.mem_inits taken inner).mpr htaken)
  exact ⟨hstays, rfl, (disciplined_takeAll _ _).2 0 (.single 1) inner hstays rfl⟩

end ScopeStack

end Conversation

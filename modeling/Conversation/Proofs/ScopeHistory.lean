import Mathlib.Tactic
import Conversation.Scope

namespace Conversation

inductive ScopeOp
  | setCursor (state : State)
  | enterBranch (anchor : State) (branch : Automaton)
  | exitBranch
  | enterRecursion (label : String) (start : State)
  | exitRecursion
  | pushChoice (start : State)
  | setChoiceExit (exit : State)
  | popChoice

namespace ScopeStack

/-- Applies an operation. An exit that does not fit the current frame changes nothing. -/
def apply (stack : ScopeStack) : ScopeOp → ScopeStack
  | .setCursor state => stack.setCursor state
  | .enterBranch anchor branch => stack.enterBranch anchor branch
  | .exitBranch => (stack.exitBranch.map Prod.snd).getD stack
  | .enterRecursion label start => stack.enterRecursion label start
  | .exitRecursion => (stack.exitRecursion.map Prod.snd).getD stack
  | .pushChoice start => stack.pushChoice start
  | .setChoiceExit exit => stack.setChoiceExit exit
  | .popChoice => stack.popChoice

def applyAll (stack : ScopeStack) (operations : List ScopeOp) : ScopeStack :=
  operations.foldl apply stack

end ScopeStack

inductive ScopeKind
  | root
  | branch
  | recursion (label : String) (start : State)
  deriving DecidableEq

/-- An open scope, with the labels whose recursions were opened and closed again inside it. -/
structure OpenScope where
  kind : ScopeKind
  closed : List String
  deriving DecidableEq

namespace OpenScope

def defines (scope : OpenScope) (label : String) : Option State :=
  match scope.kind with
  | .recursion own start => if own = label then some start else none
  | _ => none

/-- The scope with the labels of a recursion that was closed inside it. -/
def absorb (scope : OpenScope) (label : String) (closed : List String) : OpenScope :=
  { scope with closed := label :: closed ++ scope.closed }

end OpenScope

/-- The scopes left open by an operation, innermost first. -/
def ScopeOp.affect : ScopeOp → List OpenScope → List OpenScope
  | .enterBranch _ _, scopes => ⟨.branch, []⟩ :: scopes
  | .enterRecursion label start, scopes => ⟨.recursion label start, []⟩ :: scopes
  | .exitBranch, ⟨.branch, _⟩ :: scopes => scopes
  | .exitRecursion, ⟨.recursion label _, closed⟩ :: scope :: scopes =>
      scope.absorb label closed :: scopes
  | _, scopes => scopes

/-- The scopes left open by some operations on a fresh stack, innermost first. -/
def openScopes (operations : List ScopeOp) : List OpenScope :=
  operations.foldl (fun scopes operation => operation.affect scopes) [⟨.root, []⟩]

/-- The start of the innermost open recursion of a label, looked for up to the innermost open
branch. -/
def innermost (label : String) : List OpenScope → Option State
  | [] => none
  | scope :: scopes =>
      match scope.kind with
      | .recursion own start => if own = label then some start else innermost label scopes
      | _ => none

/-- Inside the innermost open recursion of a label there is an open recursion of another label
that has seen a recursion of the label closed. -/
def Masked (label : String) : List OpenScope → Prop
  | [] => False
  | scope :: scopes =>
      match scope.kind with
      | .recursion own _ =>
          own ≠ label ∧
            (label ∈ scope.closed ∧ (innermost label scopes).isSome ∨ Masked label scopes)
      | _ => False

theorem exists_innermost_of_masked {label : String} {scopes : List OpenScope}
    (h : Masked label scopes) : ∃ start, innermost label scopes = some start := by
  induction scopes with
  | nil => exact h.elim
  | cons scope scopes ih =>
      obtain ⟨kind, closed⟩ := scope
      cases kind with
      | root => exact h.elim
      | branch => exact h.elim
      | recursion own first =>
          simp only [Masked] at h
          simp only [innermost, h.1, if_false]
          rcases h.2 with ⟨-, hsome⟩ | hmasked
          · exact Option.isSome_iff_exists.mp hsome
          · exact ih hmasked

/-- What a scope has to say about a label: the start of its own recursion, or that a recursion of
the label was closed inside it, or nothing. -/
def OpenScope.verdict (scope : OpenScope) (label : String) : Option (Option State) :=
  match scope.defines label with
  | some start => some (some start)
  | none => if label ∈ scope.closed then some none else none

/-- The first verdict on a label, from the innermost scope up to the innermost open branch. -/
def verdict (label : String) : List OpenScope → Option (Option State)
  | [] => none
  | scope :: scopes =>
      match scope.kind with
      | .recursion .. => (scope.verdict label).or (verdict label scopes)
      | _ => scope.verdict label

theorem verdict_eq_some_some_iff (label : String) (scopes : List OpenScope) (start : State) :
    verdict label scopes = some (some start) ↔
      innermost label scopes = some start ∧ ¬ Masked label scopes := by
  induction scopes with
  | nil => simp [verdict, innermost]
  | cons scope scopes ih =>
      obtain ⟨kind, closed⟩ := scope
      cases kind with
      | root => by_cases h : label ∈ closed <;>
          simp [verdict, innermost, OpenScope.verdict, OpenScope.defines, h]
      | branch => by_cases h : label ∈ closed <;>
          simp [verdict, innermost, OpenScope.verdict, OpenScope.defines, h]
      | recursion own first =>
          by_cases hown : own = label
          · simp [verdict, innermost, Masked, OpenScope.verdict, OpenScope.defines, hown]
          · by_cases h : label ∈ closed
            · simp only [verdict, innermost, Masked, OpenScope.verdict, OpenScope.defines, hown, h,
                if_false, if_true, Option.some_or, Option.some.injEq, reduceCtorEq, ne_eq,
                not_false_eq_true, true_and, false_iff, not_and, Classical.not_not]
              intro hstart
              simp [hstart]
            · simp [verdict, innermost, Masked, OpenScope.verdict, OpenScope.defines, hown, h, ih]

def RecursionEntry.verdict (entry : RecursionEntry) : Option State :=
  if entry.active then some entry.start else none

/-- The frame knows exactly the labels that the scope has a verdict on. -/
def Frame.Knows (frame : Frame) (scope : OpenScope) : Prop :=
  ∀ label, (frame.find? label).map RecursionEntry.verdict = scope.verdict label

/-- The frames are those of the open scopes, and build automata at the nesting depth `level` and
below. -/
inductive Tracks : (level : Nat) → List Frame → List OpenScope → Prop
  | root {frame : Frame} {closed : List String} :
      frame.kind = .root → frame.owner = 0 → frame.Knows ⟨.root, closed⟩ →
      Tracks 0 [frame] [⟨.root, closed⟩]
  | branch {level : Nat} {frames : List Frame} {scopes : List OpenScope} {frame : Frame}
      {anchor : State} {closed : List String} :
      frame.kind = .branch anchor → frame.owner = level + 1 → frame.Knows ⟨.branch, closed⟩ →
      Tracks level frames scopes →
      Tracks (level + 1) (frame :: frames) (⟨.branch, closed⟩ :: scopes)
  | recursion {level : Nat} {frames : List Frame} {scopes : List OpenScope} {frame : Frame}
      {label : String} {start : State} {closed : List String} :
      frame.kind = .recursion label → frame.owner = level →
      frame.Knows ⟨.recursion label start, closed⟩ →
      Tracks level frames scopes →
      Tracks level (frame :: frames) (⟨.recursion label start, closed⟩ :: scopes)

namespace Tracks

theorem owner_eq {level : Nat} {frame : Frame} {frames : List Frame} {scopes : List OpenScope}
    (h : Tracks level (frame :: frames) scopes) : frame.owner = level := by
  cases h with
  | root _ howner _ => exact howner
  | branch _ howner _ _ => exact howner
  | recursion _ howner _ _ => exact howner

theorem exists_cons {level : Nat} {frames : List Frame} {scopes : List OpenScope}
    (h : Tracks level frames scopes) : ∃ frame rest, frames = frame :: rest := by
  cases h with
  | root => exact ⟨_, _, rfl⟩
  | branch => exact ⟨_, _, rfl⟩
  | recursion => exact ⟨_, _, rfl⟩

theorem congr_head {level : Nat} {frame other : Frame} {frames : List Frame}
    {scopes : List OpenScope} (h : Tracks level (frame :: frames) scopes)
    (hkind : other.kind = frame.kind) (howner : other.owner = frame.owner)
    (hlabels : other.recursions = frame.recursions) :
    Tracks level (other :: frames) scopes := by
  have hfind : ∀ label, other.find? label = frame.find? label := by
    intro label
    simp only [Frame.find?, hlabels]
  cases h with
  | root h₁ h₂ h₃ =>
      exact .root (hkind.trans h₁) (howner.trans h₂) fun label => by rw [hfind, h₃ label]
  | branch h₁ h₂ h₃ h₄ =>
      exact .branch (hkind.trans h₁) (howner.trans h₂) (fun label => by rw [hfind, h₃ label]) h₄
  | recursion h₁ h₂ h₃ h₄ =>
      exact .recursion (hkind.trans h₁) (howner.trans h₂) (fun label => by rw [hfind, h₃ label])
        h₄

end Tracks

theorem lookup_retire (label : String) (known closed : List (String × RecursionEntry)) :
    (retire known closed).lookup label =
      (known.lookup label).or
        ((closed.lookup label).map fun entry => ⟨entry.start, false⟩) := by
  induction closed generalizing known with
  | nil => simp [retire]
  | cons pair rest ih =>
      obtain ⟨own, entry⟩ := pair
      by_cases hlabel : label = own
      · subst hlabel
        cases hknown : known.lookup label with
        | some old => simp [retire, hknown, ih]
        | none => simp [retire, hknown, ih, List.lookup_append]
      · have hbeq : (label == own) = false := by simpa using hlabel
        cases hknown : known.lookup own with
        | some old => simp [retire, hknown, ih, List.lookup_cons, hbeq]
        | none => simp [retire, hknown, ih, List.lookup_append, List.lookup_cons, hbeq]

/-- A scope that absorbs a closed recursion learns of its labels, but never forgets its own
recursion. -/
theorem OpenScope.verdict_absorb (scope : OpenScope) (label : String) (start : State)
    (closed : List String) (asked : String) :
    (scope.absorb label closed).verdict asked =
      (scope.verdict asked).or
        (((⟨.recursion label start, closed⟩ : OpenScope).verdict asked).map fun _ => none) := by
  have hdefines : (scope.absorb label closed).defines asked = scope.defines asked := rfl
  simp only [OpenScope.verdict, hdefines]
  cases scope.defines asked with
  | some first => rfl
  | none =>
      by_cases hlabel : label = asked <;> by_cases hclosed : asked ∈ closed <;>
        by_cases hscope : asked ∈ scope.closed <;>
        simp [OpenScope.absorb, OpenScope.defines, hlabel, eq_comm, hclosed, hscope]

/-- When a recursion is closed, the enclosing frame comes to know its label and all labels that
were closed inside it. -/
theorem Frame.Knows.absorb {frame closing : Frame} {scope : OpenScope} {label : String}
    {start : State} {closed : List String} (h : frame.Knows scope)
    (hclosing : closing.Knows ⟨.recursion label start, closed⟩) (cursor : State) :
    Frame.Knows
      { frame with
        cursor
        recursions := retire frame.recursions closing.recursions }
      (scope.absorb label closed) := by
  intro asked
  rw [OpenScope.verdict_absorb scope label start closed asked, ← h asked, ← hclosing asked]
  simp only [Frame.find?, lookup_retire, Option.map_or, Option.map_map]
  rfl

theorem Frame.Knows.entered (stack : ScopeStack) (label : String) (start : State) :
    (stack.enterRecursion label start).current.Knows ⟨.recursion label start, []⟩ := by
  intro asked
  by_cases hasked : asked = label
  · simp [ScopeStack.enterRecursion, ScopeStack.push, Frame.find?, OpenScope.verdict,
      OpenScope.defines, RecursionEntry.verdict, hasked]
  · have hbeq : (asked == label) = false := by simpa using hasked
    simp [ScopeStack.enterRecursion, ScopeStack.push, Frame.find?, OpenScope.verdict,
      OpenScope.defines, List.lookup_cons, hbeq, Ne.symm hasked]

namespace Tracks

/-- What the frames of the current automaton know about a label is the verdict of the scopes. -/
theorem findSome?_find? {level : Nat} {frames : List Frame} {scopes : List OpenScope}
    (h : Tracks level frames scopes) (label : String) :
    ((frames.takeWhile fun frame => frame.owner = level).findSome? (Frame.find? label)).map
      RecursionEntry.verdict = verdict label scopes := by
  induction h with
  | @root frame closed hkind howner hknows =>
      have hlabel := hknows label
      simp only [verdict, List.takeWhile_cons, howner, decide_true, if_true, List.takeWhile_nil,
        List.findSome?_singleton, hlabel]
  | @branch level frames scopes frame anchor closed hkind howner hknows htail ih =>
      have hlabel := hknows label
      have houter : (frames.takeWhile fun frame => frame.owner = level + 1) = [] := by
        cases frames with
        | nil => rfl
        | cons outer rest => simp [htail.owner_eq]
      simp only [verdict, List.takeWhile_cons, howner, decide_true, if_true, houter,
        List.findSome?_singleton, hlabel]
  | @recursion level frames scopes frame own start closed hkind howner hknows htail ih =>
      have hlabel := hknows label
      simp only [verdict, List.takeWhile_cons, howner, decide_true, if_true,
        List.findSome?_cons]
      rw [← hlabel, ← ih]
      cases Frame.find? label frame <;> rfl

theorem absorb {level : Nat} {frame closing : Frame} {frames : List Frame}
    {scopes : List OpenScope} {label : String} {start : State} {closed : List String}
    (h : Tracks level (frame :: frames) scopes)
    (hclosing : closing.Knows ⟨.recursion label start, closed⟩) (cursor : State) :
    Tracks level
      ({ frame with
          cursor
          recursions := retire frame.recursions closing.recursions } :: frames)
      (ScopeOp.exitRecursion.affect (⟨.recursion label start, closed⟩ :: scopes)) := by
  cases h with
  | root h₁ h₂ h₃ => exact .root h₁ h₂ (h₃.absorb hclosing cursor)
  | branch h₁ h₂ h₃ h₄ => exact .branch h₁ h₂ (h₃.absorb hclosing cursor) h₄
  | recursion h₁ h₂ h₃ h₄ => exact .recursion h₁ h₂ (h₃.absorb hclosing cursor) h₄

end Tracks

namespace ScopeStack

theorem resolveRecursion_eq_verdict {stack : ScopeStack} {scopes : List OpenScope}
    (h : Tracks stack.suspended.length stack.frames scopes) (label : String) :
    stack.resolveRecursion label = (verdict label scopes).join := by
  have howner : stack.owner = stack.suspended.length := h.owner_eq
  rw [← h.findSome?_find? label, ← howner]
  simp only [resolveRecursion, lookupRecursion]
  cases (stack.frames.takeWhile fun frame => frame.owner = stack.owner).findSome?
      (Frame.find? label) with
  | none => rfl
  | some entry => obtain ⟨start, _ | _⟩ := entry <;> rfl

theorem apply_exitBranch_of_ne {stack : ScopeStack}
    (h : ∀ anchor, stack.current.kind ≠ .branch anchor) : stack.apply .exitBranch = stack := by
  have hnone : stack.exitBranch = none := by
    unfold exitBranch
    split
    · next anchor _ _ _ _ hkind _ _ => exact absurd hkind (h anchor)
    · rfl
  rw [apply, hnone, Option.map_none, Option.getD_none]

theorem apply_exitRecursion_of_ne {stack : ScopeStack}
    (h : ∀ label, stack.current.kind ≠ .recursion label) :
    stack.apply .exitRecursion = stack := by
  have hnone : stack.exitRecursion = none := by
    unfold exitRecursion
    split
    · next label _ _ hkind _ => exact absurd hkind (h label)
    · rfl
  rw [apply, hnone, Option.map_none, Option.getD_none]

theorem tracks_ofRoot (root : Automaton) :
    Tracks (ofRoot root).suspended.length (ofRoot root).frames [⟨.root, []⟩] :=
  .root rfl rfl fun _ => rfl

theorem tracks_apply {stack : ScopeStack} {scopes : List OpenScope}
    (h : Tracks stack.suspended.length stack.frames scopes) (operation : ScopeOp) :
    Tracks (stack.apply operation).suspended.length (stack.apply operation).frames
      (operation.affect scopes) := by
  obtain ⟨automaton, suspended, current, enclosing⟩ := stack
  change Tracks suspended.length (current :: enclosing) scopes at h
  cases operation with
  | setCursor state => exact h.congr_head rfl rfl rfl
  | pushChoice start => exact h.congr_head rfl rfl rfl
  | popChoice => exact h.congr_head rfl rfl rfl
  | setChoiceExit exit =>
      cases hchoices : current.choices with
      | nil =>
          simp only [apply, setChoiceExit, hchoices]
          exact h
      | cons choice rest =>
          simp only [apply, setChoiceExit, hchoices]
          exact h.congr_head rfl rfl rfl
  | enterBranch anchor branch => exact .branch rfl rfl (fun _ => rfl) h
  | enterRecursion label start =>
      refine .recursion rfl h.owner_eq ?_ h
      exact Frame.Knows.entered _ label start
  | exitBranch =>
      -- The number of suspended automata is not an index that `cases` can split.
      generalize hlevel : suspended.length = level at h
      cases h with
      | root hkind howner hknows =>
          rw [apply_exitBranch_of_ne (by simp [hkind]), hlevel]
          exact .root hkind howner hknows
      | recursion hkind howner hknows htail =>
          rw [apply_exitBranch_of_ne (by simp [hkind]), hlevel]
          exact .recursion hkind howner hknows htail
      | branch hkind howner hknows htail =>
          obtain ⟨parent, suspended, rfl⟩ := List.exists_cons_of_length_eq_add_one hlevel
          obtain ⟨frame, enclosing, rfl⟩ := htail.exists_cons
          simp only [apply, exitBranch, hkind, Option.map_some, Option.getD_some]
          rw [Nat.add_right_cancel hlevel]
          exact htail
  | exitRecursion =>
      generalize hlevel : suspended.length = level at h
      cases h with
      | root hkind howner hknows =>
          rw [apply_exitRecursion_of_ne (by simp [hkind]), hlevel]
          exact .root hkind howner hknows
      | branch hkind howner hknows htail =>
          rw [apply_exitRecursion_of_ne (by simp [hkind]), hlevel]
          exact .branch hkind howner hknows htail
      | recursion hkind howner hknows htail =>
          obtain ⟨frame, enclosing, rfl⟩ := htail.exists_cons
          simp only [apply, exitRecursion, hkind, Option.map_some, Option.getD_some, hlevel]
          exact htail.absorb hknows _

/-- After any operations the frames are those of the scopes that are still open. -/
theorem tracks_applyAll (root : Automaton) (operations : List ScopeOp) :
    Tracks ((ofRoot root).applyAll operations).suspended.length
      ((ofRoot root).applyAll operations).frames (openScopes operations) := by
  have hrun : ∀ (stack : ScopeStack) (scopes : List OpenScope),
      Tracks stack.suspended.length stack.frames scopes →
      Tracks (stack.applyAll operations).suspended.length (stack.applyAll operations).frames
        (operations.foldl (fun scopes operation => operation.affect scopes) scopes) := by
    induction operations with
    | nil =>
        intro stack scopes h
        exact h
    | cons operation rest ih =>
        intro stack scopes h
        exact ih (stack.apply operation) (operation.affect scopes) (tracks_apply h operation)
  exact hrun (ofRoot root) [⟨.root, []⟩] (tracks_ofRoot root)

/-- After any operations, a call finds the start of the innermost open recursion of its label
unless that one is masked; so labels are scoped lexically exactly where none is masked. -/
theorem resolveRecursion_applyAll_iff (root : Automaton) (operations : List ScopeOp)
    (label : String) :
    (∀ start,
      ((ofRoot root).applyAll operations).resolveRecursion label = some start ↔
        innermost label (openScopes operations) = some start ∧
          ¬ Masked label (openScopes operations)) ∧
    (((ofRoot root).applyAll operations).resolveRecursion label =
        innermost label (openScopes operations) ↔
      ¬ Masked label (openScopes operations)) := by
  have hresolve := resolveRecursion_eq_verdict (tracks_applyAll root operations) label
  have hstart : ∀ start,
      ((ofRoot root).applyAll operations).resolveRecursion label = some start ↔
        innermost label (openScopes operations) = some start ∧
          ¬ Masked label (openScopes operations) := by
    intro start
    rw [hresolve, Option.join_eq_some_iff, verdict_eq_some_some_iff]
  refine ⟨hstart, ?_⟩
  constructor
  · intro heq hmasked
    obtain ⟨start, hinnermost⟩ := exists_innermost_of_masked hmasked
    exact ((hstart start).mp (heq.trans hinnermost)).2 hmasked
  · intro hmasked
    apply Option.ext
    intro start
    rw [hstart start]
    exact and_iff_left hmasked

/-- A label that is defined again inside the recursion of another label, and closed there, is not
found any more, although its outer recursion is still open. -/
theorem resolveRecursion_ne_innermost :
    let operations : List ScopeOp :=
      [.enterRecursion "x" 0, .enterRecursion "y" 1, .enterRecursion "x" 2, .exitRecursion]
    ((ofRoot (.single 0)).applyAll operations).resolveRecursion "x" = none ∧
      innermost "x" (openScopes operations) = some 0 := by
  decide

end ScopeStack

end Conversation

import Conversation.Proofs.Refusals

/-!
The faults of a protocol, found in the protocol alone. They are what the compiler complains about,
in the order in which a walk of the tree meets them: depth-first, and the check of an activity
before those of its parts; only whether the interrupt of an escape may be armed is asked between its
body and its handler.
-/

namespace Conversation

section Interrupts

mutual

/-- Whether an activity ends in the state that it is entered at. -/
def Activity.stays (mode : LoopMode) : Activity → Bool
  | .interaction _ => false
  | .choice branches => branches.isEmpty
  | .directedChoice _ _ branches => branches.isEmpty
  | .parallel _ => false
  | .loop body => decide (mode = .once) && staysAll mode body
  | .recursion _ body => staysAll mode body
  | .call _ => false
  | .escape body _ handler => staysAll mode body && staysAll mode handler
  | .finish => true

def staysAll (mode : LoopMode) : List Activity → Bool
  | [] => true
  | first :: rest => first.stays mode && staysAll mode rest

end

mutual

/-- Whether an escape of an activity arms its interrupt at the state that the activity is entered
at. -/
def Activity.arms (mode : LoopMode) : Activity → Bool
  | .interaction _ => false
  | .choice branches => armsAny mode branches
  | .directedChoice .. => false
  | .parallel _ => false
  | .loop body => decide (mode = .once) && armsAll mode body
  | .recursion _ body => armsAll mode body
  | .call _ => false
  | .escape body _ _ => armsAll mode body || staysAll mode body
  | .finish => false

def armsAll (mode : LoopMode) : List Activity → Bool
  | [] => false
  | first :: rest => first.arms mode || first.stays mode && armsAll mode rest

def armsAny (mode : LoopMode) : List (List Activity) → Bool
  | [] => false
  | branch :: rest => armsAll mode branch || armsAny mode rest

end

mutual

/-- Whether an interrupt is armed at the state that an activity ends in, given whether one is armed
at the state that it is entered at. -/
def Activity.armedAfter (mode : LoopMode) : Activity → Bool → Bool
  | .interaction _, _ => false
  | .choice branches, armed => branches.isEmpty && armed
  | .directedChoice _ _ branches, armed => branches.isEmpty && armed
  | .parallel _, _ => false
  | .loop body, armed => armedAfterAll mode body (decide (mode = .once) && armed)
  | .recursion _ body, armed => armedAfterAll mode body armed
  | .call _, _ => false
  | .escape _ _ handler, _ => armedAfterAll mode handler true
  | .finish, armed => armed

def armedAfterAll (mode : LoopMode) : List Activity → Bool → Bool
  | [], armed => armed
  | first :: rest, armed => armedAfterAll mode rest (first.armedAfter mode armed)

end

end Interrupts

/-- The compilation gets from one position to another and arms interrupts at some anchors. It may
stay at the state of the first position, and arm one there. -/
structure Passage (position position' : Position) (anchors : List State) (stays arms : Bool)
    (armedAfter : Bool → Bool) : Prop where
  next_le : position.next ≤ position'.next
  cursor_lt : position'.cursor < position'.next
  cursor_eq : stays = true → position'.cursor = position.cursor
  next_le_cursor : stays = false → position.next ≤ position'.cursor
  anchors_range : ∀ anchor ∈ anchors,
    anchor = position.cursor ∨ position.next ≤ anchor ∧ anchor < position'.next
  arms_iff : arms = true ↔ position.cursor ∈ anchors
  armedAfter_iff : ∀ armed, armedAfter armed = true ↔
    position'.cursor ∈ anchors ∨ stays = true ∧ armed = true

namespace Passage

variable {position position₁ position₂ : Position} {anchors anchors₁ anchors₂ : List State}
  {stays arms stays₁ arms₁ stays₂ arms₂ : Bool} {armedAfter armedAfter₁ armedAfter₂ : Bool → Bool}

theorem alloc {next : State} (h : position.cursor < position.next) (hle : position.next ≤ next) :
    Passage position ⟨next, position.cursor⟩ [] true false id where
  next_le := hle
  cursor_lt := h.trans_le hle
  cursor_eq := fun _ => rfl
  next_le_cursor := by simp
  anchors_range := by simp
  arms_iff := by simp
  armedAfter_iff := by simp

theorem refl (h : position.cursor < position.next) :
    Passage position position [] true false id :=
  alloc h le_rfl

theorem arm (h : position.cursor < position.next) :
    Passage position position [position.cursor] true true fun _ => true where
  next_le := le_rfl
  cursor_lt := h
  cursor_eq := fun _ => rfl
  next_le_cursor := by simp
  anchors_range := by simp
  arms_iff := by simp
  armedAfter_iff := by simp

theorem move (hle : position.next ≤ position₁.cursor)
    (hlt : position₁.cursor < position₁.next)
    (hrange : ∀ anchor ∈ anchors,
      anchor = position.cursor ∨ position.next ≤ anchor ∧ anchor < position₁.next)
    (harms : arms = true ↔ position.cursor ∈ anchors) (hfree : position₁.cursor ∉ anchors) :
    Passage position position₁ anchors false arms fun _ => false where
  next_le := hle.trans (le_of_lt hlt)
  cursor_lt := hlt
  cursor_eq := by simp
  next_le_cursor := fun _ => hle
  anchors_range := hrange
  arms_iff := harms
  armedAfter_iff := by simp [hfree]

theorem fresh (position : Position) :
    Passage position (.fresh position.next) [] false false fun _ => false :=
  move le_rfl (Nat.lt_succ_self _) (by simp) (by simp) (by simp)

theorem enterLoop (mode : LoopMode) (h : position.cursor < position.next) :
    Passage position (position.enterLoop mode) [] (decide (mode = .once)) false
      fun armed => decide (mode = .once) && armed := by
  cases mode with
  | once => exact refl h
  | loop => exact fresh position

theorem not_mem_of_next_le {state : State} (h : Passage position position₁ anchors stays arms
    armedAfter) (hcursor : position.cursor < position.next) (hle : position₁.next ≤ state) :
    state ∉ anchors := by
  intro hmem
  rcases h.anchors_range state hmem with rfl | ⟨-, hlt⟩
  · exact absurd (hle.trans_lt hcursor) (not_lt.mpr h.next_le)
  · exact absurd hle (not_le.mpr hlt)

theorem resume (h : Passage position position₁ anchors stays arms armedAfter)
    (hcursor : position.cursor < position.next) (exit : Option State) :
    Passage position (position₁.resume exit position.cursor) anchors true arms
      fun armed => armed || arms where
  next_le := h.next_le.trans (position₁.next_le_resume exit _)
  cursor_lt := hcursor.trans_le (h.next_le.trans (position₁.next_le_resume exit _))
  cursor_eq := fun _ => rfl
  next_le_cursor := by simp
  anchors_range := by
    intro anchor hanchor
    exact (h.anchors_range anchor hanchor).imp_right fun hrange =>
      ⟨hrange.1, hrange.2.trans_le (position₁.next_le_resume exit _)⟩
  arms_iff := h.arms_iff
  armedAfter_iff := by
    intro armed
    rw [Bool.or_eq_true, h.arms_iff, or_comm]
    simp [Position.resume]

theorem trans (h₁ : Passage position position₁ anchors₁ stays₁ arms₁ armedAfter₁)
    (h₂ : Passage position₁ position₂ anchors₂ stays₂ arms₂ armedAfter₂)
    (hcursor : position.cursor < position.next) :
    Passage position position₂ (anchors₁ ++ anchors₂) (stays₁ && stays₂)
      (arms₁ || stays₁ && arms₂) (armedAfter₂ ∘ armedAfter₁) where
  next_le := h₁.next_le.trans h₂.next_le
  cursor_lt := h₂.cursor_lt
  cursor_eq := by
    intro hstays
    obtain ⟨hstays₁, hstays₂⟩ := Bool.and_eq_true_iff.mp hstays
    exact (h₂.cursor_eq hstays₂).trans (h₁.cursor_eq hstays₁)
  next_le_cursor := by
    intro hstays
    cases hstays₂ : stays₂ with
    | true =>
        rw [hstays₂, Bool.and_true] at hstays
        rw [h₂.cursor_eq hstays₂]
        exact h₁.next_le_cursor hstays
    | false => exact h₁.next_le.trans (h₂.next_le_cursor hstays₂)
  anchors_range := by
    intro anchor hanchor
    rcases List.mem_append.mp hanchor with hanchor | hanchor
    · exact (h₁.anchors_range anchor hanchor).imp_right
        fun hrange => ⟨hrange.1, hrange.2.trans_le h₂.next_le⟩
    · rcases h₂.anchors_range anchor hanchor with rfl | ⟨hle, hlt⟩
      · cases hstays₁ : stays₁ with
        | true => exact .inl (h₁.cursor_eq hstays₁)
        | false =>
            exact .inr ⟨h₁.next_le_cursor hstays₁, h₁.cursor_lt.trans_le h₂.next_le⟩
      · exact .inr ⟨h₁.next_le.trans hle, hlt⟩
  arms_iff := by
    rw [List.mem_append, Bool.or_eq_true, Bool.and_eq_true, h₁.arms_iff, h₂.arms_iff]
    refine or_congr_right ?_
    constructor
    · rintro ⟨hstays, hmem⟩
      rwa [← h₁.cursor_eq hstays]
    · intro hmem
      -- An anchor beyond the first position is the state of that position only if it has stayed.
      have heq : position.cursor = position₁.cursor := by
        rcases h₂.anchors_range _ hmem with heq | ⟨hle, -⟩
        · exact heq
        · exact absurd (h₁.next_le.trans hle) (not_le.mpr hcursor)
      refine ⟨?_, heq ▸ hmem⟩
      by_contra hstays
      have hle := h₁.next_le_cursor (Bool.eq_false_iff.mpr hstays)
      rw [← heq] at hle
      exact absurd hle (not_le.mpr hcursor)
  armedAfter_iff := by
    intro armed
    rw [Function.comp_apply, h₂.armedAfter_iff, h₁.armedAfter_iff, List.mem_append]
    cases hstays₂ : stays₂ with
    | true =>
        rw [h₂.cursor_eq hstays₂]
        simp only [Bool.and_true, true_and]
        tauto
    | false =>
        have hfree := h₁.not_mem_of_next_le hcursor (h₂.next_le_cursor hstays₂)
        simp [hfree]

end Passage

theorem cursor_afterChoices_some (mode : LoopMode) (exit : State)
    (branches : List (List Activity)) (position : Position) :
    (afterChoices mode (some exit) branches position).cursor = exit := by
  induction branches generalizing position with
  | nil => rfl
  | cons branch rest ih => exact ih _

theorem cursor_afterDirected_some (mode : LoopMode) (exit : State)
    (branches : List DirectedBranch) (position : Position) :
    (afterDirected mode (some exit) branches position).cursor = exit := by
  induction branches generalizing position with
  | nil => rfl
  | cons branch rest ih =>
      obtain ⟨exchange, body⟩ := branch
      exact ih _

/-- The exit of a choice is allocated after its first branch, so no interrupt is armed there. -/
theorem Passage.choice {position ended position' : Position} {anchors₁ anchors₂ : List State}
    {stays₁ arms₁ arms : Bool} {armedAfter₁ : Bool → Bool}
    (h : Passage position ended anchors₁ stays₁ arms₁ armedAfter₁)
    (hcursor : position.cursor < position.next) (hexit : position'.cursor = ended.next)
    (hnext : ended.next < position'.next)
    (hrest : ∀ anchor ∈ anchors₂,
      anchor = position.cursor ∨ ended.next < anchor ∧ anchor < position'.next)
    (harms : arms = true ↔ position.cursor ∈ anchors₁ ++ anchors₂) :
    Passage position position' (anchors₁ ++ anchors₂) false arms fun _ => false := by
  have hne : position.cursor < ended.next := hcursor.trans_le h.next_le
  refine .move (hexit ▸ h.next_le) (hexit ▸ hnext) ?_ harms ?_
  · intro anchor hanchor
    rcases List.mem_append.mp hanchor with hanchor | hanchor
    · exact (h.anchors_range anchor hanchor).imp_right fun hrange =>
        ⟨hrange.1, hrange.2.trans hnext⟩
    · exact (hrest anchor hanchor).imp_right fun hrange =>
        ⟨h.next_le.trans (le_of_lt hrange.1), hrange.2⟩
  · rw [hexit, List.mem_append, not_or]
    refine ⟨h.not_mem_of_next_le hcursor le_rfl, ?_⟩
    intro hmem
    rcases hrest _ hmem with heq | ⟨hlt, -⟩
    · exact absurd heq (ne_of_gt hne)
    · exact absurd hlt (lt_irrefl _)

mutual

theorem Activity.passage (mode : LoopMode) : ∀ (one : Activity) (position : Position),
    position.cursor < position.next →
      Passage position (one.after mode position) ((one.escapes mode position).map Escape.anchor)
        (one.stays mode) (one.arms mode) (one.armedAfter mode)
  | .interaction _, position, _ => .fresh position
  | .choice [], position, h => .refl h
  | .choice (branch :: rest), position, h => by
      have hbranch := passageAll mode branch position h
      let ended := afterAll mode branch position
      have hrest := choices_anchors mode (some ended.next) rest (ended.resume none position.cursor)
        ((h.trans_le hbranch.next_le).trans (Nat.lt_succ_self _))
      have hle := next_le_afterChoices mode (some ended.next) rest
        (ended.resume none position.cursor)
      rw [Activity.escapes, escapesOfChoices, List.map_append]
      refine hbranch.choice h (cursor_afterChoices_some _ _ _ _) hle hrest.1 ?_
      rw [Activity.arms, armsAny, Bool.or_eq_true, List.mem_append, hbranch.arms_iff, hrest.2]
      rfl
  | .directedChoice _ _ [], position, h => .refl h
  | .directedChoice _ _ (.mk exchange body :: rest), position, h => by
      have hbody := passageAll mode body (.fresh position.next) (Nat.lt_succ_self _)
      let ended := afterAll mode body (.fresh position.next)
      have hrest := directed_anchors mode (some ended.next) rest (ended.resume none position.cursor)
      have hselected := (Passage.fresh position).trans hbody h
      have hle := next_le_afterDirected mode (some ended.next) rest
        (ended.resume none position.cursor)
      have hfree : position.cursor ∉
          (escapesOfDirected mode (some ended.next) rest (ended.resume none position.cursor)).map
            Escape.anchor := by
        intro hmem
        have hlt := h.trans_le (hselected.next_le.trans (Nat.le_succ _))
        exact absurd (hrest _ hmem).1 (not_le.mpr hlt)
      rw [Activity.escapes, escapesOfDirected, List.map_append]
      refine hselected.choice h (cursor_afterDirected_some _ _ _ _) hle
        (fun anchor hanchor => .inr (hrest anchor hanchor)) ?_
      rw [List.mem_append]
      exact hselected.arms_iff.trans (or_iff_left hfree).symm
  | .parallel branches, position, _ => by
      have hle := next_le_afterRegions mode branches (position.next + 1)
      rw [Activity.escapes, Activity.arms, List.map_nil]
      exact .move (le_refl position.next) hle (by simp) (by simp) (by simp)
  | .loop body, position, h =>
      have hentered := Passage.enterLoop mode h
      hentered.trans (passageAll mode body _ hentered.cursor_lt) h
  | .recursion _ body, position, h => passageAll mode body position h
  | .call _, position, _ => .fresh position
  | .escape body _ handler, position, h => by
      have hbody := passageAll mode body position h
      have hhandler := passageAll mode handler _ hbody.cursor_lt
      have hpassage := (hbody.trans (.arm hbody.cursor_lt) h).trans hhandler h
      have harms : ((armsAll mode body || staysAll mode body && true) ||
          (staysAll mode body && true) && armsAll mode handler) =
          (armsAll mode body || staysAll mode body) := by
        cases armsAll mode body <;> cases staysAll mode body <;> rfl
      rw [harms, Bool.and_true, List.append_assoc] at hpassage
      rw [Activity.escapes, List.map_append]
      exact hpassage
  | .finish, position, h => .refl h

theorem passageAll (mode : LoopMode) : ∀ (list : List Activity) (position : Position),
    position.cursor < position.next →
      Passage position (afterAll mode list position)
        ((escapesOf mode list position).map Escape.anchor) (staysAll mode list)
        (armsAll mode list) (armedAfterAll mode list)
  | [], _, h => .refl h
  | first :: rest, position, h => by
      have hfirst := first.passage mode position h
      have hrest := passageAll mode rest _ hfirst.cursor_lt
      rw [escapesOf, List.map_append]
      exact hfirst.trans hrest h

theorem choices_anchors (mode : LoopMode) (exit : Option State) :
    ∀ (branches : List (List Activity)) (position : Position), position.cursor < position.next →
      (∀ anchor ∈ (escapesOfChoices mode exit branches position).map Escape.anchor,
        anchor = position.cursor ∨
          position.next ≤ anchor ∧ anchor < (afterChoices mode exit branches position).next) ∧
      (armsAny mode branches = true ↔
        position.cursor ∈ (escapesOfChoices mode exit branches position).map Escape.anchor)
  | [], _, _ => by simp [escapesOfChoices, armsAny]
  | branch :: rest, position, h => by
      have hbranch := passageAll mode branch position h
      let ended := afterAll mode branch position
      have hresume := Position.next_le_resume ended exit position.cursor
      have hrest := choices_anchors mode (some (ended.exit exit)) rest
        (ended.resume exit position.cursor) (h.trans_le (hbranch.next_le.trans hresume))
      have hle := next_le_afterChoices mode (some (ended.exit exit)) rest
        (ended.resume exit position.cursor)
      rw [escapesOfChoices, afterChoices, List.map_append]
      constructor
      · intro anchor hanchor
        rcases List.mem_append.mp hanchor with hanchor | hanchor
        · exact (hbranch.anchors_range anchor hanchor).imp_right fun hrange =>
            ⟨hrange.1, hrange.2.trans_le (hresume.trans hle)⟩
        · exact (hrest.1 anchor hanchor).imp_right fun hrange =>
            ⟨(hbranch.next_le.trans hresume).trans hrange.1, hrange.2⟩
      · rw [armsAny, Bool.or_eq_true, List.mem_append, hbranch.arms_iff, hrest.2]
        rfl

theorem directed_anchors (mode : LoopMode) (exit : Option State) :
    ∀ (branches : List DirectedBranch) (position : Position),
      ∀ anchor ∈ (escapesOfDirected mode exit branches position).map Escape.anchor,
        position.next ≤ anchor ∧ anchor < (afterDirected mode exit branches position).next
  | [], _ => by simp [escapesOfDirected]
  | .mk exchange body :: rest, position => by
      have hbody := passageAll mode body (.fresh position.next) (Nat.lt_succ_self _)
      let ended := afterAll mode body (.fresh position.next)
      have hresume := Position.next_le_resume ended exit position.cursor
      have hrest := directed_anchors mode (some (ended.exit exit)) rest
        (ended.resume exit position.cursor)
      have hle := next_le_afterDirected mode (some (ended.exit exit)) rest
        (ended.resume exit position.cursor)
      have hnext : position.next < ended.next := hbody.next_le
      rw [escapesOfDirected, afterDirected, List.map_append]
      intro anchor hanchor
      rcases List.mem_append.mp hanchor with hanchor | hanchor
      · rcases hbody.anchors_range anchor hanchor with rfl | ⟨hlower, hupper⟩
        · exact ⟨le_rfl, hnext.trans_le (hresume.trans hle)⟩
        · exact ⟨(Nat.le_succ _).trans hlower, hupper.trans_le (hresume.trans hle)⟩
      · obtain ⟨hlower, hupper⟩ := hrest anchor hanchor
        exact ⟨((le_of_lt hnext).trans hresume).trans hlower, hupper⟩

end

mutual

/-- The labels of the recursions in an activity, without those inside of parallel branches; the
recursion that ends last comes first. -/
def Activity.labels : Activity → List String
  | .interaction _ => []
  | .choice branches => labelsOfChoices branches
  | .directedChoice _ _ branches => labelsOfDirected branches
  | .parallel _ => []
  | .loop body => labelsOf body
  | .recursion label body => label :: labelsOf body
  | .call _ => []
  | .escape body _ handler => labelsOf handler ++ labelsOf body
  | .finish => []

def labelsOf : List Activity → List String
  | [] => []
  | first :: rest => labelsOf rest ++ first.labels

def labelsOfChoices : List (List Activity) → List String
  | [] => []
  | branch :: rest => labelsOfChoices rest ++ labelsOf branch

def labelsOfDirected : List DirectedBranch → List String
  | [] => []
  | .mk _ body :: rest => labelsOfDirected rest ++ labelsOf body

end

def closeAll (labels : List String) : List OpenScope → List OpenScope
  | [] => []
  | scope :: scopes => { scope with closed := labels ++ scope.closed } :: scopes

@[simp] theorem closeAll_nil (scopes : List OpenScope) : closeAll [] scopes = scopes := by
  cases scopes <;> rfl

theorem closeAll_append (later earlier : List String) (scopes : List OpenScope) :
    closeAll (later ++ earlier) scopes = closeAll later (closeAll earlier scopes) := by
  cases scopes with
  | nil => rfl
  | cons scope scopes => simp [closeAll]

/-- A recursion of the label is open in the automaton, and it is not masked. -/
def Callable (label : String) (scopes : List OpenScope) : Prop :=
  (innermost label scopes).isSome ∧ ¬ Masked label scopes

theorem callable_iff {label : String} {scopes : List OpenScope} :
    Callable label scopes ↔ (verdict label scopes).join.isSome := by
  simp only [Callable, Option.isSome_iff_exists, Option.join_eq_some_iff, verdict_eq_some_some_iff,
    exists_and_right]

instance (label : String) (scopes : List OpenScope) : Decidable (Callable label scopes) :=
  decidable_of_iff _ callable_iff.symm

/-- Where in a protocol an activity stands: the position, the scopes that are open, and whether an
interrupt is armed at the state of the position. -/
structure Setting where
  position : Position
  scopes : List OpenScope
  armed : Bool

namespace Setting

def start : Setting where
  position := .fresh 0
  scopes := [⟨.root, []⟩]
  armed := false

def afterAll (mode : LoopMode) (list : List Activity) (setting : Setting) : Setting where
  position := Conversation.afterAll mode list setting.position
  scopes := closeAll (labelsOf list) setting.scopes
  armed := armedAfterAll mode list setting.armed

def after (mode : LoopMode) (one : Activity) (setting : Setting) : Setting where
  position := one.after mode setting.position
  scopes := closeAll one.labels setting.scopes
  armed := one.armedAfter mode setting.armed

def enterLoop (mode : LoopMode) (setting : Setting) : Setting where
  position := setting.position.enterLoop mode
  scopes := setting.scopes
  armed := decide (mode = .once) && setting.armed

def enterRecursion (label : String) (setting : Setting) : Setting :=
  { setting with
    scopes := ⟨.recursion label setting.position.cursor, []⟩ :: setting.scopes }

def arm (setting : Setting) : Setting :=
  { setting with armed := true }

def select (setting : Setting) : Setting :=
  { setting with position := .fresh setting.position.next, armed := false }

def resume (setting : Setting) (ended : Position) (exit : Option State) (labels : List String)
    (arms : Bool) : Setting where
  position := ended.resume exit setting.position.cursor
  scopes := closeAll labels setting.scopes
  armed := setting.armed || arms

def enterRegion (setting : Setting) : Setting :=
  { setting with position := ⟨setting.position.next + 1, setting.position.cursor⟩ }

def enterBranch (setting : Setting) : Setting where
  position := .fresh setting.position.next
  scopes := ⟨.branch, []⟩ :: setting.scopes
  armed := false

def leaveBranch (setting : Setting) (ended : Position) : Setting :=
  { setting with position := ⟨ended.next + 1, setting.position.cursor⟩ }

end Setting

mutual

/-- The faults of an activity, in the order of the walk. -/
def Activity.faults (mode : LoopMode) : Activity → Setting → List BuildError
  | .interaction _, _ => []
  | .choice branches, setting =>
      (Activity.choice branches).check?.toList ++ faultsOfChoices mode none branches setting
  | .directedChoice sender receivers branches, setting =>
      (Activity.directedChoice sender receivers branches).check?.toList ++
        faultsOfDirected mode none branches setting
  | .parallel branches, setting =>
      (Activity.parallel branches).check?.toList ++
        faultsOfRegions mode branches setting.enterRegion
  | .loop body, setting =>
      (Activity.loop body).check?.toList ++ faultsOf mode body (setting.enterLoop mode)
  | .recursion label body, setting =>
      (Activity.recursion label body).check?.toList ++
        faultsOf mode body (setting.enterRecursion label)
  | .call label, setting => if Callable label setting.scopes then [] else [.undefinedLabel label]
  | .escape body role handler, setting =>
      let anchored := setting.afterAll mode body
      (Activity.escape body role handler).check?.toList ++
        (faultsOf mode body setting ++
          ((if anchored.armed then [.interruptConflict anchored.position.cursor] else []) ++
            faultsOf mode handler anchored.arm))
  | .finish, _ => []

def faultsOf (mode : LoopMode) : List Activity → Setting → List BuildError
  | [], _ => []
  | first :: rest, setting =>
      first.faults mode setting ++ faultsOf mode rest (setting.after mode first)

def faultsOfChoices (mode : LoopMode) :
    (exit : Option State) → List (List Activity) → Setting → List BuildError
  | _, [], _ => []
  | exit, branch :: rest, setting =>
      let ended := afterAll mode branch setting.position
      faultsOf mode branch setting ++
        faultsOfChoices mode (some (ended.exit exit)) rest
          (setting.resume ended exit (labelsOf branch) (armsAll mode branch))

def faultsOfDirected (mode : LoopMode) :
    (exit : Option State) → List DirectedBranch → Setting → List BuildError
  | _, [], _ => []
  | exit, .mk _ body :: rest, setting =>
      let ended := afterAll mode body (.fresh setting.position.next)
      faultsOf mode body setting.select ++
        faultsOfDirected mode (some (ended.exit exit)) rest
          (setting.resume ended exit (labelsOf body) false)

def faultsOfRegions (mode : LoopMode) : List (List Activity) → Setting → List BuildError
  | [], _ => []
  | branch :: rest, setting =>
      faultsOf mode branch setting.enterBranch ++
        faultsOfRegions mode rest
          (setting.leaveBranch (afterAll mode branch (.fresh setting.position.next)))

end

/-- The faults of a protocol, in the order of the walk. -/
def Protocol.faults (protocol : Protocol) (mode : LoopMode) : List BuildError :=
  if protocol.activities.isEmpty then [.emptyList .protocol]
  else faultsOf mode protocol.activities .start

end Conversation

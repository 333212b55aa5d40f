import Conversation.Proofs.ScopesOfRuns

namespace Conversation

def Build.anchors (build : Build) : List State :=
  build.scopes.automaton.interrupts.map Interrupt.anchor ++
    build.pending.toList.map PendingInterrupt.anchor

theorem Build.anchors_congr {build build' : Build}
    (hinterrupts : build'.scopes.automaton.interrupts = build.scopes.automaton.interrupts)
    (hpending : build'.pending = build.pending) : build'.anchors = build.anchors := by
  rw [anchors, anchors, hinterrupts, hpending]

/-- An interrupt may be armed at the cursor where none is armed yet. -/
theorem Build.interruptAt_eq_none_iff {build : Build} (hpending : build.pending = none)
    {state : State} : build.scopes.automaton.interruptAt state = none ↔ state ∉ build.anchors := by
  simp [Automaton.interruptAt, anchors, hpending, List.find?_eq_none]

theorem Build.Registers.interrupts_eq {mode : LoopMode} {build build' : Build}
    {selections : List Selection} {branches : List (List Activity)}
    (h : build.Registers mode [] selections branches build') :
    build'.scopes.automaton.interrupts = build.scopes.automaton.interrupts := by
  obtain ⟨interrupts, heq, hserves⟩ := h.interrupts
  cases hserves
  rw [heq, List.append_nil]

theorem Automaton.map_anchor_eq {automaton : Automaton} {escapes : List Escape}
    {interrupts : List Interrupt} (h : List.Forall₂ automaton.Serves escapes interrupts) :
    interrupts.map Interrupt.anchor = escapes.map Escape.anchor := by
  induction h with
  | nil => rfl
  | cons hserve _ ih => rw [List.map_cons, List.map_cons, ih, hserve.anchor_eq]

theorem Build.anchors_enterChoiceBranch {build entered : Build} {index : Nat} {start : State}
    (henter : Compiler.enterChoiceBranch index start build = .ok () entered) :
    entered.anchors = build.anchors := by
  cases henter
  exact anchors_congr (by simp [ScopeStack.setCursor]) (by simp)

theorem Runs.anchors_eq {mode : LoopMode} {work : Work} {build build' : Build}
    (h : Runs mode work build build') (hready : build.Ready work) :
    build'.anchors = build.anchors ++ (work.escapes mode build).map Escape.anchor := by
  obtain ⟨hpending, hregisters⟩ := h.registers hready
  obtain ⟨interrupts, heq, hserves⟩ := hregisters.interrupts
  rw [Build.anchors, heq, hpending, List.map_append, Automaton.map_anchor_eq hserves,
    Build.anchors, Build.due]
  simp

namespace Work

def position (build : Build) : Work → Position
  | .activity _ => build.position
  | .activities _ => build.position
  | .choiceBranches start _ _ => ⟨build.arena.next, start⟩
  | .directedBranches start _ _ => ⟨build.arena.next, start⟩
  | .parallelBranches anchor _ _ => ⟨build.arena.next, anchor⟩

def faults (mode : LoopMode) (build : Build) (setting : Setting) : Work → List BuildError
  | .activity one => one.faults mode setting
  | .activities list => faultsOf mode list setting
  | .choiceBranches _ _ branches => faultsOfChoices mode build.exit? branches setting
  | .directedBranches _ _ branches => faultsOfDirected mode build.exit? branches setting
  | .parallelBranches _ _ branches => faultsOfRegions mode branches setting

/-- The setting of some work agrees with the state of the compilation. -/
structure Agrees (work : Work) (build : Build) (setting : Setting) : Prop where
  position_eq : work.position build = setting.position
  cursor_lt : setting.position.cursor < setting.position.next
  anchors_lt : ∀ anchor ∈ build.anchors, anchor < setting.position.next
  armed_iff : setting.armed = true ↔ setting.position.cursor ∈ build.anchors
  tracks : build.Tracks setting.scopes

end Work

namespace Work.Agrees

variable {mode : LoopMode} {work work' : Work} {build build' : Build} {setting : Setting}

theorem pass (h : work.Agrees build setting) {position : Position} {anchors : List State}
    {stays arms : Bool} {armedAfter : Bool → Bool} {scopes : List OpenScope}
    (hpassage : Passage setting.position position anchors stays arms armedAfter)
    (hposition : work'.position build' = position)
    (hanchors : build'.anchors = build.anchors ++ anchors)
    (htracks : build'.Tracks scopes) :
    work'.Agrees build' ⟨position, scopes, armedAfter setting.armed⟩ where
  position_eq := hposition
  cursor_lt := hpassage.cursor_lt
  anchors_lt := by
    intro anchor hanchor
    rw [hanchors, List.mem_append] at hanchor
    rcases hanchor with hanchor | hanchor
    · exact (h.anchors_lt anchor hanchor).trans_le hpassage.next_le
    · rcases hpassage.anchors_range anchor hanchor with rfl | ⟨-, hlt⟩
      · exact h.cursor_lt.trans_le hpassage.next_le
      · exact hlt
  armed_iff := by
    rw [hpassage.armedAfter_iff, hanchors, List.mem_append, or_comm]
    refine or_congr_left ?_
    cases hstays : stays with
    | true =>
        rw [hpassage.cursor_eq hstays, h.armed_iff]
        exact and_iff_right rfl
    | false =>
        -- What the cursor has moved to is allocated on the way, unlike the anchors before.
        have hle := hpassage.next_le_cursor hstays
        constructor
        · rintro ⟨hfalse, -⟩
          cases hfalse
        · intro hmem
          exact absurd (h.anchors_lt _ hmem) (not_lt.mpr hle)
  tracks := htracks

/-- The form of all steps to a part of some work that arm no interrupt and leave the cursor where it
is. -/
theorem keep (h : work.Agrees build setting) {next : State} {scopes : List OpenScope}
    (hle : setting.position.next ≤ next)
    (hposition : work'.position build' = ⟨next, setting.position.cursor⟩)
    (hinterrupts : build'.scopes.automaton.interrupts = build.scopes.automaton.interrupts)
    (hpending : build'.pending = build.pending) (htracks : build'.Tracks scopes) :
    work'.Agrees build' ⟨⟨next, setting.position.cursor⟩, scopes, setting.armed⟩ :=
  h.pass (.alloc h.cursor_lt hle) hposition
    ((Build.anchors_congr hinterrupts hpending).trans (List.append_nil _).symm) htracks

theorem first {first : Activity} {rest : List Activity}
    (h : (Work.activities (first :: rest)).Agrees build setting) :
    (Work.activity first).Agrees build setting :=
  ⟨h.position_eq, h.cursor_lt, h.anchors_lt, h.armed_iff, h.tracks⟩

/-- The form of the steps behind what has been compiled. -/
theorem follow (h : work.Agrees build setting) (hready : build.Ready work)
    (hruns : Runs mode work build build') {position : Position} {escapes : List Escape}
    {stays arms : Bool} {armedAfter : Bool → Bool} (hposition : work'.position build' = position)
    (hescapes : work.escapes mode build = escapes)
    (hpassage : Passage setting.position position (escapes.map Escape.anchor) stays arms
      armedAfter) :
    work'.Agrees build'
      ⟨position, closeAll work.labels setting.scopes, armedAfter setting.armed⟩ :=
  h.pass hpassage hposition (hescapes ▸ hruns.anchors_eq hready) (hruns.tracks h.tracks)

theorem after {first : Activity} {rest : List Activity}
    (h : (Work.activities (first :: rest)).Agrees build setting)
    (hready : build.Ready (.activity first)) (hruns : Runs mode (.activity first) build build') :
    (Work.activities rest).Agrees build' (setting.after mode first) := by
  have hposition : build.position = setting.position := h.position_eq
  obtain ⟨piece, hgrows⟩ := hruns.grows_of_activity hready.level
  rw [hposition] at hgrows
  exact h.first.follow hready hruns hgrows.position_eq (congrArg (first.escapes mode) hposition)
    (first.passage mode setting.position h.cursor_lt)

theorem afterAll {list rest : List Activity} (h : (Work.activities list).Agrees build setting)
    (hready : build.Ready (.activities list)) (hruns : Runs mode (.activities list) build build') :
    (Work.activities rest).Agrees build' (setting.afterAll mode list) := by
  have hposition : build.position = setting.position := h.position_eq
  obtain ⟨piece, hgrows⟩ := hruns.grows_of_activities hready.level
  rw [hposition] at hgrows
  exact h.follow hready hruns hgrows.position_eq (congrArg (escapesOf mode list) hposition)
    (passageAll mode list setting.position h.cursor_lt)

/-- The form of the steps from a choice to its branches. -/
theorem pushChoice (h : work.Agrees build setting) (hposition : build.position = setting.position)
    {branches : Nat} {start : State} (hopen : Compiler.openChoice branches build = .ok start build')
    (hwork : work'.position build' = ⟨build'.arena.next, start⟩) :
    work'.Agrees build' setting ∧ build'.exit? = none := by
  have htracks := h.tracks.openChoice hopen
  rw [Compiler.openChoice_eq] at hopen
  cases hopen
  rw [Build.arena_modifyScopes, Build.arena_record] at hwork
  exact ⟨h.keep le_rfl (hwork.trans hposition) (by simp [ScopeStack.pushChoice]) (by simp) htracks,
    rfl⟩

theorem openChoice {branches : List (List Activity)} {start : State}
    (h : (Work.activity (.choice branches)).Agrees build setting)
    (hopen : Compiler.openChoice branches.length build = .ok start build') :
    (Work.choiceBranches start 0 branches).Agrees build' setting ∧ build'.exit? = none :=
  h.pushChoice h.position_eq hopen rfl

theorem addRole {one : Activity} (h : (Work.activity one).Agrees build setting) (role : Role) :
    (Work.activity one).Agrees (build.addRole role) setting :=
  h.keep le_rfl h.position_eq rfl rfl (h.tracks.addRole role)

theorem addRoles {one : Activity} (h : (Work.activity one).Agrees build setting)
    (roles : List Role) : (Work.activity one).Agrees (roles.foldl Build.addRole build) setting := by
  induction roles generalizing build with
  | nil => exact h
  | cons role rest ih => exact ih (h.addRole role)

theorem openDirected {sender : Role} {receivers : List Role} {branches : List DirectedBranch}
    {named₁ named₂ : Build} {start : State}
    (h : (Work.activity (.directedChoice sender receivers branches)).Agrees build setting)
    (hsender : Compiler.addRole sender build = .ok () named₁)
    (hreceivers : Compiler.addRoles receivers named₁ = .ok () named₂)
    (hopen : Compiler.openChoice branches.length named₂ = .ok start build') :
    (Work.directedBranches start 0 branches).Agrees build' setting ∧ build'.exit? = none := by
  rw [Compiler.addRoles_eq] at hreceivers
  cases hsender
  cases hreceivers
  have hnamed := (h.addRole sender).addRoles receivers
  exact hnamed.pushChoice hnamed.position_eq hopen rfl

theorem escapeBody {body handler : List Activity} {role : Role}
    (h : (Work.activity (.escape body role handler)).Agrees build setting)
    (hrole : Compiler.addRole role build = .ok () build') :
    (Work.activities body).Agrees build' setting := by
  cases hrole
  exact h.keep le_rfl h.position_eq rfl rfl (h.tracks.addRole role)

theorem openParallel {branches : List (List Activity)} {anchor join : State}
    (h : (Work.activity (.parallel branches)).Agrees build setting)
    (hopen : Compiler.openParallel branches.length build = .ok (anchor, join) build') :
    (Work.parallelBranches anchor 0 branches).Agrees build' setting.enterRegion := by
  have hposition : build.position = setting.position := h.position_eq
  rw [Compiler.openParallel_eq] at hopen
  cases hopen
  refine h.keep (Nat.le_succ _) ?_ (by simp [ScopeStack.modifyAutomaton, Automaton.addState])
    (by simp) (h.tracks.newState.record _)
  rw [← hposition]
  simp [Work.position, Build.position]

theorem openLoop {body : List Activity} {head : State}
    (h : (Work.activity (.loop body)).Agrees build setting)
    (hready : build.Ready (.activity (.loop body))) (hne : body ≠ [])
    (hopen : Compiler.openLoop mode build = .ok head build') :
    (Work.activities body).Agrees build' (setting.enterLoop mode) := by
  obtain ⟨-, hregisters, hpending, hposition⟩ := hready.openLoop hne hopen
  refine h.pass (.enterLoop mode h.cursor_lt) ?_ ?_ (h.tracks.openLoop hopen)
  · exact hposition.trans (congrArg (Position.enterLoop · mode) h.position_eq)
  · exact (Build.anchors_congr hregisters.interrupts_eq hpending).trans (List.append_nil _).symm

theorem openRecursion {label : String} {body : List Activity}
    (h : (Work.activity (.recursion label body)).Agrees build setting)
    (hopen : Compiler.openRecursion label build = .ok () build') :
    (Work.activities body).Agrees build' (setting.enterRecursion label) := by
  have hposition : build.position = setting.position := h.position_eq
  have htracks := h.tracks.openRecursion hopen
  rw [show build.scopes.cursor = setting.position.cursor from congrArg Position.cursor hposition]
    at htracks
  obtain ⟨harena, hscopes⟩ := Compiler.openRecursion_eq_ok hopen
  refine h.keep le_rfl ?_ (by rw [hscopes]; rfl) ?_ htracks
  · rw [Work.position, Build.position, harena, hscopes]
    exact hposition
  · cases hopen
    simp

theorem escapeAnchored {body handler : List Activity} {role : Role} {anchored : Build}
    (h : (Work.activity (.escape body role handler)).Agrees build setting)
    (hready : build'.Ready (.activities body))
    (hrole : Compiler.addRole role build = .ok () build')
    (hbody : Runs mode (.activities body) build' anchored) :
    (Work.activities body).Agrees build' setting ∧ anchored.pending = none ∧
      (Work.activities []).Agrees anchored (setting.afterAll mode body) :=
  ⟨h.escapeBody hrole, (hbody.registers hready).1, (h.escapeBody hrole).afterAll hready hbody⟩

theorem armInterrupt {body handler : List Activity} {role : Role}
    (h : (Work.activities body).Agrees build setting) (hpending : build.pending = none)
    (harm : Compiler.armInterrupt role build = .ok () build') :
    (Work.activities handler).Agrees build' setting.arm := by
  have hposition : build.position = setting.position := h.position_eq
  have hgrows := build.grows_refl.armInterrupt harm
  have htracks := h.tracks.armInterrupt harm
  have hanchors : build'.anchors = build.anchors ++ [setting.position.cursor] := by
    obtain ⟨-, rfl⟩ := Compiler.armInterrupt_eq_ok_iff.mp harm
    rw [← hposition]
    simp [Build.anchors, hpending, Build.position, ScopeStack.modifyAutomaton,
      Automaton.markFinal]
  exact h.pass (.arm h.cursor_lt) (hgrows.position_eq.trans hposition) hanchors htracks

theorem armed_eq_false_iff {list : List Activity} (h : (Work.activities list).Agrees build setting)
    (hpending : build.pending = none) :
    setting.armed = false ↔
      build.scopes.automaton.interruptAt build.scopes.cursor = none := by
  have hcursor : build.scopes.cursor = setting.position.cursor :=
    congrArg Position.cursor h.position_eq
  rw [← Bool.not_eq_true, h.armed_iff, hcursor, Build.interruptAt_eq_none_iff hpending]

theorem callable_iff (h : work.Agrees build setting) (label : String) :
    Callable label setting.scopes ↔ (build.scopes.resolveRecursion label).isSome := by
  rw [Conversation.callable_iff, ScopeStack.resolveRecursion_eq_verdict h.tracks]

/-- Where a branch of a choice has been joined to the exit, the next branch starts where the branch
has started. -/
theorem join {list : List Activity} {position : Position} {inner ended : Build} {start : State}
    {stays arms : Bool} {armedAfter : Bool → Bool} (h : work.Agrees build setting)
    (hstart : start = setting.position.cursor) (hopened : build.scopes.current.choices ≠ [])
    (hready : inner.Ready (.activities list)) (hposition : inner.position = position)
    (hchoices : inner.scopes.current.choices = build.scopes.current.choices)
    (hanchors : inner.anchors = build.anchors) (htracks : inner.Tracks setting.scopes)
    (hpassage : Passage setting.position (Conversation.afterAll mode list position)
      ((escapesOf mode list position).map Escape.anchor) stays arms armedAfter)
    (hruns : Runs mode (.activities list) inner ended)
    (hconverge : Compiler.converge ended = .ok () build')
    (hwork : work'.position build' = ⟨build'.arena.next, start⟩) :
    build'.exit? = some ((Conversation.afterAll mode list position).exit build.exit?) ∧
      work'.Agrees build' (setting.resume (Conversation.afterAll mode list position)
        build.exit? (labelsOf list) arms) := by
  subst hposition hstart
  obtain ⟨piece, hgrows⟩ := hruns.grows_of_activities hready.level
  obtain ⟨hpending, -⟩ := hruns.registers hready
  have hended : ended.scopes.current.choices = build.scopes.current.choices :=
    hgrows.choices_eq.trans hchoices
  have hexit : ended.exit? = build.exit? := by
    rw [Build.exit?, Build.exit?, ScopeStack.choice, ScopeStack.choice, hended]
  obtain ⟨hconverged, hidle, -, -, hexit', hnext⟩ := (Build.Registers.refl mode ended).converge
    setting.position.cursor hpending (hready.level.grows hgrows) rfl (hended ▸ hopened) hconverge
  rw [hexit, hgrows.position_eq] at hexit' hnext
  refine ⟨hexit', h.pass (hpassage.resume h.cursor_lt build.exit?) ?_ ?_ ?_⟩
  · rw [hwork, hnext]
    rfl
  · rw [Build.anchors_congr hconverged.interrupts_eq (hidle.trans hpending.symm),
      hruns.anchors_eq hready, hanchors]
    rfl
  · exact (hruns.tracks htracks).converge hconverge

theorem enterChoiceBranch {index : Nat} {start : State} (h : work.Agrees build setting)
    (hposition : ⟨build.arena.next, start⟩ = setting.position)
    (henter : Compiler.enterChoiceBranch index start build = .ok () build')
    (hwork : work'.position build' = build'.position) : work'.Agrees build' setting := by
  have hgrows := build.grows_refl.enterChoiceBranch henter
  have htracks := h.tracks.enterChoiceBranch henter
  have hentered := hwork.trans (hgrows.position_eq.trans hposition)
  rw [Compiler.enterChoiceBranch_eq] at henter
  cases henter
  exact h.keep le_rfl hentered (by simp [ScopeStack.setCursor]) (by simp) htracks

theorem choiceBranch {start : State} {index : Nat} {branch : List Activity}
    {rest : List (List Activity)}
    (h : (Work.choiceBranches start index (branch :: rest)).Agrees build setting)
    (henter : Compiler.enterChoiceBranch index start build = .ok () build') :
    (Work.activities branch).Agrees build' setting :=
  h.enterChoiceBranch h.position_eq henter rfl

theorem choiceRest {start : State} {index : Nat} {branch : List Activity}
    {rest : List (List Activity)} {entered ended : Build}
    (h : (Work.choiceBranches start index (branch :: rest)).Agrees build setting)
    (hready : build.Ready (.choiceBranches start index (branch :: rest)))
    (henter : Compiler.enterChoiceBranch index start build = .ok () entered)
    (hruns : Runs mode (.activities branch) entered ended)
    (hconverge : Compiler.converge ended = .ok () build') :
    build'.exit? = some ((Conversation.afterAll mode branch setting.position).exit build.exit?) ∧
      (Work.choiceBranches start (index + 1) rest).Agrees build'
        (setting.resume (Conversation.afterAll mode branch setting.position) build.exit?
          (labelsOf branch) (armsAll mode branch)) := by
  have hentered := h.choiceBranch henter
  exact h.join (congrArg Position.cursor h.position_eq) hready.opened
    (hready.enterChoiceBranch rfl trivial henter) hentered.position_eq
    (build.grows_refl.enterChoiceBranch henter).choices_eq (Build.anchors_enterChoiceBranch henter)
    hentered.tracks (passageAll mode branch setting.position h.cursor_lt) hruns hconverge rfl

theorem directedBranch {start : State} {index : Nat} {exchange : Interaction}
    {body : List Activity} {rest : List DirectedBranch} {entered selected : Build}
    (h : (Work.directedBranches start index (.mk exchange body :: rest)).Agrees build setting)
    (hready : build.Ready (.directedBranches start index (.mk exchange body :: rest)))
    (henter : Compiler.enterChoiceBranch index start build = .ok () entered)
    (hselect : Compiler.interaction exchange entered = .ok () selected)
    (hregister : Compiler.registerDispatch start exchange.dispatchKey selected = .ok () build') :
    build'.anchors = build.anchors ∧ (Work.activities body).Agrees build' setting.select := by
  have hentered : (Work.activity (.interaction exchange)).Agrees entered setting :=
    h.enterChoiceBranch h.position_eq henter rfl
  have hposition : entered.position = setting.position := hentered.position_eq
  have hready' : entered.Ready (.activity (.interaction exchange)) :=
    hready.enterChoiceBranch rfl trivial henter
  have hgrows := (entered.grows_refl.interaction [] hselect).registerDispatch hregister
  have hanchors : build'.anchors = entered.anchors := by
    have hruns : Runs .once (.activity (.interaction exchange)) entered selected :=
      .interaction hselect
    have hselected := hruns.anchors_eq hready'
    rw [Work.escapes, Activity.escapes, List.map_nil, List.append_nil] at hselected
    rw [Compiler.registerDispatch_eq] at hregister
    cases hregister
    refine (Build.anchors_congr ?_ ?_).trans hselected <;>
      simp [Build.modifyAutomaton, ScopeStack.modifyAutomaton, Automaton.addDispatch]
  refine ⟨hanchors.trans (Build.anchors_enterChoiceBranch henter), ?_⟩
  refine hentered.pass (.fresh setting.position) ?_ (hanchors.trans (List.append_nil _).symm)
    ((hentered.tracks.interaction hselect).registerDispatch hregister)
  rw [← hposition]
  exact hgrows.position_eq

theorem directedRest {start : State} {index : Nat} {exchange : Interaction}
    {body : List Activity} {rest : List DirectedBranch} {entered selected registered ended : Build}
    (h : (Work.directedBranches start index (.mk exchange body :: rest)).Agrees build setting)
    (hready : build.Ready (.directedBranches start index (.mk exchange body :: rest)))
    (henter : Compiler.enterChoiceBranch index start build = .ok () entered)
    (hselect : Compiler.interaction exchange entered = .ok () selected)
    (hregister : Compiler.registerDispatch start exchange.dispatchKey selected = .ok () registered)
    (hruns : Runs mode (.activities body) registered ended)
    (hconverge : Compiler.converge ended = .ok () build') :
    build'.exit? = some
        ((Conversation.afterAll mode body (.fresh setting.position.next)).exit build.exit?) ∧
      (Work.directedBranches start (index + 1) rest).Agrees build'
        (setting.resume (Conversation.afterAll mode body (.fresh setting.position.next)) build.exit?
          (labelsOf body) false) := by
  obtain ⟨hanchors, hregistered⟩ := h.directedBranch hready henter hselect hregister
  have hpassage := (Passage.fresh setting.position).trans
    (passageAll mode body (.fresh setting.position.next) (Nat.lt_succ_self _)) h.cursor_lt
  have hentered : entered.Ready (.activity (.interaction exchange)) :=
    hready.enterChoiceBranch rfl trivial henter
  exact h.join (congrArg Position.cursor h.position_eq) hready.opened
    (hentered.select hselect hregister body) hregistered.position_eq
    (((build.grows_refl.enterChoiceBranch henter).interaction [] hselect).registerDispatch
      hregister).choices_eq hanchors hregistered.tracks hpassage hruns hconverge rfl

theorem parallelBranch {anchor : State} {index : Nat} {branch : List Activity}
    {rest : List (List Activity)}
    (h : (Work.parallelBranches anchor index (branch :: rest)).Agrees build setting)
    (hready : build.Ready (.parallelBranches anchor index (branch :: rest)))
    (henter : Compiler.enterParallelBranch anchor build = .ok () build') :
    (Work.activities branch).Agrees build' setting.enterBranch := by
  have hfresh := hready.level.fresh (hready.pending_eq_none rfl) henter
  have hnext : build.arena.next = setting.position.next := congrArg Position.next h.position_eq
  have hanchors : build'.anchors = [] := by
    obtain ⟨roles, hautomaton⟩ := hfresh.automaton_eq
    rw [Build.anchors, hautomaton, hfresh.pending_eq]
    rfl
  exact
    { position_eq := by
        rw [Work.position, hfresh.position_eq, hnext]
        rfl
      cursor_lt := Nat.lt_succ_self _
      anchors_lt := by simp [hanchors]
      armed_iff := by simp [hanchors, Setting.enterBranch]
      tracks := h.tracks.enterParallelBranch henter }

theorem parallelRest {anchor : State} {index : Nat} {branch : List Activity}
    {rest : List (List Activity)} {entered ended : Build}
    (h : (Work.parallelBranches anchor index (branch :: rest)).Agrees build setting)
    (hready : build.Ready (.parallelBranches anchor index (branch :: rest)))
    (henter : Compiler.enterParallelBranch anchor build = .ok () entered)
    (hruns : Runs mode (.activities branch) entered ended)
    (hleave : Compiler.leaveParallelBranch index anchor ended = .ok () build') :
    (Work.parallelBranches anchor (index + 1) rest).Agrees build'
      (setting.leaveBranch (Conversation.afterAll mode branch (.fresh setting.position.next))) := by
  have hidle := hready.pending_eq_none rfl
  have hentered := h.parallelBranch hready henter
  have hfresh := hready.level.fresh hidle henter
  obtain ⟨piece, hgrows⟩ := hruns.grows_of_activities hfresh.level
  obtain ⟨hpending, -⟩ := hruns.registers (.of_idle hfresh.level hfresh.pending_eq trivial)
  obtain ⟨hnext, hpending', hscopes⟩ :=
    Compiler.leaveParallelBranch_eq_of_grows henter hgrows hleave
  have hposition : entered.position = .fresh setting.position.next := hentered.position_eq
  rw [hgrows.next_eq, hposition] at hnext
  refine h.keep ?_ ?_ ?_ ?_ ?_
  · have hle := next_le_afterAll mode branch (.fresh setting.position.next)
    exact (Nat.le_succ _).trans (hle.trans (Nat.le_succ _))
  · rw [Work.position, hnext]
    exact congrArg (Position.mk _) (congrArg Position.cursor h.position_eq)
  · rw [hscopes]
    rfl
  · rw [hpending', hpending, hidle]
  · exact h.tracks.of_current (by rw [hscopes]) (by rw [hscopes]) (by rw [hscopes])
      (by rw [hscopes]) (by rw [hscopes])

end Work.Agrees

theorem Runs.check?_eq_none {mode : LoopMode} {one : Activity} {build build' : Build}
    (h : Runs mode (.activity one) build build') : one.check? = none := by
  cases h with
  | choice hne hall => exact emptyAmong?_eq_none_iff.mpr ⟨hne, hall⟩
  | directedChoice hne hkeys => exact check?_directedChoice_eq_none_iff.mpr ⟨hne, hkeys⟩
  | parallel hne hall => exact emptyAmong?_eq_none_iff.mpr ⟨hne, hall⟩
  | loop hne => exact check?_loop_eq_none_iff.mpr hne
  | recursion hne => exact check?_recursion_eq_none_iff.mpr hne
  | escape hne hne' hleading =>
      exact check?_escape_eq_none_iff.mpr ⟨hne, Compiler.leading?_isSome hne' hleading⟩
  | _ => rfl

theorem Runs.faults_eq_nil {mode : LoopMode} {work : Work} {build build' : Build}
    (h : Runs mode work build build') (hready : build.Ready work) {setting : Setting}
    (hagrees : work.Agrees build setting) : work.faults mode build setting = [] := by
  -- In each case the parts are compiled where the walk meets them, so that the faults of the whole
  -- are the own ones, which a run excludes, and those of the parts.
  induction h generalizing setting with
  | nil => rfl
  | @cons first rest build between final hfirst _ ih₁ ih₂ =>
      have hready₁ : build.Ready (.activity first) := { hready with opened := trivial }
      rw [Work.faults, faultsOf, List.append_eq_nil_iff]
      exact ⟨ih₁ hready₁ hagrees.first,
        ih₂ ((Descends.rest hfirst).ready hready) (hagrees.after hready₁ hfirst)⟩
  | interaction => rfl
  | @choice branches start build opened closing final hne hall hopen hbranches hclose ih =>
      have hcheck := (Runs.choice hne hall hopen hbranches hclose).check?_eq_none
      have hdescends : Descends mode (.activity (.choice branches)) build _ opened :=
        .choice hcheck hopen
      obtain ⟨hopened, hexit⟩ := hagrees.openChoice hopen
      have hfaults := ih (hdescends.ready hready) hopened
      rw [Work.faults, hexit] at hfaults
      rw [Work.faults, Activity.faults, hcheck]
      exact hfaults
  | @directedChoice sender receivers branches start build named₁ named₂ opened closing final hne
      hkeys hsender hreceivers hopen hbranches hclose ih =>
      have hcheck :=
        (Runs.directedChoice hne hkeys hsender hreceivers hopen hbranches hclose).check?_eq_none
      have hdescends : Descends mode (.activity (.directedChoice sender receivers branches)) build _
        opened := .directedChoice hcheck hsender hreceivers hopen
      obtain ⟨hopened, hexit⟩ := hagrees.openDirected hsender hreceivers hopen
      have hfaults := ih (hdescends.ready hready) hopened
      rw [Work.faults, hexit] at hfaults
      rw [Work.faults, Activity.faults, hcheck]
      exact hfaults
  | @parallel branches anchor join build opened closing final hne hall hopen hbranches hclose ih =>
      have hcheck := (Runs.parallel hne hall hopen hbranches hclose).check?_eq_none
      have hdescends : Descends mode (.activity (.parallel branches)) build _ opened :=
        .parallel hcheck hopen
      rw [Work.faults, Activity.faults, hcheck]
      exact ih (hdescends.ready hready) (hagrees.openParallel hopen)
  | @loop body head build opened closing final hne hopen hbody hclose ih =>
      have hcheck := (Runs.loop hne hopen hbody hclose).check?_eq_none
      rw [Work.faults, Activity.faults, hcheck]
      exact ih ((Descends.loop hcheck hopen).ready hready) (hagrees.openLoop hready hne hopen)
  | @recursion label body build opened closing final hne hopen hbody hclose ih =>
      have hcheck := (Runs.recursion hne hopen hbody hclose).check?_eq_none
      have hdescends : Descends mode (.activity (.recursion label body)) build _ opened :=
        .recursion hcheck hopen
      rw [Work.faults, Activity.faults, hcheck]
      exact ih (hdescends.ready hready) (hagrees.openRecursion hopen)
  | @call label build final hrun =>
      obtain ⟨start, hresolve, -⟩ := Compiler.call_eq_ok_iff.mp hrun
      have hcallable := (hagrees.callable_iff label).mpr (by simp [hresolve])
      rw [Work.faults, Activity.faults, if_pos hcallable]
  | @escape body handler role build named anchored armed handled final hne hne' hleading hrole hbody
      harm hhandler hdisarm ih₁ ih₂ =>
      have hcheck :=
        (Runs.escape hne hne' hleading hrole hbody harm hhandler hdisarm).check?_eq_none
      have hdescends : Descends mode (.activity (.escape body role handler)) build _ named :=
        .escapeBody hcheck hrole
      have hready₁ := hdescends.ready hready
      obtain ⟨hnamed, hpending, hanchored⟩ := hagrees.escapeAnchored hready₁ hrole hbody
      have harmed := (hanchored.armed_eq_false_iff hpending).mpr
        (Compiler.armInterrupt_eq_ok_iff.mp harm).1
      have hhandled : Descends mode (.activity (.escape body role handler)) build
          (.activities handler) armed := .escapeHandler hcheck hrole hbody harm
      have hbodyFaults := ih₁ hready₁ hnamed
      have hhandlerFaults := ih₂ (hhandled.ready hready) (hanchored.armInterrupt hpending harm)
      rw [Work.faults] at hbodyFaults hhandlerFaults
      simp [Work.faults, Activity.faults, hcheck, harmed, hbodyFaults, hhandlerFaults]
  | finish => rfl
  | choiceBranchesNil => rfl
  | @choiceBranchesCons start index branch rest build entered ended converged final henter hbranch
      hconverge hrest ih₁ ih₂ =>
      have hdescends : Descends mode (.choiceBranches start index (branch :: rest)) build _
        entered := .choiceBranch henter
      have hdescends' : Descends mode (.choiceBranches start index (branch :: rest)) build
          (.choiceBranches start (index + 1) rest) converged := .choiceRest henter hbranch hconverge
      obtain ⟨hexit, hconverged⟩ := hagrees.choiceRest hready henter hbranch hconverge
      have hfaults := ih₂ (hdescends'.ready hready) hconverged
      rw [Work.faults, hexit] at hfaults
      rw [Work.faults, faultsOfChoices, List.append_eq_nil_iff]
      exact ⟨ih₁ (hdescends.ready hready) (hagrees.choiceBranch henter), hfaults⟩
  | directedBranchesNil => rfl
  | @directedBranchesCons start index exchange body rest build entered selected registered ended
      converged final henter hselect hregister hbody hconverge hrest ih₁ ih₂ =>
      have hdescends : Descends mode (.directedBranches start index (.mk exchange body :: rest))
        build _ registered := .directedBranch henter hselect hregister
      have hdescends' : Descends mode (.directedBranches start index (.mk exchange body :: rest))
          build (.directedBranches start (index + 1) rest) converged :=
        .directedRest henter hselect hregister hbody hconverge
      obtain ⟨-, hregistered⟩ := hagrees.directedBranch hready henter hselect hregister
      obtain ⟨hexit, hconverged⟩ :=
        hagrees.directedRest hready henter hselect hregister hbody hconverge
      have hfaults := ih₂ (hdescends'.ready hready) hconverged
      rw [Work.faults, hexit] at hfaults
      rw [Work.faults, faultsOfDirected, List.append_eq_nil_iff]
      exact ⟨ih₁ (hdescends.ready hready) hregistered, hfaults⟩
  | parallelBranchesNil => rfl
  | @parallelBranchesCons anchor index branch rest build entered ended left final henter hbranch
      hleave hrest ih₁ ih₂ =>
      have hdescends : Descends mode (.parallelBranches anchor index (branch :: rest)) build _
        entered := .parallelBranch henter
      have hdescends' : Descends mode (.parallelBranches anchor index (branch :: rest)) build
          (.parallelBranches anchor (index + 1) rest) left := .parallelRest henter hbranch hleave
      rw [Work.faults, faultsOfRegions, List.append_eq_nil_iff]
      exact ⟨ih₁ (hdescends.ready hready) (hagrees.parallelBranch hready henter),
        ih₂ (hdescends'.ready hready) (hagrees.parallelRest hready henter hbranch hleave)⟩

/-- The faults of some work start with those of what the compiler gets to, as long as it has not
refused anything. -/
theorem Descends.faults {mode : LoopMode} {work work' : Work} {build build' : Build}
    (h : Descends mode work build work' build') (hready : build.Ready work) {setting : Setting}
    (hagrees : work.Agrees build setting) :
    ∃ setting', work'.Agrees build' setting' ∧
      work'.faults mode build' setting' <+: work.faults mode build setting := by
  cases h with
  | first => exact ⟨setting, hagrees.first, List.prefix_append _ _⟩
  | @rest first rest _ _ hfirst =>
      have hready₁ : build.Ready (.activity first) := { hready with opened := trivial }
      have hfaults := hfirst.faults_eq_nil hready₁ hagrees.first
      refine ⟨_, hagrees.after hready₁ hfirst, ?_⟩
      rw [Work.faults] at hfaults
      rw [Work.faults, Work.faults, faultsOf, hfaults]
      exact List.prefix_rfl
  | choice hcheck hopen =>
      obtain ⟨hopened, hexit⟩ := hagrees.openChoice hopen
      refine ⟨setting, hopened, ?_⟩
      rw [Work.faults, Work.faults, Activity.faults, hcheck, hexit]
      exact List.prefix_rfl
  | directedChoice hcheck hsender hreceivers hopen =>
      obtain ⟨hopened, hexit⟩ := hagrees.openDirected hsender hreceivers hopen
      refine ⟨setting, hopened, ?_⟩
      rw [Work.faults, Work.faults, Activity.faults, hcheck, hexit]
      exact List.prefix_rfl
  | parallel hcheck hopen =>
      refine ⟨_, hagrees.openParallel hopen, ?_⟩
      rw [Work.faults, Work.faults, Activity.faults, hcheck]
      exact List.prefix_rfl
  | loop hcheck hopen =>
      refine ⟨_, hagrees.openLoop hready (check?_loop_eq_none_iff.mp hcheck) hopen, ?_⟩
      rw [Work.faults, Work.faults, Activity.faults, hcheck]
      exact List.prefix_rfl
  | recursion hcheck hopen =>
      refine ⟨_, hagrees.openRecursion hopen, ?_⟩
      rw [Work.faults, Work.faults, Activity.faults, hcheck]
      exact List.prefix_rfl
  | escapeBody hcheck hrole =>
      refine ⟨setting, hagrees.escapeBody hrole, ?_⟩
      rw [Work.faults, Work.faults, Activity.faults, hcheck]
      exact List.prefix_append _ _
  | @escapeHandler body handler role _ named _ _ hcheck hrole hbody harm =>
      have hdescends : Descends mode (.activity (.escape body role handler)) build _ named :=
        .escapeBody hcheck hrole
      have hready' := hdescends.ready hready
      obtain ⟨hnamed, hpending, hanchored⟩ := hagrees.escapeAnchored hready' hrole hbody
      refine ⟨_, hanchored.armInterrupt hpending harm, ?_⟩
      have hfaults := hbody.faults_eq_nil hready' hnamed
      have harmed := (hanchored.armed_eq_false_iff hpending).mpr
        (Compiler.armInterrupt_eq_ok_iff.mp harm).1
      rw [Work.faults] at hfaults
      rw [Work.faults, Work.faults, Activity.faults, hcheck, hfaults, harmed]
      exact List.prefix_rfl
  | choiceBranch henter => exact ⟨setting, hagrees.choiceBranch henter, List.prefix_append _ _⟩
  | choiceRest henter hbranch hconverge =>
      obtain ⟨hexit, hconverged⟩ := hagrees.choiceRest hready henter hbranch hconverge
      have hfaults := hbranch.faults_eq_nil (hready.enterChoiceBranch rfl trivial henter)
        (hagrees.choiceBranch henter)
      refine ⟨_, hconverged, ?_⟩
      rw [Work.faults] at hfaults
      rw [Work.faults, Work.faults, faultsOfChoices, hfaults, hexit]
      exact List.prefix_rfl
  | directedSelection henter =>
      exact ⟨setting, hagrees.enterChoiceBranch hagrees.position_eq henter rfl, List.nil_prefix⟩
  | directedBranch henter hselect hregister =>
      obtain ⟨-, hregistered⟩ := hagrees.directedBranch hready henter hselect hregister
      exact ⟨_, hregistered, List.prefix_append _ _⟩
  | @directedRest start index exchange body rest _ _ _ registered _ _ henter hselect hregister hbody
      hconverge =>
      obtain ⟨-, hregistered⟩ := hagrees.directedBranch hready henter hselect hregister
      obtain ⟨hexit, hconverged⟩ :=
        hagrees.directedRest hready henter hselect hregister hbody hconverge
      have hdescends : Descends mode (.directedBranches start index (.mk exchange body :: rest))
        build _ registered := .directedBranch henter hselect hregister
      have hfaults := hbody.faults_eq_nil (hdescends.ready hready) hregistered
      refine ⟨_, hconverged, ?_⟩
      rw [Work.faults] at hfaults
      rw [Work.faults, Work.faults, faultsOfDirected, hfaults, hexit]
      exact List.prefix_rfl
  | parallelBranch henter =>
      exact ⟨_, hagrees.parallelBranch hready henter, List.prefix_append _ _⟩
  | @parallelRest anchor index branch rest _ entered _ _ henter hbranch hleave =>
      have hdescends : Descends mode (.parallelBranches anchor index (branch :: rest)) build _
        entered := .parallelBranch henter
      have hfaults := hbranch.faults_eq_nil (hdescends.ready hready)
        (hagrees.parallelBranch hready henter)
      refine ⟨_, hagrees.parallelRest hready henter hbranch hleave, ?_⟩
      rw [Work.faults] at hfaults
      rw [Work.faults, Work.faults, faultsOfRegions, hfaults]
      exact List.prefix_rfl

theorem Activity.head?_faults {mode : LoopMode} {one : Activity} {error : BuildError}
    (h : one.check? = some error) (setting : Setting) :
    (one.faults mode setting).head? = some error := by
  cases one <;> first | cases h | rw [Activity.faults, h]; rfl

/-- What the compiler refuses has the error as its first fault. -/
theorem Refuses.head?_faults {mode : LoopMode} {work : Work} {build : Build} {error : BuildError}
    (h : Refuses mode work build error) (hready : build.Ready work) {setting : Setting}
    (hagrees : work.Agrees build setting) :
    (work.faults mode build setting).head? = some error := by
  cases h with
  | check hcheck => exact Activity.head?_faults hcheck setting
  | @undefinedLabel label _ hresolve =>
      have hcallable : ¬ Callable label setting.scopes := by
        rw [hagrees.callable_iff, hresolve]
        simp
      rw [Work.faults, Activity.faults, if_neg hcallable]
      rfl
  | @interruptConflict body handler role _ named anchored hcheck hrole hbody hconflict =>
      have hdescends : Descends mode (.activity (.escape body role handler)) build _ named :=
        .escapeBody hcheck hrole
      have hready' := hdescends.ready hready
      obtain ⟨hnamed, hpending, hanchored⟩ := hagrees.escapeAnchored hready' hrole hbody
      have hfaults := hbody.faults_eq_nil hready' hnamed
      have harmed : (setting.afterAll mode body).armed = true := by
        rw [← Bool.not_eq_false, hanchored.armed_eq_false_iff hpending]
        exact Option.isSome_iff_ne_none.mp hconflict
      have hcursor : anchored.scopes.cursor = (setting.afterAll mode body).position.cursor :=
        congrArg Position.cursor hanchored.position_eq
      rw [Work.faults] at hfaults
      rw [Work.faults, Activity.faults, hcheck, hfaults, harmed, hcursor]
      rfl

theorem Reaches.faults {mode : LoopMode} {work work' : Work} {build build' : Build}
    (h : Reaches mode work build work' build') (hready : build.Ready work) {setting : Setting}
    (hagrees : work.Agrees build setting) :
    ∃ setting', work'.Agrees build' setting' ∧
      work'.faults mode build' setting' <+: work.faults mode build setting := by
  -- Nothing has been refused on the way, so the faults that remain stand in front.
  induction h generalizing setting with
  | refl => exact ⟨setting, hagrees, List.prefix_rfl⟩
  | head hdescends _ ih =>
      obtain ⟨between, hbetween, hprefix⟩ := hdescends.faults hready hagrees
      obtain ⟨setting', hagrees', hprefix'⟩ := ih (hdescends.ready hready) hbetween
      exact ⟨setting', hagrees', hprefix'.trans hprefix⟩

namespace Protocol

variable {protocol : Protocol} {options : CompileOptions}

theorem agrees_opening (protocol : Protocol) (list : List Activity) :
    (Work.activities list).Agrees protocol.opening .start := by
  have htracks : (Build.start false).Tracks Setting.start.scopes := ScopeStack.tracks_ofRoot _
  have hfresh := protocol.fresh_opening
  have hanchors : protocol.opening.anchors = [] := by
    obtain ⟨roles, hautomaton⟩ := hfresh.automaton_eq
    rw [Build.anchors, hautomaton, hfresh.pending_eq]
    rfl
  exact
    { position_eq := hfresh.position_eq
      cursor_lt := Nat.lt_succ_self _
      anchors_lt := by simp [hanchors]
      armed_iff := by simp [hanchors, Setting.start]
      tracks := htracks.addRoles _ }

theorem faults_eq_nil_of_compile {automaton : Automaton}
    (h : protocol.compile options = .ok automaton) : protocol.faults options.loops = [] := by
  obtain ⟨ended, hruns, -, -⟩ := exists_run_of_compile h
  rw [faults, if_neg (by simpa using activities_ne_nil_of_compile h)]
  exact hruns.faults_eq_nil (protocol.ready_opening _) (protocol.agrees_opening _)

theorem head?_faults_of_compile {error : BuildError}
    (h : protocol.compile options = .error error) :
    (protocol.faults options.loops).head? = some error := by
  rcases refused_of_compile h with ⟨hempty, rfl⟩ | ⟨hne, work, build, hreaches, hrefuses⟩
  · rw [faults, hempty]
    rfl
  · have hready := protocol.ready_opening protocol.activities
    obtain ⟨setting, hagrees, later, hprefix⟩ := hreaches.faults hready (protocol.agrees_opening _)
    have hhead := hrefuses.head?_faults (hreaches.ready hready) hagrees
    rw [faults, if_neg (by simpa using hne)]
    refine (congrArg List.head? hprefix.symm).trans ?_
    rw [List.head?_append, hhead]
    rfl

/-- A protocol compiles exactly if it has no faults, and otherwise its compilation fails with the
first of them. -/
theorem compile_iff_faults (protocol : Protocol) (options : CompileOptions) :
    ((∃ automaton, protocol.compile options = .ok automaton) ↔
        protocol.faults options.loops = []) ∧
      ∀ error, protocol.compile options = .error error ↔
        (protocol.faults options.loops).head? = some error := by
  cases hcompile : protocol.compile options with
  | ok automaton =>
      have hfaults := faults_eq_nil_of_compile hcompile
      simp [hfaults]
  | error found =>
      have hhead := head?_faults_of_compile hcompile
      have hne : protocol.faults options.loops ≠ [] := by
        intro hfaults
        rw [hfaults] at hhead
        cases hhead
      simp [hhead, hne]

end Protocol

/-- The first call is of a label that an inner recursion has taken over, the second one is in a
parallel branch, beside an empty one, and the third is no handler. -/
def oversights : Protocol :=
  .bare "Oversights"
    [.recursion "again"
      [.recursion "nested"
          [.recursion "again" [.interaction (.bare .receive (some "order") ⟨"Buyer"⟩)],
            .call "again"],
        .parallel [[.call "again"], []],
        .escape [.finish] ⟨"Buyer"⟩ [.call "again"]]]

theorem oversights_faults :
    oversights.faults .once =
      [.undefinedLabel "again", .emptyList .parallelBranch, .undefinedLabel "again",
        .ambiguousHandler .call] ∧
      oversights.compile ⟨.once⟩ = .error (.undefinedLabel "again") := by
  have hfaults : oversights.faults .once =
      [.undefinedLabel "again", .emptyList .parallelBranch, .undefinedLabel "again",
        .ambiguousHandler .call] := by
    decide +kernel
  exact ⟨hfaults, ((Protocol.compile_iff_faults oversights ⟨.once⟩).2 _).mpr (by rw [hfaults]; rfl)⟩

end Conversation

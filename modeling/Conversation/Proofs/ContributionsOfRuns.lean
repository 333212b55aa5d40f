import Conversation.Proofs.Contribution
import Conversation.Proofs.Verdict
import Conversation.Proofs.WellFormed

namespace Conversation

/-- The compilation gets from `build` to `build'`, extends the automaton under construction by the
contribution, and refers to some roles on the way. -/
structure Build.Contributes (build : Build) (contribution : Contribution) (names : List Role)
    (build' : Build) : Prop where
  automaton_eq : build'.scopes.automaton = build.scopes.automaton.extend contribution
  roles_eq : build'.roles = names.foldl appendNew build.roles

namespace Build

section Roles

variable (build : Build)

@[simp] theorem roles_record (event : Event) : (build.record event).roles = build.roles := by
  rw [record]
  split <;> rfl

@[simp] theorem roles_modifyScopes (change : ScopeStack → ScopeStack) :
    (build.modifyScopes change).roles = build.roles := rfl

@[simp] theorem roles_newState : build.newState.2.roles = build.roles := rfl

@[simp] theorem roles_connect (transition : Transition) :
    (build.connect transition).roles = build.roles := roles_record _ _

@[simp] theorem roles_markFinal (state : State) : (build.markFinal state).roles = build.roles :=
  roles_record _ _

end Roles

/-- The anchor of the interrupt that is pending. -/
def dueAnchor (build : Build) : Option State :=
  build.pending.map PendingInterrupt.anchor

theorem dueAnchor_eq_none {build : Build} (h : build.pending = none) : build.dueAnchor = none := by
  rw [dueAnchor, h]
  rfl

namespace Contributes

variable {build build' build'' : Build} {contribution contribution' : Contribution}
  {names names' : List Role}

/-- The form of all actions that add nothing. -/
theorem of_eq (hautomaton : build'.scopes.automaton = build.scopes.automaton)
    (hroles : build'.roles = build.roles) : build.Contributes .empty [] build' where
  automaton_eq := by rw [hautomaton, Automaton.extend_empty]
  roles_eq := hroles

theorem refl (build : Build) : build.Contributes .empty [] build := of_eq rfl rfl

theorem trans (h : build.Contributes contribution names build')
    (h' : build'.Contributes contribution' names' build'') :
    build.Contributes (contribution ++ contribution') (names ++ names') build'' where
  automaton_eq := by rw [h'.automaton_eq, h.automaton_eq, Automaton.extend_append]
  roles_eq := by rw [h'.roles_eq, h.roles_eq, List.foldl_append]

theorem adjust (h : build.Contributes contribution names build')
    (hautomaton : build''.scopes.automaton = build'.scopes.automaton)
    (hroles : build''.roles = build'.roles) : build.Contributes contribution names build'' where
  automaton_eq := hautomaton.trans h.automaton_eq
  roles_eq := hroles.trans h.roles_eq

theorem record (h : build.Contributes contribution names build') (event : Event) :
    build.Contributes contribution names (build'.record event) :=
  h.adjust (by rw [scopes_record]) (roles_record _ _)

theorem modifyScopes (h : build.Contributes contribution names build')
    (change : ScopeStack → ScopeStack)
    (hchange : (change build'.scopes).automaton = build'.scopes.automaton) :
    build.Contributes contribution names (build'.modifyScopes change) :=
  h.adjust hchange rfl

theorem extend (h : build.Contributes contribution names build')
    (hautomaton : build''.scopes.automaton = build'.scopes.automaton.extend contribution')
    (hroles : build''.roles = build'.roles) :
    build.Contributes (contribution ++ contribution') names build'' where
  automaton_eq := by rw [hautomaton, h.automaton_eq, Automaton.extend_append]
  roles_eq := hroles.trans h.roles_eq

theorem newState (h : build.Contributes contribution names build') :
    build.Contributes (contribution ++ .place build'.arena.next) names build'.newState.2 :=
  h.extend (Automaton.extend_place _ _).symm rfl

theorem connect (h : build.Contributes contribution names build') (transition : Transition) :
    build.Contributes (contribution ++ .edge transition) names (build'.connect transition) := by
  refine h.extend ?_ (roles_connect _ _)
  rw [scopes_connect, Automaton.extend_edge]
  rfl

theorem markFinal (h : build.Contributes contribution names build') (state : State) :
    build.Contributes (contribution ++ .mark state) names (build'.markFinal state) := by
  refine h.extend ?_ (roles_markFinal _ _)
  rw [scopes_markFinal, Automaton.extend_mark]
  rfl

theorem addRoles (h : build.Contributes contribution names build') (roles : List Role) :
    build.Contributes (contribution ++ .name roles) (names ++ roles)
      (roles.foldl Build.addRole build') := by
  refine h.trans ⟨?_, ?_⟩
  · rw [Automaton.extend_name]
    clear h
    induction roles generalizing build' with
    | nil => rfl
    | cons role rest ih => exact ih
  · clear h
    induction roles generalizing build' with
    | nil => rfl
    | cons role rest ih => exact ih

theorem registerDispatch (h : build.Contributes contribution names build') {state : State}
    {key : DispatchKey} {final : Build}
    (hrun : Compiler.registerDispatch state key build' = .ok () final) :
    build.Contributes (contribution ++ .select state ⟨key, build'.scopes.cursor⟩) names final := by
  rw [Compiler.registerDispatch_eq] at hrun
  cases hrun
  apply record
  exact h.extend (Automaton.extend_select _ _ _).symm rfl

theorem interaction {exchange : Interaction} {final : Build}
    (hready : build.Ready (.activity (.interaction exchange)))
    (hrun : Compiler.interaction exchange build = .ok () final) :
    build.Contributes (exchange.contribution build.dueAnchor build.position) [exchange.partner]
      final := by
  obtain ⟨registered, hregister, rfl⟩ := Compiler.interaction_eq_ok_iff.mp hrun
  have hnamed := (refl build).newState.addRoles [exchange.partner]
  refine .modifyScopes (.connect ?_ _) _ rfl
  rcases Compiler.registerInterrupt_eq_ok_iff.mp hregister with
    ⟨hforeign, rfl⟩ | ⟨anchor, hpending, -, rfl⟩
  · have hidle : build.pending = none := by
      cases hpending : build.pending with
      | none => rfl
      | some pending => exact absurd (hready.owner_eq _ hpending) (hforeign _ hpending)
    rw [dueAnchor_eq_none hidle]
    exact hnamed.extend (Automaton.extend_interrupt_none _ _).symm rfl
  · have hdue : build.dueAnchor = some anchor := congrArg (Option.map _) hpending
    rw [hdue]
    apply record
    exact hnamed.extend (Automaton.extend_interrupt_some _ _ _).symm rfl

theorem openChoice (h : build.Contributes contribution names build') {branches : Nat}
    {start : State} {opened : Build}
    (hrun : Compiler.openChoice branches build' = .ok start opened) :
    build.Contributes contribution names opened := by
  rw [Compiler.openChoice_eq] at hrun
  cases hrun
  exact (h.record _).modifyScopes _ rfl

theorem closeChoice (h : build.Contributes contribution names build') {start : State}
    {final : Build} (hrun : Compiler.closeChoice start build' = .ok () final) :
    build.Contributes contribution names final := by
  rw [Compiler.closeChoice_eq] at hrun
  cases hrun
  exact (h.modifyScopes _ rfl).record _

theorem enterChoiceBranch (h : build.Contributes contribution names build') {index : Nat}
    {start : State} {entered : Build}
    (hrun : Compiler.enterChoiceBranch index start build' = .ok () entered) :
    build.Contributes contribution names entered := by
  rw [Compiler.enterChoiceBranch_eq] at hrun
  cases hrun
  exact (h.modifyScopes _ rfl).record _

theorem converge {converged : Build} {exit : Option State}
    (h : build.Contributes contribution names build') (hexit : build'.exit? = exit)
    (hrun : Compiler.converge build' = .ok () converged) :
    build.Contributes (contribution ++ build'.position.joining exit) names converged := by
  cases exit with
  | none =>
      rw [Compiler.converge_of_none hexit] at hrun
      cases hrun
      have hscopes : (build'.newState.2.scopes.setChoiceExit build'.arena.next).cursor =
          build'.scopes.cursor :=
        ScopeStack.cursor_setChoiceExit _
      have hconnected := (h.newState.modifyScopes
        (fun scopes => scopes.setChoiceExit build'.arena.next)
        (ScopeStack.automaton_setChoiceExit _)).connect
          (.silent build'.scopes.cursor build'.arena.next)
      change build.Contributes _ names ((build'.newState.2.modifyScopes fun scopes =>
        scopes.setChoiceExit build'.arena.next).connect
          (.silent (build'.newState.2.scopes.setChoiceExit build'.arena.next).cursor _))
      rw [hscopes, Position.joining, ← Contribution.append_assoc]
      exact hconnected
  | some exit =>
      rw [Compiler.converge_of_some hexit] at hrun
      cases hrun
      exact h.connect _

theorem openLoop {mode : LoopMode} {head : State} {opened : Build}
    (h : build.Contributes contribution names build')
    (hopen : Compiler.openLoop mode build' = .ok head opened) :
    build.Contributes (contribution ++ build'.position.openingLoop mode) names opened ∧
      head = (build'.position.enterLoop mode).cursor := by
  cases mode with
  | once =>
      rw [Compiler.openLoop_once_eq] at hopen
      cases hopen
      rw [Position.openingLoop, Contribution.append_empty]
      exact ⟨h.record _, rfl⟩
  | loop =>
      rw [Compiler.openLoop_loop_eq] at hopen
      cases hopen
      rw [Position.openingLoop, ← Contribution.append_assoc]
      exact ⟨((h.newState.connect _).modifyScopes _ rfl).record _, rfl⟩

theorem closeLoop {mode : LoopMode} {head : State} {final : Build}
    (h : build.Contributes contribution names build')
    (hclose : Compiler.closeLoop mode head build' = .ok () final) :
    build.Contributes (contribution ++ build'.position.closingLoop head mode) names final := by
  cases mode with
  | once =>
      rw [Compiler.closeLoop_once_eq] at hclose
      cases hclose
      rw [Position.closingLoop, Contribution.append_empty]
      exact h.record _
  | loop =>
      rw [Compiler.closeLoop_loop_eq] at hclose
      cases hclose
      exact (h.connect _).record _

end Contributes

/-- Where a branch of a choice is joined to the exit, labels are resolved as before, and the next
branch goes on where its position says. -/
theorem Suits.converge {starts : Starts} {build ended converged : Build}
    (h : ended.Suits starts) (mode : LoopMode) (start : State) (hpending : ended.pending = none)
    (hchoices : ended.scopes.current.choices = build.scopes.current.choices)
    (hopened : build.scopes.current.choices ≠ [])
    (hrun : Compiler.converge ended = .ok () converged) :
    converged.Suits starts ∧ ended.exit? = build.exit? ∧
      converged.exit? = some (ended.position.exit build.exit?) ∧
      converged.arena.next = (ended.position.resume build.exit? start).next := by
  have hexit : ended.exit? = build.exit? := by
    rw [Build.exit?, ScopeStack.choice, hchoices]
    rfl
  obtain ⟨-, -, -, -, hexit', hnext⟩ := (Registers.refl mode ended).converge start hpending h.level
    rfl (hchoices ▸ hopened) hrun
  rw [hexit] at hexit' hnext
  refine ⟨?_, hexit, hexit', hnext⟩
  obtain ⟨⟨entry, exit⟩, choices, hcons⟩ := List.exists_cons_of_ne_nil hopened
  have hended := ended.grows_refl
  rw [hchoices, hcons] at hended
  cases exit with
  | none => exact h.grows (hended.converge_none [] hrun)
  | some exit => exact h.grows (hended.converge_some hrun)

end Build

theorem Compiler.roles_leaveParallelBranch {index : Nat} {anchor : State} {build final : Build}
    (h : leaveParallelBranch index anchor build = .ok () final) : final.roles = build.roles := by
  have hcompleted : build.complete.roles = build.roles := by simp [Build.complete]
  rw [leaveParallelBranch_eq, Build.leaveBranch] at h
  cases hexit : build.complete.scopes.exitBranch with
  | none =>
      rw [hexit] at h
      cases h
      exact hcompleted
  | some closed =>
      rw [hexit] at h
      cases h
      rw [Build.roles_record, ← hcompleted]
      rfl

theorem Compiler.roles_closeRecursion {label : String} {build final : Build}
    (h : closeRecursion label build = .ok () final) : final.roles = build.roles := by
  rw [closeRecursion, Builder.get_bind] at h
  cases hexit : build.scopes.exitRecursion with
  | none =>
      simp only [hexit] at h
      cases h
      simp
  | some closed =>
      simp only [hexit] at h
      cases h
      simp

def Work.contribution (mode : LoopMode) (starts : Starts) (build : Build) : Work → Contribution
  | .activity one => one.contribution mode starts build.dueAnchor build.position
  | .activities list => contributionOf mode starts list build.dueAnchor build.position
  | .choiceBranches start _ branches =>
      contributionOfChoices mode starts build.exit? branches ⟨build.arena.next, start⟩
  | .directedBranches start _ branches =>
      contributionOfDirected mode starts build.exit? branches ⟨build.arena.next, start⟩
  | .parallelBranches anchor _ branches =>
      contributionOfRegions mode anchor branches build.arena.next

def Work.references : Work → List Role
  | .activity one => one.references true
  | .activities list => referencesOf true list
  | .choiceBranches _ _ branches => referencesOfBranches true branches
  | .directedBranches _ _ branches => referencesOfDirected true branches
  | .parallelBranches _ _ branches => referencesOfBranches true branches

namespace Work

variable {mode : LoopMode} {starts : Starts} {build opened closing final : Build}

def Contributes (mode : LoopMode) (work : Work) (build build' : Build) : Prop :=
  ∀ starts, build.Suits starts → build.Ready work →
    build.Contributes (work.contribution mode starts build) work.references build'

namespace Contributes

theorem choice {branches : List (List Activity)} {start : State}
    (hopen : Compiler.openChoice branches.length build = .ok start opened)
    (hready : opened.Ready (.choiceBranches start 0 branches))
    (hbranches : (Work.choiceBranches start 0 branches).Contributes mode opened closing)
    (hclose : Compiler.closeChoice start closing = .ok () final)
    (hsuits : build.Suits starts) :
    build.Contributes ((Work.activity (.choice branches)).contribution mode starts build)
      (Work.activity (.choice branches)).references final := by
  obtain ⟨-, hgrows⟩ := build.grows_refl.openChoice hopen
  obtain ⟨-, -, hexit, hposition, -, -⟩ := Compiler.openChoice_eq_ok mode hopen
  have hall := hbranches starts (hsuits.grows hgrows) hready
  rw [Work.contribution, hexit, hposition] at hall
  exact (((Build.Contributes.refl build).openChoice hopen).trans hall).closeChoice hclose

theorem directedChoice {sender : Role} {receivers : List Role} {branches : List DirectedBranch}
    {named₁ named₂ : Build} {start : State}
    (hsender : Compiler.addRole sender build = .ok () named₁)
    (hreceivers : Compiler.addRoles receivers named₁ = .ok () named₂)
    (hopen : Compiler.openChoice branches.length named₂ = .ok start opened)
    (hready : opened.Ready (.directedBranches start 0 branches))
    (hbranches : (Work.directedBranches start 0 branches).Contributes mode opened closing)
    (hclose : Compiler.closeChoice start closing = .ok () final)
    (hsuits : build.Suits starts) :
    build.Contributes
      ((Work.activity (.directedChoice sender receivers branches)).contribution mode starts build)
      (Work.activity (.directedChoice sender receivers branches)).references final := by
  have hnamed := (build.grows_refl.addRole hsender).addRoles hreceivers
  obtain ⟨-, hgrows⟩ := named₂.grows_refl.openChoice hopen
  obtain ⟨-, -, hexit, hposition, -, -⟩ := Compiler.openChoice_eq_ok mode hopen
  have hall := hbranches starts ((hsuits.grows hnamed).grows hgrows) hready
  rw [Work.contribution, hexit, hposition, hnamed.position_eq] at hall
  have hnames : build.Contributes (.name (sender :: receivers)) (sender :: receivers) named₂ := by
    rw [Compiler.addRoles_eq] at hreceivers
    cases hsender
    cases hreceivers
    exact (Build.Contributes.refl build).addRoles (sender :: receivers)
  exact ((hnames.openChoice hopen).trans hall).closeChoice hclose

theorem parallel {branches : List (List Activity)} {anchor join : State}
    (hopen : Compiler.openParallel branches.length build = .ok (anchor, join) opened)
    (hready : opened.Ready (.parallelBranches anchor 0 branches))
    (hbranches : (Work.parallelBranches anchor 0 branches).Contributes mode opened closing)
    (hclose : Compiler.closeParallel anchor join closing = .ok () final)
    (hsuits : build.Suits starts) :
    build.Contributes ((Work.activity (.parallel branches)).contribution mode starts build)
      (Work.activity (.parallel branches)).references final := by
  obtain ⟨rfl, rfl, hgrows⟩ := build.grows_refl.openParallel [] hopen
  have hall := hbranches starts (hsuits.grows hgrows) hready
  rw [Work.contribution, hgrows.next_eq] at hall
  rw [Compiler.openParallel_eq] at hopen
  cases hopen
  cases hclose
  have hopened := (Build.Contributes.refl build).newState.record
    (.parallelEntered build.scopes.cursor build.arena.next branches.length)
  exact (((hopened.trans hall).connect _).modifyScopes _ rfl).record _

theorem loop {body : List Activity} {head : State} (hne : body ≠ [])
    (hopen : Compiler.openLoop mode build = .ok head opened)
    (hruns : Runs mode (.activities body) opened closing)
    (hbody : (Work.activities body).Contributes mode opened closing)
    (hclose : Compiler.closeLoop mode head closing = .ok () final)
    (hsuits : build.Suits starts) (hready : build.Ready (.activity (.loop body))) :
    build.Contributes ((Work.activity (.loop body)).contribution mode starts build)
      (Work.activity (.loop body)).references final := by
  obtain ⟨hready', -, hpending, hposition⟩ := hready.openLoop hne hopen
  obtain ⟨hopened, rfl⟩ := (Build.Contributes.refl build).openLoop hopen
  obtain ⟨piece, hgrows⟩ := hruns.grows_of_activities hready'.level
  have hsuits' : opened.Suits starts := by
    cases mode with
    | once => exact hsuits.grows (build.grows_refl.openLoop_once hopen)
    | loop => exact hsuits.grows (build.grows_refl.openLoop_loop [] hopen).2
  have hall := (hopened.trans (hbody starts hsuits' hready')).closeLoop hclose
  rw [Work.contribution, Build.dueAnchor, hpending, hgrows.position_eq, hposition] at hall
  exact hall

theorem recursion {label : String} {body : List Activity} (hne : body ≠ [])
    (hopen : Compiler.openRecursion label build = .ok () opened)
    (hruns : Runs mode (.activities body) opened closing)
    (hbody : (Work.activities body).Contributes mode opened closing)
    (hclose : Compiler.closeRecursion label closing = .ok () final)
    (hsuits : build.Suits starts) (hready : build.Ready (.activity (.recursion label body))) :
    build.Contributes ((Work.activity (.recursion label body)).contribution mode starts build)
      (Work.activity (.recursion label body)).references final := by
  obtain ⟨hready', -, hpending, hposition⟩ := hready.openRecursion mode hne hopen
  obtain ⟨piece, hgrows⟩ := hruns.grows_of_activities hready'.level
  obtain ⟨-, -, hautomaton⟩ := Compiler.closeRecursion_eq_ok hopen hgrows hclose
  have hroles : final.roles = closing.roles := Compiler.roles_closeRecursion hclose
  have hall := hbody _ (hsuits.within hopen) hready'
  rw [Work.contribution, Build.dueAnchor, hpending, hposition] at hall
  rw [Compiler.openRecursion_eq] at hopen
  cases hopen
  have hopened := ((Build.Contributes.refl build).modifyScopes
    (fun scopes => scopes.enterRecursion label build.scopes.cursor) rfl).record
      (.recursionEntered label build.scopes.cursor)
  exact (hopened.trans hall).adjust hautomaton hroles

theorem call {label : String} (hrun : Compiler.call label build = .ok () final)
    (hsuits : build.Suits starts) :
    build.Contributes ((Work.activity (.call label)).contribution mode starts build)
      (Work.activity (.call label)).references final := by
  obtain ⟨start, hresolve, rfl⟩ := Compiler.call_eq_ok_iff.mp hrun
  have hconnected := (Build.Contributes.refl build).connect (.silent build.scopes.cursor start)
  have hcalled := hconnected.record (.recursionCalled label start)
  have hplaced := hcalled.newState.modifyScopes
    (fun scopes => scopes.setCursor build.arena.next) rfl
  rw [Work.contribution, Activity.contribution, hsuits.resolves label start hresolve]
  simp only [Build.arena_record, Build.arena_connect] at hplaced ⊢
  exact hplaced

theorem escape {body handler : List Activity} {role : Role}
    {named anchored armed handled : Build}
    (hrole : Compiler.addRole role build = .ok () named)
    (hruns : Runs mode (.activities body) named anchored)
    (hready₁ : named.Ready (.activities body))
    (hbody : (Work.activities body).Contributes mode named anchored)
    (harm : Compiler.armInterrupt role anchored = .ok () armed)
    (hready₂ : armed.Ready (.activities handler))
    (hhandler : (Work.activities handler).Contributes mode armed handled)
    (hdisarm : Compiler.disarmInterrupt handled = .ok () final)
    (hsuits : build.Suits starts) (hready : build.Ready (.activity (.escape body role handler))) :
    build.Contributes ((Work.activity (.escape body role handler)).contribution mode starts build)
      (Work.activity (.escape body role handler)).references final := by
  have hgrows := build.grows_refl.addRole hrole
  obtain ⟨piece, hgrows₁⟩ := hruns.grows_of_activities hready₁.level
  have hgrows₂ := anchored.grows_refl.armInterrupt harm
  have hsuits₁ := hsuits.grows hgrows
  have h₁ := hbody starts hsuits₁ hready₁
  have h₂ := hhandler starts ((hsuits₁.grows hgrows₁).grows hgrows₂) hready₂
  have hnames : build.Contributes (.name [role]) [role] named := by
    cases hrole
    exact (Build.Contributes.refl build).addRoles [role]
  have hidle : named.dueAnchor = none := by
    cases hrole
    exact Build.dueAnchor_eq_none (hready.pending_eq_none rfl)
  have harmed : anchored.Contributes (.mark anchored.scopes.cursor) [] armed ∧
      armed.dueAnchor = some anchored.scopes.cursor := by
    obtain ⟨-, rfl⟩ := Compiler.armInterrupt_eq_ok_iff.mp harm
    refine ⟨((Build.Contributes.refl anchored).markFinal anchored.scopes.cursor).adjust ?_ ?_, ?_⟩
    · rw [Build.scopes_record]
    · rw [Build.roles_record]
    · rw [Build.dueAnchor, Build.pending_record]
      rfl
  have hposition : anchored.position = afterAll mode body build.position := by
    rw [hgrows₁.position_eq, hgrows.position_eq]
    rfl
  have hcursor : anchored.scopes.cursor = (afterAll mode body build.position).cursor :=
    congrArg Position.cursor hposition
  rw [Work.contribution, hidle, hgrows.position_eq] at h₁
  rw [Work.contribution, harmed.2, hgrows₂.position_eq] at h₂
  have hall := ((hnames.trans h₁).trans harmed.1).trans h₂
  rw [List.append_nil] at hall
  cases hdisarm
  rw [Work.contribution, Activity.contribution, ← hposition]
  exact hall.adjust rfl rfl

theorem choiceBranch {start : State} {index : Nat} {branch : List Activity}
    {rest : List (List Activity)} {entered ended converged : Build}
    (henter : Compiler.enterChoiceBranch index start build = .ok () entered)
    (hruns : Runs mode (.activities branch) entered ended)
    (hready₁ : entered.Ready (.activities branch))
    (hbranch : (Work.activities branch).Contributes mode entered ended)
    (hconverge : Compiler.converge ended = .ok () converged)
    (hready₂ : converged.Ready (.choiceBranches start (index + 1) rest))
    (hrest : (Work.choiceBranches start (index + 1) rest).Contributes mode converged final)
    (hsuits : build.Suits starts)
    (hready : build.Ready (.choiceBranches start index (branch :: rest))) :
    build.Contributes
      ((Work.choiceBranches start index (branch :: rest)).contribution mode starts build)
      (Work.choiceBranches start index (branch :: rest)).references final := by
  have hgrows := build.grows_refl.enterChoiceBranch henter
  obtain ⟨piece, hgrows₁⟩ := hruns.grows_of_activities hready₁.level
  have hidle : entered.pending = none :=
    (Build.Registers.enterChoiceBranch mode (hready.pending_eq_none rfl) henter).2
  have hchoices := hgrows₁.choices_eq.trans hgrows.choices_eq
  have hsuits₁ := hsuits.grows hgrows
  have h₁ := hbranch starts hsuits₁ hready₁
  obtain ⟨hsuits₂, hexit, hexit₂, hnext₂⟩ := (hsuits₁.grows hgrows₁).converge mode start
    (hruns.registers hready₁).1 hchoices hready.opened hconverge
  have h₂ := hrest starts hsuits₂ hready₂
  have hposition : ended.position = afterAll mode branch ⟨build.arena.next, start⟩ := by
    rw [hgrows₁.position_eq, hgrows.position_eq]
  rw [Work.contribution, Build.dueAnchor_eq_none hidle, hgrows.position_eq] at h₁
  rw [Work.contribution, hexit₂, hnext₂] at h₂
  have hentered := (Build.Contributes.refl build).enterChoiceBranch henter
  have hall := ((hentered.trans h₁).converge hexit hconverge).trans h₂
  rw [Work.contribution, contributionOfChoices, ← hposition]
  exact hall

theorem directedBranch {start : State} {index : Nat} {exchange : Interaction}
    {body : List Activity} {rest : List DirectedBranch}
    {entered selected registered ended converged : Build}
    (henter : Compiler.enterChoiceBranch index start build = .ok () entered)
    (hready₀ : entered.Ready (.activity (.interaction exchange)))
    (hselect : Compiler.interaction exchange entered = .ok () selected)
    (hregister : Compiler.registerDispatch start exchange.dispatchKey selected = .ok () registered)
    (hruns : Runs mode (.activities body) registered ended)
    (hready₁ : registered.Ready (.activities body))
    (hbody : (Work.activities body).Contributes mode registered ended)
    (hconverge : Compiler.converge ended = .ok () converged)
    (hready₂ : converged.Ready (.directedBranches start (index + 1) rest))
    (hrest : (Work.directedBranches start (index + 1) rest).Contributes mode converged final)
    (hsuits : build.Suits starts)
    (hready : build.Ready (.directedBranches start index (.mk exchange body :: rest))) :
    build.Contributes
      ((Work.directedBranches start index (.mk exchange body :: rest)).contribution mode starts
        build)
      (Work.directedBranches start index (.mk exchange body :: rest)).references final := by
  have hgrows := build.grows_refl.enterChoiceBranch henter
  have hselected := hgrows.interaction [] hselect
  have hregistered := hselected.registerDispatch hregister
  obtain ⟨piece, hgrows₁⟩ := hruns.grows_of_activities hready₁.level
  have hidle : entered.pending = none :=
    (Build.Registers.enterChoiceBranch mode (hready.pending_eq_none rfl) henter).2
  have hidle₁ : registered.pending = none := by
    obtain ⟨_, hselect', hidle', -, -⟩ := hready₀.interaction mode
    rw [hselect] at hselect'
    cases hselect'
    rw [Compiler.registerDispatch_eq] at hregister
    cases hregister
    exact (Build.pending_record _ _).trans hidle'
  have hchoices := hgrows₁.choices_eq.trans hregistered.choices_eq
  have hsuits₁ := hsuits.grows hregistered
  have h₀ := Build.Contributes.interaction hready₀ hselect
  have h₁ := hbody starts hsuits₁ hready₁
  obtain ⟨hsuits₂, hexit, hexit₂, hnext₂⟩ := (hsuits₁.grows hgrows₁).converge mode start
    (hruns.registers hready₁).1 hchoices hready.opened hconverge
  have h₂ := hrest starts hsuits₂ hready₂
  have hposition : ended.position = afterAll mode body (.fresh build.arena.next) := by
    rw [hgrows₁.position_eq, hregistered.position_eq]
    rfl
  rw [Build.dueAnchor_eq_none hidle, hgrows.position_eq] at h₀
  rw [Work.contribution, Build.dueAnchor_eq_none hidle₁, hregistered.position_eq] at h₁
  rw [Work.contribution, hexit₂, hnext₂] at h₂
  have hentered := (Build.Contributes.refl build).enterChoiceBranch henter
  have hdispatched := (hentered.trans h₀).registerDispatch hregister
  rw [hselected.cursor_eq] at hdispatched
  have hall := ((hdispatched.trans h₁).converge hexit hconverge).trans h₂
  rw [Work.contribution, contributionOfDirected, ← hposition]
  exact hall

theorem parallelBranch {anchor : State} {index : Nat} {branch : List Activity}
    {rest : List (List Activity)} {entered ended left : Build}
    (henter : Compiler.enterParallelBranch anchor build = .ok () entered)
    (hruns : Runs mode (.activities branch) entered ended)
    (hready₁ : entered.Ready (.activities branch))
    (hbranch : (Work.activities branch).Contributes mode entered ended)
    (hleave : Compiler.leaveParallelBranch index anchor ended = .ok () left)
    (hready₂ : left.Ready (.parallelBranches anchor (index + 1) rest))
    (hrest : (Work.parallelBranches anchor (index + 1) rest).Contributes mode left final)
    (hsuits : build.Suits starts)
    (hready : build.Ready (.parallelBranches anchor index (branch :: rest))) :
    build.Contributes
      ((Work.parallelBranches anchor index (branch :: rest)).contribution mode starts build)
      (Work.parallelBranches anchor index (branch :: rest)).references final := by
  have hfresh := hready.level.fresh (hready.pending_eq_none rfl) henter
  obtain ⟨piece, hgrows⟩ := hruns.grows_of_activities hfresh.level
  obtain ⟨hnext, -, hscopes⟩ := Compiler.leaveParallelBranch_eq_of_grows henter hgrows hleave
  obtain ⟨_, -, hgrows'⟩ := Compiler.grows_of_parallelBranch henter hgrows hleave
  have hposition : ended.position = afterAll mode branch (.fresh build.arena.next) := by
    rw [hgrows.position_eq, hfresh.position_eq]
  have h₁ := hbranch _ (hsuits.branch henter) hready₁
  have h₂ := hrest starts (hsuits.grows hgrows') hready₂
  rw [Work.contribution, Build.dueAnchor_eq_none hfresh.pending_eq, hfresh.position_eq] at h₁
  rw [Work.contribution, hnext] at h₂
  have hroles : ended.roles = (referencesOf true branch).foldl appendNew build.roles := by
    rw [h₁.roles_eq]
    cases henter
    rfl
  have hautomaton : ended.scopes.automaton.complete ended.scopes.cursor ended.arena.next =
      (contributionOf mode (fun _ => none) branch none (.fresh build.arena.next)).automaton
        build.arena.next ended.position := by
    rw [h₁.automaton_eq]
    cases henter
    rfl
  have hleft : build.Contributes
      (.branch anchor ((contributionOf mode (fun _ => none) branch none
        (.fresh build.arena.next)).automaton build.arena.next ended.position))
      (referencesOf true branch) left := by
    constructor
    · rw [hscopes, Automaton.extend_branch, ← hautomaton]
    · rw [Compiler.roles_leaveParallelBranch hleave, hroles]
  rw [Work.contribution, contributionOfRegions, ← hposition]
  exact hleft.trans h₂

end Contributes

end Work

/-- A run extends the automaton under construction by the contribution of its work. -/
theorem Runs.contributes {mode : LoopMode} {work : Work} {build build' : Build}
    (h : Runs mode work build build') : work.Contributes mode build build' := by
  -- The open scopes matter for the targets of calls only, and a pending interrupt for the first
  -- interaction only.
  induction h with
  | nil | choiceBranchesNil | directedBranchesNil | parallelBranchesNil =>
      exact fun _ _ _ => .refl _
  | @cons first rest build between final hfirst hrest ih₁ ih₂ =>
      intro starts hsuits hready
      have hready₁ : build.Ready (.activity first) := { hready with opened := trivial }
      obtain ⟨piece, hgrows⟩ := hfirst.grows_of_activity hready.level
      have hready₂ := Descends.ready (.rest hfirst) hready
      have h₂ := ih₂ starts (hsuits.grows hgrows) hready₂
      rw [Work.contribution, Build.dueAnchor_eq_none (hfirst.registers hready₁).1,
        hgrows.position_eq] at h₂
      exact (ih₁ starts hsuits hready₁).trans h₂
  | interaction hrun => exact fun _ _ hready => .interaction hready hrun
  | choice hne hall hopen hbranches hclose ih =>
      intro starts hsuits hready
      have hcheck := (Runs.choice hne hall hopen hbranches hclose).check?_eq_none
      have hready' := @Descends.ready mode _ _ _ _ (.choice hcheck hopen) hready
      exact Work.Contributes.choice hopen hready' ih hclose hsuits
  | directedChoice hne hkeys hsender hreceivers hopen hbranches hclose ih =>
      intro starts hsuits hready
      have hcheck :=
        (Runs.directedChoice hne hkeys hsender hreceivers hopen hbranches hclose).check?_eq_none
      have hready' :=
        @Descends.ready mode _ _ _ _ (.directedChoice hcheck hsender hreceivers hopen) hready
      exact Work.Contributes.directedChoice hsender hreceivers hopen hready' ih hclose hsuits
  | parallel hne hall hopen hbranches hclose ih =>
      intro starts hsuits hready
      have hcheck := (Runs.parallel hne hall hopen hbranches hclose).check?_eq_none
      have hready' := @Descends.ready mode _ _ _ _ (.parallel hcheck hopen) hready
      exact Work.Contributes.parallel hopen hready' ih hclose hsuits
  | loop hne hopen hbody hclose ih =>
      exact fun _ hsuits hready => Work.Contributes.loop hne hopen hbody ih hclose hsuits hready
  | recursion hne hopen hbody hclose ih =>
      exact fun _ hsuits hready =>
        Work.Contributes.recursion hne hopen hbody ih hclose hsuits hready
  | call hrun => exact fun _ hsuits _ => Work.Contributes.call hrun hsuits
  | escape hbody hhandler hleading hrole hruns harm hhandled hdisarm ih₁ ih₂ =>
      intro starts hsuits hready
      have hcheck := (Runs.escape hbody hhandler hleading hrole hruns harm hhandled
        hdisarm).check?_eq_none
      have hready₁ := @Descends.ready mode _ _ _ _ (.escapeBody hcheck hrole) hready
      have hready₂ := Descends.ready (.escapeHandler hcheck hrole hruns harm) hready
      exact Work.Contributes.escape hrole hruns hready₁ ih₁ harm hready₂ ih₂ hdisarm hsuits hready
  | finish => exact fun _ _ _ => (Build.Contributes.refl _).markFinal _
  | choiceBranchesCons henter hbranch hconverge _ ih₁ ih₂ =>
      intro starts hsuits hready
      have hready₁ := @Descends.ready mode _ _ _ _ (.choiceBranch henter) hready
      have hready₂ := Descends.ready (.choiceRest henter hbranch hconverge) hready
      exact Work.Contributes.choiceBranch henter hbranch hready₁ ih₁ hconverge hready₂ ih₂ hsuits
        hready
  | directedBranchesCons henter hselect hregister hbody hconverge _ ih₁ ih₂ =>
      intro starts hsuits hready
      have hready₀ := @Descends.ready mode _ _ _ _ (.directedSelection henter) hready
      have hready₁ :=
        @Descends.ready mode _ _ _ _ (.directedBranch henter hselect hregister) hready
      have hready₂ :=
        Descends.ready (.directedRest henter hselect hregister hbody hconverge) hready
      exact Work.Contributes.directedBranch henter hready₀ hselect hregister hbody hready₁ ih₁
        hconverge hready₂ ih₂ hsuits hready
  | parallelBranchesCons henter hbranch hleave _ ih₁ ih₂ =>
      intro starts hsuits hready
      have hready₁ := @Descends.ready mode _ _ _ _ (.parallelBranch henter) hready
      have hready₂ := Descends.ready (.parallelRest henter hbranch hleave) hready
      exact Work.Contributes.parallelBranch henter hbranch hready₁ ih₁ hleave hready₂ ih₂ hsuits
        hready

/-- A compiled automaton is the closed form of its activities, with a final mark where they end. -/
theorem Protocol.eq_of_compile {protocol : Protocol} {options : CompileOptions}
    {automaton : Automaton} (h : protocol.compile options = .ok automaton) :
    ∃ ended,
      Compiler.activities options.loops protocol.activities protocol.opening = .ok () ended ∧
      ended.position = afterAll options.loops protocol.activities (.fresh 0) ∧
      ended.scopes.automaton = protocol.opening.scopes.automaton.extend
        (contributionOf options.loops (fun _ => none) protocol.activities none (.fresh 0)) ∧
      ended.roles = (referencesOf true protocol.activities).foldl appendNew
        protocol.opening.roles ∧
      automaton = { ended.scopes.automaton.markFinal ended.scopes.cursor with
        name := some protocol.name
        checksum := some protocol.checksum
        roles := ended.roles
        anchors := ended.arena.anchors } := by
  obtain ⟨ended, hactivities, hautomaton⟩ := activities_of_compile h
  have hruns := Compiler.runs_of_activities _ hactivities
  have hfresh := protocol.fresh_opening
  have hsuits : protocol.opening.Suits fun _ => none :=
    ⟨hfresh.level, fun label start hresolve => by simp [hfresh.resolveRecursion_eq] at hresolve⟩
  have hcontributes := hruns.contributes _ hsuits (protocol.ready_opening _)
  obtain ⟨piece, hgrows⟩ := hruns.grows_of_activities hfresh.level
  rw [Work.contribution, Build.dueAnchor_eq_none hfresh.pending_eq, hfresh.position_eq]
    at hcontributes
  refine ⟨ended, hactivities, ?_, hcontributes.automaton_eq, hcontributes.roles_eq, hautomaton⟩
  rw [hgrows.position_eq, hfresh.position_eq]

/-- A compilation allocates the states of the automaton and of those nested in it, and no others. -/
theorem Protocol.allStates_of_compile {protocol : Protocol} {options : CompileOptions}
    {automaton : Automaton} (h : protocol.compile options = .ok automaton) :
    automaton.allStates.Perm
      (List.range (afterAll options.loops protocol.activities (.fresh 0)).next) := by
  obtain ⟨ended, hactivities, hposition, hended, -, hautomaton⟩ := eq_of_compile h
  have hruns := Compiler.runs_of_activities _ hactivities
  obtain ⟨hcoherent, -⟩ := hruns.coherent (.of_fresh protocol.fresh_opening) trivial
  obtain ⟨roles, hopening⟩ := protocol.fresh_opening.automaton_eq
  have hinitial : automaton.initial = 0 := by
    rw [hautomaton, hended, hopening]
    rfl
  have hallocated : automaton.Allocated ended.arena.next := by
    rw [hautomaton]
    exact hcoherent.automaton.allocated.congr rfl rfl rfl
  obtain ⟨count, hnext, hperm⟩ := hallocated
  have hcount : (afterAll options.loops protocol.activities (.fresh 0)).next = count := by
    rw [← hposition]
    exact hnext.trans (by rw [hinitial, Nat.zero_add])
  rw [hinitial] at hperm
  rwa [hcount, List.range_eq_range']

end Conversation

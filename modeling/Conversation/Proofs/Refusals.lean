import Conversation.Proofs.Dispatch

namespace Conversation

/-- What is wrong with lists that must not be empty, of which there must be one. -/
def emptyAmong? {α : Type} (outer inner : RequiredList) (lists : List (List α)) :
    Option BuildError :=
  if lists.isEmpty then some (.emptyList outer)
  else if lists.any List.isEmpty then some (.emptyList inner)
  else none

/-- What is wrong with an activity before its parts are looked at, if anything is. -/
def Activity.check? : Activity → Option BuildError
  | .choice branches => emptyAmong? .choice .choiceBranch branches
  | .directedChoice _ _ branches =>
      if branches.isEmpty then some (.emptyList .directedChoice)
      else (Compiler.firstRepeated [] (keysOf branches)).map .ambiguousKey
  | .parallel branches => emptyAmong? .parallel .parallelBranch branches
  | .loop body => if body.isEmpty then some (.emptyList .loopBody) else none
  | .recursion _ body => if body.isEmpty then some (.emptyList .recursionBody) else none
  | .escape body _ handler =>
      if body.isEmpty then some (.emptyList .escapeBody)
      else
        match handler with
        | [] => some (.emptyList .handler)
        | first :: _ =>
            match first.leadingInteraction with
            | .ok _ => none
            | .error found => some (.ambiguousHandler found)
  | .interaction _ => none
  | .call _ => none
  | .finish => none

open Compiler in
/-- The compiler gets from some work to a part of it. -/
inductive Descends (mode : LoopMode) : Work → Build → Work → Build → Prop
  | first {first : Activity} {rest : List Activity} {build : Build} :
      Descends mode (.activities (first :: rest)) build (.activity first) build
  | rest {first : Activity} {rest : List Activity} {build between : Build} :
      Runs mode (.activity first) build between →
      Descends mode (.activities (first :: rest)) build (.activities rest) between
  | choice {branches : List (List Activity)} {start : State} {build opened : Build} :
      (Activity.choice branches).check? = none →
      openChoice branches.length build = .ok start opened →
      Descends mode (.activity (.choice branches)) build (.choiceBranches start 0 branches) opened
  | directedChoice {sender : Role} {receivers : List Role} {branches : List DirectedBranch}
      {start : State} {build named₁ named₂ opened : Build} :
      (Activity.directedChoice sender receivers branches).check? = none →
      addRole sender build = .ok () named₁ →
      addRoles receivers named₁ = .ok () named₂ →
      openChoice branches.length named₂ = .ok start opened →
      Descends mode (.activity (.directedChoice sender receivers branches)) build
        (.directedBranches start 0 branches) opened
  | parallel {branches : List (List Activity)} {anchor join : State} {build opened : Build} :
      (Activity.parallel branches).check? = none →
      openParallel branches.length build = .ok (anchor, join) opened →
      Descends mode (.activity (.parallel branches)) build (.parallelBranches anchor 0 branches)
        opened
  | loop {body : List Activity} {head : State} {build opened : Build} :
      (Activity.loop body).check? = none →
      openLoop mode build = .ok head opened →
      Descends mode (.activity (.loop body)) build (.activities body) opened
  | recursion {label : String} {body : List Activity} {build opened : Build} :
      (Activity.recursion label body).check? = none →
      openRecursion label build = .ok () opened →
      Descends mode (.activity (.recursion label body)) build (.activities body) opened
  | escapeBody {body handler : List Activity} {role : Role} {build named : Build} :
      (Activity.escape body role handler).check? = none →
      addRole role build = .ok () named →
      Descends mode (.activity (.escape body role handler)) build (.activities body) named
  | escapeHandler {body handler : List Activity} {role : Role}
      {build named anchored armed : Build} :
      (Activity.escape body role handler).check? = none →
      addRole role build = .ok () named →
      Runs mode (.activities body) named anchored →
      armInterrupt role anchored = .ok () armed →
      Descends mode (.activity (.escape body role handler)) build (.activities handler) armed
  | choiceBranch {start : State} {index : Nat} {branch : List Activity}
      {rest : List (List Activity)} {build entered : Build} :
      enterChoiceBranch index start build = .ok () entered →
      Descends mode (.choiceBranches start index (branch :: rest)) build (.activities branch)
        entered
  | choiceRest {start : State} {index : Nat} {branch : List Activity}
      {rest : List (List Activity)} {build entered ended converged : Build} :
      enterChoiceBranch index start build = .ok () entered →
      Runs mode (.activities branch) entered ended →
      converge ended = .ok () converged →
      Descends mode (.choiceBranches start index (branch :: rest)) build
        (.choiceBranches start (index + 1) rest) converged
  | directedSelection {start : State} {index : Nat} {exchange : Interaction}
      {body : List Activity} {rest : List DirectedBranch} {build entered : Build} :
      enterChoiceBranch index start build = .ok () entered →
      Descends mode (.directedBranches start index (.mk exchange body :: rest)) build
        (.activity (.interaction exchange)) entered
  | directedBranch {start : State} {index : Nat} {exchange : Interaction}
      {body : List Activity} {rest : List DirectedBranch}
      {build entered selected registered : Build} :
      enterChoiceBranch index start build = .ok () entered →
      interaction exchange entered = .ok () selected →
      registerDispatch start exchange.dispatchKey selected = .ok () registered →
      Descends mode (.directedBranches start index (.mk exchange body :: rest)) build
        (.activities body) registered
  | directedRest {start : State} {index : Nat} {exchange : Interaction}
      {body : List Activity} {rest : List DirectedBranch}
      {build entered selected registered ended converged : Build} :
      enterChoiceBranch index start build = .ok () entered →
      interaction exchange entered = .ok () selected →
      registerDispatch start exchange.dispatchKey selected = .ok () registered →
      Runs mode (.activities body) registered ended →
      converge ended = .ok () converged →
      Descends mode (.directedBranches start index (.mk exchange body :: rest)) build
        (.directedBranches start (index + 1) rest) converged
  | parallelBranch {anchor : State} {index : Nat} {branch : List Activity}
      {rest : List (List Activity)} {build entered : Build} :
      enterParallelBranch anchor build = .ok () entered →
      Descends mode (.parallelBranches anchor index (branch :: rest)) build (.activities branch)
        entered
  | parallelRest {anchor : State} {index : Nat} {branch : List Activity}
      {rest : List (List Activity)} {build entered ended left : Build} :
      enterParallelBranch anchor build = .ok () entered →
      Runs mode (.activities branch) entered ended →
      leaveParallelBranch index anchor ended = .ok () left →
      Descends mode (.parallelBranches anchor index (branch :: rest)) build
        (.parallelBranches anchor (index + 1) rest) left

inductive Reaches (mode : LoopMode) : Work → Build → Work → Build → Prop
  | refl (work : Work) (build : Build) : Reaches mode work build work build
  | head {work work' work'' : Work} {build build' build'' : Build} :
      Descends mode work build work' build' → Reaches mode work' build' work'' build'' →
      Reaches mode work build work'' build''

/-- The compiler refuses an activity on its own account, not on that of a part of it. -/
inductive Refuses (mode : LoopMode) : Work → Build → BuildError → Prop
  | check {one : Activity} {build : Build} {error : BuildError} :
      one.check? = some error → Refuses mode (.activity one) build error
  | undefinedLabel {label : String} {build : Build} :
      build.scopes.resolveRecursion label = none →
      Refuses mode (.activity (.call label)) build (.undefinedLabel label)
  | interruptConflict {body handler : List Activity} {role : Role} {build named anchored : Build} :
      (Activity.escape body role handler).check? = none →
      Compiler.addRole role build = .ok () named →
      Runs mode (.activities body) named anchored →
      (anchored.scopes.automaton.interruptAt anchored.scopes.cursor).isSome →
      Refuses mode (.activity (.escape body role handler)) build
        (.interruptConflict anchored.scopes.cursor)

/-- The compiler refuses something that it gets to. -/
def Refused (mode : LoopMode) (work : Work) (build : Build) (error : BuildError) : Prop :=
  ∃ work' build', Reaches mode work build work' build' ∧ Refuses mode work' build' error

theorem Refuses.refused {mode : LoopMode} {work : Work} {build : Build} {error : BuildError}
    (h : Refuses mode work build error) : Refused mode work build error :=
  ⟨work, build, .refl _ _, h⟩

theorem Descends.refused {mode : LoopMode} {work work' : Work} {build build' : Build}
    {error : BuildError} (h : Descends mode work build work' build')
    (hrefused : Refused mode work' build' error) : Refused mode work build error := by
  obtain ⟨work'', build'', hreaches, hrefuses⟩ := hrefused
  exact ⟨work'', build'', .head h hreaches, hrefuses⟩

section Checks

variable {α : Type} {branches : List DirectedBranch} {body handler : List Activity}

theorem emptyAmong?_eq_none_iff {outer inner : RequiredList} {lists : List (List α)} :
    emptyAmong? outer inner lists = none ↔ lists ≠ [] ∧ ∀ list ∈ lists, list ≠ [] := by
  have hany : lists.any List.isEmpty = false ↔ ∀ list ∈ lists, list ≠ [] := by
    simp [List.any_eq_false]
  rw [← hany, emptyAmong?]
  cases lists.any List.isEmpty <;> cases lists <;> simp

theorem check?_directedChoice_eq_none_iff {sender : Role} {receivers : List Role} :
    (Activity.directedChoice sender receivers branches).check? = none ↔
      branches ≠ [] ∧ Compiler.firstRepeated [] (keysOf branches) = none := by
  cases branches <;> simp [Activity.check?]

theorem check?_loop_eq_none_iff : (Activity.loop body).check? = none ↔ body ≠ [] := by
  simp [Activity.check?]

theorem check?_recursion_eq_none_iff {label : String} :
    (Activity.recursion label body).check? = none ↔ body ≠ [] := by
  simp [Activity.check?]

theorem check?_escape_eq_none_iff {role : Role} :
    (Activity.escape body role handler).check? = none ↔
      body ≠ [] ∧ (leading? handler).isSome := by
  cases handler with
  | nil => cases body <;> simp [Activity.check?, leading?]
  | cons first rest =>
      cases hfirst : first.leadingInteraction with
      | ok exchange => cases body <;> simp [Activity.check?, leading?, hfirst, Except.toOption]
      | error found => cases body <;> simp [Activity.check?, leading?, hfirst, Except.toOption]

end Checks

namespace Compiler

section Requirements

variable {α : Type} {which inner : RequiredList} {branches : List DirectedBranch}
  {handler : List Activity} {error : BuildError}

theorem requireNonempty_of_ne {list : List α} (h : list ≠ []) (build : Build) :
    requireNonempty which list build = .ok () build := by
  cases list with
  | nil => exact absurd rfl h
  | cons first rest => rfl

theorem requireAllNonempty_eq (lists : List (List α)) (build : Build) :
    requireAllNonempty which lists build =
      if lists.any List.isEmpty then .error (.emptyList which) build else .ok () build := by
  induction lists with
  | nil => rfl
  | cons list rest ih =>
      cases list with
      | nil => rfl
      | cons first others => exact ih

theorem requireLists_eq {next : Builder Unit} (lists : List (List α)) (build : Build) :
    (do
      requireNonempty which lists
      requireAllNonempty inner lists
      next : Builder Unit) build =
      match emptyAmong? which inner lists with
      | some error => .error error build
      | none => next build := by
  cases lists with
  | nil => rfl
  | cons list rest =>
      rw [Builder.bind_of_ok (requireNonempty_of_ne (by simp) build), emptyAmong?,
        if_neg (by simp)]
      have hall : requireAllNonempty inner (list :: rest) build = _ :=
        requireAllNonempty_eq (list :: rest) build
      split at hall
      · next hany =>
          rw [if_pos hany]
          simp only [bind, EStateM.bind, hall]
      · next hany =>
          rw [if_neg hany, Builder.bind_of_ok hall]

theorem requireDistinctKeys_eq (branches : List DirectedBranch) (build : Build) :
    requireDistinctKeys branches build =
      match firstRepeated [] (keysOf branches) with
      | some key => .error (.ambiguousKey key) build
      | none => .ok () build := by
  rw [requireDistinctKeys, ← keysOf]
  cases firstRepeated [] (keysOf branches) <;> rfl

theorem requireLeading_of_isSome (h : (leading? handler).isSome) (build : Build) :
    requireLeading handler build = .ok () build := by
  cases handler with
  | nil => cases h
  | cons first rest =>
      cases hfirst : first.leadingInteraction with
      | ok exchange =>
          rw [requireLeading]
          simp only [hfirst]
          rfl
      | error found => simp [leading?, hfirst, Except.toOption] at h

theorem activity_eq_error {mode : LoopMode} {one : Activity} (h : one.check? = some error)
    (build : Build) : activity mode one build = .error error build := by
  cases one with
  | interaction exchange => cases h
  | choice branches =>
      rw [activity, requireLists_eq]
      rw [Activity.check?] at h
      rw [h]
  | directedChoice sender receivers branches =>
      cases branches with
      | nil =>
          cases h
          rfl
      | cons branch rest =>
          rw [activity, Builder.bind_of_ok (requireNonempty_of_ne (by simp) build)]
          have hkeys := requireDistinctKeys_eq (branch :: rest) build
          rw [Activity.check?, if_neg (by simp), Option.map_eq_some_iff] at h
          obtain ⟨key, hkey, rfl⟩ := h
          rw [hkey] at hkeys
          simp only [bind, EStateM.bind, hkeys]
  | parallel branches =>
      rw [activity, requireLists_eq]
      rw [Activity.check?] at h
      rw [h]
  | loop body =>
      cases body with
      | nil =>
          cases h
          rfl
      | cons first rest => cases h
  | recursion label body =>
      cases body with
      | nil =>
          cases h
          rfl
      | cons first rest => cases h
  | call label => cases h
  | escape body role handler =>
      cases body with
      | nil =>
          cases h
          rfl
      | cons first rest =>
          rw [activity, Builder.bind_of_ok (requireNonempty_of_ne (by simp) build)]
          cases handler with
          | nil =>
              cases h
              rfl
          | cons lead others =>
              rw [Builder.bind_of_ok (requireNonempty_of_ne (by simp) build)]
              rw [Activity.check?, if_neg (by simp)] at h
              cases hlead : lead.leadingInteraction with
              | ok exchange => simp [hlead] at h
              | error found =>
                  simp only [hlead, Option.some.injEq] at h
                  subst h
                  rw [requireLeading]
                  simp only [hlead]
                  rfl
  | finish => cases h

end Requirements

end Compiler

namespace Build.Ready

variable {mode : LoopMode} {build : Build}

theorem enterChoiceBranch {work work' : Work} {index : Nat} {start : State} {entered : Build}
    (h : build.Ready work) (hleading : work.leading? = none) (hopened : work'.Opened entered)
    (henter : Compiler.enterChoiceBranch index start build = .ok () entered) :
    entered.Ready work' := by
  have hgrows := build.grows_refl.enterChoiceBranch henter
  cases henter
  refine .of_idle (h.level.grows hgrows) ?_ hopened
  exact (Build.pending_record _ _).trans (h.pending_eq_none hleading)

theorem select {exchange : Interaction} {start : State} {selected registered : Build}
    (h : build.Ready (.activity (.interaction exchange)))
    (hselect : Compiler.interaction exchange build = .ok () selected)
    (hregister : Compiler.registerDispatch start exchange.dispatchKey selected =
      .ok () registered) (list : List Activity) :
    registered.Ready (.activities list) := by
  have hgrows := (build.grows_refl.interaction [] hselect).registerDispatch hregister
  obtain ⟨_, hselect', hidle, -, -⟩ := h.interaction .once
  rw [hselect] at hselect'
  cases hselect'
  cases hregister
  exact .of_idle (h.level.grows hgrows) ((Build.pending_record _ _).trans hidle) trivial

theorem converge {list : List Activity} {work : Work} {ended converged : Build}
    (h : build.Ready (.activities list)) (hopened : build.scopes.current.choices ≠ [])
    (hruns : Runs mode (.activities list) build ended)
    (hrun : Compiler.converge ended = .ok () converged)
    (hwork : converged.scopes.current.choices ≠ [] → work.Opened converged) :
    converged.Ready work := by
  obtain ⟨piece, hgrows⟩ := hruns.grows_of_activities h.level
  obtain ⟨hpending, -⟩ := hruns.registers h
  obtain ⟨-, hidle, hlevel, hopened', -, -⟩ := (Registers.refl mode ended).converge 0 hpending
    (h.level.grows hgrows) rfl (hgrows.choices_eq ▸ hopened) hrun
  exact .of_idle hlevel hidle (hwork hopened')

end Build.Ready

theorem Descends.ready {mode : LoopMode} {work work' : Work} {build build' : Build}
    (h : Descends mode work build work' build') (hready : build.Ready work) :
    build'.Ready work' := by
  cases h with
  | first => exact { hready with opened := trivial }
  | @rest first rest _ _ hfirst =>
      have hready₁ : build.Ready (.activity first) := { hready with opened := trivial }
      obtain ⟨piece, hgrows⟩ := hfirst.grows_of_activity hready.level
      exact .of_idle (hready.level.grows hgrows) (hfirst.registers hready₁).1 trivial
  | choice _ hopen =>
      obtain ⟨hpending, -, -, -, hopened, hlevel⟩ := Compiler.openChoice_eq_ok mode hopen
      exact .of_idle (hlevel hready.level) (hpending.trans (hready.pending_eq_none rfl)) hopened
  | @directedChoice sender receivers _ _ _ named₁ named₂ _ _ hsender hreceivers hopen =>
      have hgrows := (build.grows_refl.addRole hsender).addRoles hreceivers
      have hnamed : named₂.pending = build.pending := by
        rw [Compiler.addRoles_eq] at hreceivers
        cases hsender
        cases hreceivers
        exact Build.pending_addRoles _ _
      obtain ⟨hpending, -, -, -, hopened, hlevel⟩ := Compiler.openChoice_eq_ok mode hopen
      exact .of_idle (hlevel (hready.level.grows hgrows))
        ((hpending.trans hnamed).trans (hready.pending_eq_none rfl)) hopened
  | parallel _ hopen =>
      obtain ⟨rfl, rfl, hgrows⟩ := build.grows_refl.openParallel [] hopen
      cases hopen
      refine .of_idle (hready.level.grows hgrows) ?_ trivial
      exact (Build.pending_record _ _).trans (hready.pending_eq_none rfl)
  | loop hcheck hopen => exact (hready.openLoop (check?_loop_eq_none_iff.mp hcheck) hopen).1
  | recursion hcheck hopen =>
      exact (hready.openRecursion mode (check?_recursion_eq_none_iff.mp hcheck) hopen).1
  | escapeBody _ hrole =>
      have hgrows := build.grows_refl.addRole hrole
      cases hrole
      exact .of_idle (hready.level.grows hgrows) (hready.pending_eq_none rfl) trivial
  | @escapeHandler body _ _ _ named anchored _ hcheck hrole hbody harm =>
      have hlevel := hready.level.grows (build.grows_refl.addRole hrole)
      obtain ⟨piece, hgrows⟩ := hbody.grows_of_activities hlevel
      exact (Build.Ready.armInterrupt mode (hlevel.grows hgrows)
        (check?_escape_eq_none_iff.mp hcheck).2 harm).1
  | choiceBranch henter => exact hready.enterChoiceBranch rfl trivial henter
  | @choiceRest _ _ branch _ _ entered _ _ henter hbranch hconverge =>
      have hchoices := (build.grows_refl.enterChoiceBranch henter).choices_eq
      have hentered : entered.Ready (.activities branch) :=
        hready.enterChoiceBranch rfl trivial henter
      exact hentered.converge (hchoices ▸ hready.opened) hbranch hconverge id
  | directedSelection henter => exact hready.enterChoiceBranch rfl trivial henter
  | @directedBranch _ _ exchange _ _ _ entered _ _ henter hselect hregister =>
      have hentered : entered.Ready (.activity (.interaction exchange)) :=
        hready.enterChoiceBranch rfl trivial henter
      exact hentered.select hselect hregister _
  | @directedRest _ _ exchange body _ _ entered _ _ _ _ henter hselect hregister hbody hconverge =>
      have hentered : entered.Ready (.activity (.interaction exchange)) :=
        hready.enterChoiceBranch rfl trivial henter
      have hchoices := (((build.grows_refl.enterChoiceBranch henter).interaction []
        hselect).registerDispatch hregister).choices_eq
      have hregistered := hentered.select hselect hregister body
      exact hregistered.converge (hchoices ▸ hready.opened) hbody hconverge id
  | parallelBranch henter =>
      have hfresh := hready.level.fresh (hready.pending_eq_none rfl) henter
      exact .of_idle hfresh.level hfresh.pending_eq trivial
  | @parallelRest _ _ branch _ _ _ _ _ henter hbranch hleave =>
      have hidle := hready.pending_eq_none rfl
      have hfresh := hready.level.fresh hidle henter
      obtain ⟨hpending, hregisters⟩ :=
        hbranch.registers (.of_idle hfresh.level hfresh.pending_eq trivial)
      obtain ⟨hpending', -⟩ := hready.level.parallelBranch hidle henter hbranch hregisters hleave
      obtain ⟨piece, hgrows⟩ := hbranch.grows_of_activities hfresh.level
      obtain ⟨_, -, hgrows'⟩ := Compiler.grows_of_parallelBranch henter hgrows hleave
      exact .of_idle (hready.level.grows hgrows') (hpending'.trans hpending) trivial

theorem Reaches.ready {mode : LoopMode} {work work' : Work} {build build' : Build}
    (h : Reaches mode work build work' build') (hready : build.Ready work) :
    build'.Ready work' := by
  induction h with
  | refl => exact hready
  | head hdescends _ ih => exact ih (hdescends.ready hready)

namespace Compiler

section Total

variable (build : Build)

theorem exists_converge_eq_ok : ∃ final, converge build = .ok () final := by
  cases hexit : build.exit? with
  | none => exact ⟨_, converge_of_none hexit⟩
  | some exit => exact ⟨_, converge_of_some hexit⟩

theorem exists_openLoop_eq_ok (mode : LoopMode) :
    ∃ head final, openLoop mode build = .ok head final := by
  cases mode with
  | once => exact ⟨_, _, openLoop_once_eq build⟩
  | loop => exact ⟨_, _, openLoop_loop_eq build⟩

theorem exists_closeLoop_eq_ok (mode : LoopMode) (head : State) :
    ∃ final, closeLoop mode head build = .ok () final := by
  cases mode with
  | once => exact ⟨_, closeLoop_once_eq head build⟩
  | loop => exact ⟨_, closeLoop_loop_eq head build⟩

theorem exists_closeRecursion_eq_ok (label : String) :
    ∃ final, closeRecursion label build = .ok () final := by
  rw [closeRecursion, Builder.get_bind]
  cases build.scopes.exitRecursion with
  | none => exact ⟨_, rfl⟩
  | some closed => exact ⟨_, rfl⟩

theorem exists_leaveParallelBranch_eq_ok (index : Nat) (anchor : State) :
    ∃ final, leaveParallelBranch index anchor build = .ok () final :=
  ⟨_, leaveParallelBranch_eq index anchor build⟩

end Total

theorem call_eq (label : String) (build : Build) :
    (∃ final, call label build = .ok () final) ∨
      build.scopes.resolveRecursion label = none ∧
        call label build = .error (.undefinedLabel label) build := by
  cases hresolve : build.scopes.resolveRecursion label with
  | none =>
      refine .inr ⟨rfl, ?_⟩
      rw [call, Builder.get_bind, hresolve]
      rfl
  | some start => exact .inl ⟨_, call_eq_ok_iff.mpr ⟨start, hresolve, rfl⟩⟩

theorem armInterrupt_eq (role : Role) (build : Build) :
    (∃ final, armInterrupt role build = .ok () final) ∨
      (build.scopes.automaton.interruptAt build.scopes.cursor).isSome ∧
        ∃ failed,
          armInterrupt role build = .error (.interruptConflict build.scopes.cursor) failed := by
  cases hat : build.scopes.automaton.interruptAt build.scopes.cursor with
  | none => exact .inl ⟨_, armInterrupt_eq_ok_iff.mpr ⟨hat, rfl⟩⟩
  | some interrupt =>
      let marked := build.markFinal build.scopes.cursor
      have hmarked : marked.scopes.automaton.interruptAt build.scopes.cursor = some interrupt := by
        rw [Build.scopes_markFinal]
        exact hat
      have hrequire := requireNoInterrupt_eq build.scopes.cursor marked
      rw [hmarked, Option.isSome_some, if_pos rfl] at hrequire
      have hmark : markFinal build.scopes.cursor build = .ok () marked := rfl
      have hcursor : cursor build = .ok build.scopes.cursor build := rfl
      refine .inr ⟨rfl, marked, ?_⟩
      rw [armInterrupt, Builder.bind_of_ok hcursor, Builder.bind_of_ok hmark]
      simp only [bind, EStateM.bind, hrequire]

mutual

theorem refused_of_activity {mode : LoopMode} {error : BuildError} :
    ∀ (one : Activity) {build failed : Build}, one.check? = none → build.Ready (.activity one) →
      activity mode one build = .error error failed →
        Refused mode (.activity one) build error
  | .interaction exchange, build, failed, _, hready, h => by
      obtain ⟨final, hfinal, -⟩ := hready.interaction mode
      rw [activity, hfinal] at h
      cases h
  | .choice branches, build, failed, hcheck, hready, h => by
      obtain ⟨opened, hopen⟩ : ∃ opened, openChoice branches.length build =
        .ok build.scopes.cursor opened := ⟨_, openChoice_eq _ _⟩
      have hdescends : Descends mode (.activity (.choice branches)) build _ opened :=
        .choice hcheck hopen
      rw [Activity.check?] at hcheck
      rw [activity, requireLists_eq, hcheck] at h
      simp only [Builder.bind_of_ok hopen, Builder.bind_eq_error_iff] at h
      rcases h with h | ⟨_, closing, -, h⟩
      · exact hdescends.refused (refused_of_choiceBranches branches (hdescends.ready hready) h)
      · cases h
  | .directedChoice sender receivers branches, build, failed, hcheck, hready, h => by
      obtain ⟨named₁, hsender⟩ : ∃ named, addRole sender build = .ok () named := ⟨_, rfl⟩
      obtain ⟨named₂, hreceivers⟩ : ∃ named, addRoles receivers named₁ = .ok () named :=
        ⟨_, addRoles_eq _ _⟩
      obtain ⟨opened, hopen⟩ : ∃ opened, openChoice branches.length named₂ =
        .ok named₂.scopes.cursor opened := ⟨_, openChoice_eq _ _⟩
      have hdescends : Descends mode (.activity (.directedChoice sender receivers branches)) build _
        opened := .directedChoice hcheck hsender hreceivers hopen
      obtain ⟨hne, hkeys⟩ := check?_directedChoice_eq_none_iff.mp hcheck
      have hdistinct := requireDistinctKeys_eq branches build
      simp only [hkeys] at hdistinct
      rw [activity, Builder.bind_of_ok (requireNonempty_of_ne hne build),
        Builder.bind_of_ok hdistinct, Builder.bind_of_ok hsender, Builder.bind_of_ok hreceivers,
        Builder.bind_of_ok hopen, Builder.bind_eq_error_iff] at h
      rcases h with h | ⟨_, closing, -, h⟩
      · exact hdescends.refused (refused_of_directedBranches branches (hdescends.ready hready) h)
      · cases h
  | .parallel branches, build, failed, hcheck, hready, h => by
      obtain ⟨opened, hopen⟩ : ∃ opened, openParallel branches.length build =
        .ok (build.scopes.cursor, build.arena.next) opened := ⟨_, openParallel_eq _ _⟩
      have hdescends : Descends mode (.activity (.parallel branches)) build _ opened :=
        .parallel hcheck hopen
      rw [Activity.check?] at hcheck
      rw [activity, requireLists_eq, hcheck] at h
      simp only [Builder.bind_of_ok hopen, Builder.bind_eq_error_iff] at h
      rcases h with h | ⟨_, closing, -, h⟩
      · exact hdescends.refused (refused_of_parallelBranches branches (hdescends.ready hready) h)
      · cases h
  | .loop body, build, failed, hcheck, hready, h => by
      obtain ⟨head, opened, hopen⟩ := exists_openLoop_eq_ok build mode
      have hdescends := Descends.loop hcheck hopen
      rw [activity, Builder.bind_of_ok
        (requireNonempty_of_ne (check?_loop_eq_none_iff.mp hcheck) build),
        Builder.bind_of_ok hopen, Builder.bind_eq_error_iff] at h
      rcases h with h | ⟨_, closing, -, h⟩
      · exact hdescends.refused (refused_of_activities body (hdescends.ready hready) h)
      · obtain ⟨final, hclose⟩ := exists_closeLoop_eq_ok closing mode head
        rw [hclose] at h
        cases h
  | .recursion label body, build, failed, hcheck, hready, h => by
      obtain ⟨opened, hopen⟩ : ∃ opened, openRecursion label build = .ok () opened :=
        ⟨_, openRecursion_eq _ _⟩
      have hdescends : Descends mode (.activity (.recursion label body)) build _ opened :=
        .recursion hcheck hopen
      rw [activity, Builder.bind_of_ok
        (requireNonempty_of_ne (check?_recursion_eq_none_iff.mp hcheck) build),
        Builder.bind_of_ok hopen, Builder.bind_eq_error_iff] at h
      rcases h with h | ⟨_, closing, -, h⟩
      · exact hdescends.refused (refused_of_activities body (hdescends.ready hready) h)
      · obtain ⟨final, hclose⟩ := exists_closeRecursion_eq_ok closing label
        rw [hclose] at h
        cases h
  | .call label, build, failed, _, _, h => by
      rw [activity] at h
      rcases call_eq label build with ⟨final, hcall⟩ | ⟨hresolve, hcall⟩
      · rw [hcall] at h
        cases h
      · rw [hcall] at h
        cases h
        exact (Refuses.undefinedLabel hresolve).refused
  | .escape body role handler, build, failed, hcheck, hready, h => by
      obtain ⟨named, hrole⟩ : ∃ named, addRole role build = .ok () named := ⟨_, rfl⟩
      have hdescends : Descends mode (.activity (.escape body role handler)) build _ named :=
        .escapeBody hcheck hrole
      obtain ⟨hne, hleading⟩ := check?_escape_eq_none_iff.mp hcheck
      have hne' : handler ≠ [] := by
        rintro rfl
        cases hleading
      rw [activity, Builder.bind_of_ok (requireNonempty_of_ne hne build),
        Builder.bind_of_ok (requireNonempty_of_ne hne' build),
        Builder.bind_of_ok (requireLeading_of_isSome hleading build), Builder.bind_of_ok hrole,
        Builder.bind_eq_error_iff] at h
      rcases h with h | ⟨_, anchored, hbody, h⟩
      · exact hdescends.refused (refused_of_activities body (hdescends.ready hready) h)
      have hruns := runs_of_activities body hbody
      rcases armInterrupt_eq role anchored with ⟨armed, harm⟩ | ⟨hconflict, failed', harm⟩
      · have hdescends' := Descends.escapeHandler hcheck hrole hruns harm
        rw [Builder.bind_of_ok harm, Builder.bind_eq_error_iff] at h
        rcases h with h | ⟨_, handled, -, h⟩
        · exact hdescends'.refused (refused_of_activities handler (hdescends'.ready hready) h)
        · cases h
      · -- The state that the failure leaves behind is not that of `anchored`, only the error counts.
        simp only [bind, EStateM.bind, harm] at h
        cases h
        exact (Refuses.interruptConflict hcheck hrole hruns hconflict).refused
  | .finish, build, failed, _, _, h => by cases h

theorem refused_of_activities {mode : LoopMode} {error : BuildError} :
    ∀ (list : List Activity) {build failed : Build}, build.Ready (.activities list) →
      activities mode list build = .error error failed →
        Refused mode (.activities list) build error
  | [], build, failed, _, h => by cases h
  | first :: rest, build, failed, hready, h => by
      have hdescends : Descends mode (.activities (first :: rest)) build _ build := .first
      rw [activities, Builder.bind_eq_error_iff] at h
      rcases h with h | ⟨_, between, hfirst, h⟩
      · refine hdescends.refused ?_
        cases hcheck : first.check? with
        | none => exact refused_of_activity first hcheck (hdescends.ready hready) h
        | some found =>
            rw [activity_eq_error hcheck] at h
            cases h
            exact (Refuses.check hcheck).refused
      · have hdescends' : Descends mode (.activities (first :: rest)) build _ between :=
          .rest (runs_of_activity first hfirst)
        exact hdescends'.refused (refused_of_activities rest (hdescends'.ready hready) h)

theorem refused_of_choiceBranches {mode : LoopMode} {error : BuildError} {start : State} :
    ∀ (branches : List (List Activity)) {index : Nat} {build failed : Build},
      build.Ready (.choiceBranches start index branches) →
      choiceBranches mode start index branches build = .error error failed →
        Refused mode (.choiceBranches start index branches) build error
  | [], index, build, failed, _, h => by cases h
  | branch :: rest, index, build, failed, hready, h => by
      obtain ⟨entered, henter⟩ : ∃ entered, enterChoiceBranch index start build =
        .ok () entered := ⟨_, enterChoiceBranch_eq _ _ _⟩
      rw [choiceBranches, Builder.bind_of_ok henter, Builder.bind_eq_error_iff] at h
      rcases h with h | ⟨_, ended, hbranch, h⟩
      · have hdescends : Descends mode (.choiceBranches start index (branch :: rest)) build _
          entered := .choiceBranch henter
        exact hdescends.refused (refused_of_activities branch (hdescends.ready hready) h)
      · obtain ⟨converged, hconverge⟩ := exists_converge_eq_ok ended
        rw [Builder.bind_of_ok hconverge] at h
        have hdescends : Descends mode (.choiceBranches start index (branch :: rest)) build
            (.choiceBranches start (index + 1) rest) converged :=
          .choiceRest henter (runs_of_activities branch hbranch) hconverge
        exact hdescends.refused (refused_of_choiceBranches rest (hdescends.ready hready) h)

theorem refused_of_directedBranches {mode : LoopMode} {error : BuildError} {start : State} :
    ∀ (branches : List DirectedBranch) {index : Nat} {build failed : Build},
      build.Ready (.directedBranches start index branches) →
      directedBranches mode start index branches build = .error error failed →
        Refused mode (.directedBranches start index branches) build error
  | [], index, build, failed, _, h => by cases h
  | .mk exchange body :: rest, index, build, failed, hready, h => by
      obtain ⟨entered, henter⟩ : ∃ entered, enterChoiceBranch index start build =
        .ok () entered := ⟨_, enterChoiceBranch_eq _ _ _⟩
      have hselection : Descends mode (.directedBranches start index (.mk exchange body :: rest))
        build _ entered := .directedSelection henter
      obtain ⟨selected, hselect, -⟩ := (hselection.ready hready).interaction mode
      obtain ⟨registered, hregister⟩ : ∃ registered,
        registerDispatch start exchange.dispatchKey selected = .ok () registered :=
          ⟨_, registerDispatch_eq _ _ _⟩
      rw [directedBranches, Builder.bind_of_ok henter, Builder.bind_of_ok hselect,
        Builder.bind_of_ok hregister, Builder.bind_eq_error_iff] at h
      rcases h with h | ⟨_, ended, hbody, h⟩
      · have hdescends : Descends mode (.directedBranches start index (.mk exchange body :: rest))
          build _ registered := .directedBranch henter hselect hregister
        exact hdescends.refused (refused_of_activities body (hdescends.ready hready) h)
      · obtain ⟨converged, hconverge⟩ := exists_converge_eq_ok ended
        rw [Builder.bind_of_ok hconverge] at h
        have hdescends : Descends mode (.directedBranches start index (.mk exchange body :: rest))
            build (.directedBranches start (index + 1) rest) converged :=
          .directedRest henter hselect hregister (runs_of_activities body hbody) hconverge
        exact hdescends.refused (refused_of_directedBranches rest (hdescends.ready hready) h)

theorem refused_of_parallelBranches {mode : LoopMode} {error : BuildError} {anchor : State} :
    ∀ (branches : List (List Activity)) {index : Nat} {build failed : Build},
      build.Ready (.parallelBranches anchor index branches) →
      parallelBranches mode anchor index branches build = .error error failed →
        Refused mode (.parallelBranches anchor index branches) build error
  | [], index, build, failed, _, h => by cases h
  | branch :: rest, index, build, failed, hready, h => by
      obtain ⟨entered, henter⟩ : ∃ entered, enterParallelBranch anchor build = .ok () entered :=
        ⟨_, enterParallelBranch_eq _ _⟩
      rw [parallelBranches, Builder.bind_of_ok henter, Builder.bind_eq_error_iff] at h
      rcases h with h | ⟨_, ended, hbranch, h⟩
      · have hdescends : Descends mode (.parallelBranches anchor index (branch :: rest)) build _
          entered := .parallelBranch henter
        exact hdescends.refused (refused_of_activities branch (hdescends.ready hready) h)
      · obtain ⟨left, hleave⟩ := exists_leaveParallelBranch_eq_ok ended index anchor
        rw [Builder.bind_of_ok hleave] at h
        have hdescends : Descends mode (.parallelBranches anchor index (branch :: rest)) build
            (.parallelBranches anchor (index + 1) rest) left :=
          .parallelRest henter (runs_of_activities branch hbranch) hleave
        exact hdescends.refused (refused_of_parallelBranches rest (hdescends.ready hready) h)

end

end Compiler

/-- A compilation fails because there is nothing to compile, or because something is refused. -/
theorem Protocol.refused_of_compile {protocol : Protocol} {options : CompileOptions}
    {error : BuildError} (h : protocol.compile options = .error error) :
    protocol.activities = [] ∧ error = .emptyList .protocol ∨
      protocol.activities ≠ [] ∧
        Refused options.loops (.activities protocol.activities) protocol.opening error := by
  rcases compile_eq_error h with hempty | ⟨hne, failed, hfailed⟩
  · exact .inl hempty
  · exact .inr ⟨hne, Compiler.refused_of_activities _ (protocol.ready_opening _) hfailed⟩

end Conversation

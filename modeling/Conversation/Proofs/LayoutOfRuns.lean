import Conversation.Proofs.CompilerSteps

namespace Conversation

/-- The automaton under construction is the one that the current frame builds, and a label that is
resolved leads to the start of its recursion. -/
structure Build.Suits (build : Build) (starts : Starts) : Prop where
  level : build.scopes.owner = build.scopes.suspended.length
  resolves : ∀ label start, build.scopes.resolveRecursion label = some start →
    starts label = some start

namespace Build.Suits

variable {build build' : Build} {starts : Starts} {piece : Piece} {next cursor : State}
  {choices : List OpenChoice}

theorem grows (h : build.Suits starts) (hgrows : build.Grows piece next cursor choices build') :
    build'.Suits starts where
  level := by rw [hgrows.owner_eq, hgrows.suspended_eq, h.level]
  resolves := by
    intro label start hresolve
    exact h.resolves label start (hgrows.resolves label start hresolve)

theorem within (h : build.Suits starts) {label : String}
    (hopen : Compiler.openRecursion label build = .ok () build') :
    build'.Suits (starts.within label build.scopes.cursor) := by
  obtain ⟨-, hscopes⟩ := Compiler.openRecursion_eq_ok hopen
  constructor
  · rw [hscopes]
    exact h.level
  · intro asked start hresolve
    rw [hscopes, ScopeStack.resolveRecursion_enterRecursion] at hresolve
    rw [Starts.within]
    split at hresolve
    · next hlabel => rw [if_pos hlabel, hresolve]
    · next hlabel => rw [if_neg hlabel, h.resolves asked start hresolve]

theorem branch (h : build.Suits starts) {anchor : State}
    (henter : Compiler.enterParallelBranch anchor build = .ok () build') :
    build'.Suits fun _ => none := by
  obtain ⟨-, hscopes⟩ := Compiler.enterParallelBranch_eq_ok henter
  constructor
  · rw [hscopes]
    rfl
  · intro asked start hresolve
    rw [hscopes, ScopeStack.resolveRecursion_enterBranch anchor _ asked h.level] at hresolve
    cases hresolve

end Build.Suits

def Work.LaysOut (mode : LoopMode) (build build' : Build) : Work → Prop
  | .activity one => ∀ starts rest checkpoint, build.Suits starts →
      ∃ piece next target,
        Lays mode starts rest checkpoint (.activity one) build.arena.next build.scopes.cursor
          piece next target ∧
        build.Grows piece next target build.scopes.current.choices build'
  | .activities list => ∀ starts rest checkpoint, build.Suits starts →
      ∃ piece next target,
        Lays mode starts rest checkpoint (.activities list) build.arena.next build.scopes.cursor
          piece next target ∧
        build.Grows piece next target build.scopes.current.choices build'
  | .choiceBranches start _ branches => ∀ starts rest checkpoint entry exit choices,
      build.Suits starts → build.scopes.current.choices = ⟨entry, exit⟩ :: choices →
      (branches = [] → exit.isSome) →
      ∃ piece next target last,
        Lays mode starts rest checkpoint (.choices exit branches) build.arena.next start piece next
          target ∧
        build.Grows piece next last (⟨entry, some target⟩ :: choices) build'
  | .directedBranches start _ branches => ∀ starts rest checkpoint entry exit choices,
      build.Suits starts → build.scopes.current.choices = ⟨entry, exit⟩ :: choices →
      (branches = [] → exit.isSome) →
      ∃ piece next target last,
        Lays mode starts rest checkpoint (.choices exit (branches.map DirectedBranch.activities))
          build.arena.next start piece next target ∧
        build.Grows piece next last (⟨entry, some target⟩ :: choices) build'
  | .parallelBranches anchor _ branches => ∀ starts rest checkpoint, build.Suits starts →
      ∃ piece next,
        Lays mode starts rest checkpoint (.regions branches) build.arena.next anchor piece next
          anchor ∧
        build.Grows piece next build.scopes.cursor build.scopes.current.choices build'

variable {mode : LoopMode} {work : Work} {build build' : Build}

theorem Lays.converge {starts : Starts} {rest checkpoint : Agenda} {branch : List Activity}
    {others : List (List Activity)} {source entry next last : State} {exit : Option State}
    {choices : List OpenChoice} {piece : Piece} {ended converged final : Build}
    (hlays : Lays mode starts (.join :: rest) checkpoint (.activities branch) build.arena.next source
      piece next last)
    (hsuits : build.Suits starts)
    (hended : build.Grows piece next last (⟨entry, exit⟩ :: choices) ended)
    (hconverge : Compiler.converge ended = .ok () converged)
    (hothers : ∀ exit, converged.Suits starts →
      converged.scopes.current.choices = ⟨entry, some exit⟩ :: choices →
      ∃ piece next target last,
        Lays mode starts rest checkpoint (.choices (some exit) others) converged.arena.next source
          piece next target ∧
        converged.Grows piece next last (⟨entry, some target⟩ :: choices) final) :
    ∃ piece next target last,
      Lays mode starts rest checkpoint (.choices exit (branch :: others)) build.arena.next source
        piece next target ∧
      build.Grows piece next last (⟨entry, some target⟩ :: choices) final := by
  cases exit with
  | none =>
      have hgrows := hended.converge_none rest hconverge
      obtain ⟨_, next', target, last', hlays', hgrows'⟩ :=
        hothers _ (hsuits.grows hgrows) hgrows.choices_eq
      rw [hgrows.next_eq] at hlays'
      exact ⟨_, next', target, last', .choicesFirst hlays hlays', hgrows.trans hgrows'⟩
  | some exit =>
      have hgrows := hended.converge_some hconverge
      obtain ⟨_, next', target, last', hlays', hgrows'⟩ :=
        hothers _ (hsuits.grows hgrows) hgrows.choices_eq
      rw [hgrows.next_eq] at hlays'
      exact ⟨_, next', target, last', .choicesNext hlays hlays', hgrows.trans hgrows'⟩

/-- Every run of the compiler lays out what it is about. -/
theorem Runs.laysOut (h : Runs mode work build build') : work.LaysOut mode build build' := by
  -- Carried along are the labels that calls may use and the open choice.
  induction h with
  | @nil build =>
      intro starts rest checkpoint hsuits
      exact ⟨.empty, build.arena.next, build.scopes.cursor, .nil, build.grows_refl⟩
  | cons _ _ ih₁ ih₂ =>
      intro starts rest checkpoint hsuits
      obtain ⟨piece₁, next₁, between, hlays₁, hgrows₁⟩ := ih₁ starts _ checkpoint hsuits
      obtain ⟨piece₂, next₂, target, hlays₂, hgrows₂⟩ := ih₂ starts rest _ (hsuits.grows hgrows₁)
      rw [hgrows₁.next_eq, hgrows₁.cursor_eq] at hlays₂
      rw [hgrows₁.choices_eq] at hgrows₂
      exact ⟨piece₁ ++ piece₂, next₂, target, .cons hlays₁ hlays₂, hgrows₁.trans hgrows₂⟩
  | @interaction exchange build _ hrun =>
      intro starts rest checkpoint hsuits
      exact ⟨_, _, _, .interaction, build.grows_refl.interaction rest hrun⟩
  | @choice branches start build opened closing final hne _ hopen _ hclose ih =>
      intro starts rest checkpoint hsuits
      obtain ⟨rfl, hgrows⟩ := build.grows_refl.openChoice hopen
      obtain ⟨piece, next, target, last, hlays, hgrows'⟩ :=
        ih starts rest checkpoint _ _ _ (hsuits.grows hgrows) hgrows.choices_eq
          (fun hempty => absurd hempty hne)
      rw [hgrows.next_eq] at hlays
      exact ⟨piece, next, target, .choice hlays, (hgrows.trans hgrows').closeChoice hclose⟩
  | @directedChoice sender receivers branches start build _ _ opened closing final hne _ hsender
      hreceivers hopen _ hclose ih =>
      intro starts rest checkpoint hsuits
      obtain ⟨rfl, hgrows⟩ :=
        ((build.grows_refl.addRole hsender).addRoles hreceivers).openChoice hopen
      obtain ⟨piece, next, target, last, hlays, hgrows'⟩ :=
        ih starts rest checkpoint _ _ _ (hsuits.grows hgrows) hgrows.choices_eq
          (fun hempty => absurd hempty hne)
      rw [hgrows.next_eq] at hlays
      exact ⟨piece, next, target, .directedChoice hlays, (hgrows.trans hgrows').closeChoice hclose⟩
  | @parallel branches anchor join build opened closing final _ _ hopen _ hclose ih =>
      intro starts rest checkpoint hsuits
      obtain ⟨rfl, rfl, hgrows⟩ := build.grows_refl.openParallel rest hopen
      obtain ⟨piece, next, hlays, hgrows'⟩ := ih starts rest checkpoint (hsuits.grows hgrows)
      rw [hgrows.next_eq] at hlays
      rw [hgrows.choices_eq] at hgrows'
      exact ⟨_, next, _, .parallel hlays, (hgrows.trans hgrows').closeParallel hclose⟩
  | @loop body head build opened closing final _ hopen _ hclose ih =>
      intro starts rest checkpoint hsuits
      cases mode with
      | once =>
          have hgrows := build.grows_refl.openLoop_once hopen
          obtain ⟨piece, next, target, hlays, hgrows'⟩ :=
            ih starts rest checkpoint (hsuits.grows hgrows)
          rw [hgrows.next_eq, hgrows.cursor_eq] at hlays
          rw [hgrows.choices_eq] at hgrows'
          exact ⟨piece, next, target, .loopOnce rfl hlays,
            (hgrows.trans hgrows').closeLoop_once hclose⟩
      | loop =>
          obtain ⟨rfl, hgrows⟩ :=
            build.grows_refl.openLoop_loop (agendaOf body ++ .again body :: rest) hopen
          obtain ⟨piece, next, target, hlays, hgrows'⟩ :=
            ih starts (.again body :: rest) (agendaOf body ++ .again body :: rest)
              (hsuits.grows hgrows)
          rw [hgrows.next_eq, hgrows.cursor_eq] at hlays
          rw [hgrows.choices_eq] at hgrows'
          exact ⟨_, next, target, .loop rfl hlays, (hgrows.trans hgrows').closeLoop_loop hclose⟩
  | @recursion label body build opened closing final _ hopen _ hclose ih =>
      intro starts rest checkpoint hsuits
      obtain ⟨piece, next, target, hlays, hgrows⟩ :=
        ih _ (.leave label checkpoint :: rest) checkpoint (hsuits.within hopen)
      obtain ⟨harena, hscopes⟩ := Compiler.openRecursion_eq_ok hopen
      rw [harena, hscopes] at hlays
      exact ⟨piece, next, target, .recursion hlays,
        Compiler.grows_of_recursion hopen hgrows hclose⟩
  | @call label build final hrun =>
      intro starts rest checkpoint hsuits
      obtain ⟨start, hresolve, hgrows⟩ := build.grows_refl.call rest hrun
      exact ⟨_, _, _, .call (hsuits.resolves label start hresolve), hgrows⟩
  | @escape body handler role build named anchored armed handled final _ _ _ hrole _ harm _ hdisarm
      ih₁ ih₂ =>
      intro starts rest checkpoint hsuits
      have hnamed := build.grows_refl.addRole hrole
      obtain ⟨piece₁, next₁, anchor, hlays₁, hgrows₁⟩ :=
        ih₁ starts (.handle handler :: rest) checkpoint (hsuits.grows hnamed)
      rw [hnamed.next_eq, hnamed.cursor_eq] at hlays₁
      rw [hnamed.choices_eq] at hgrows₁
      have harmed := (hnamed.trans hgrows₁).armInterrupt harm
      obtain ⟨piece₂, next₂, target, hlays₂, hgrows₂⟩ :=
        ih₂ starts rest (checkpointAfterAll mode (.handle handler :: rest) checkpoint body)
          (hsuits.grows harmed)
      rw [harmed.next_eq, harmed.cursor_eq] at hlays₂
      rw [harmed.choices_eq] at hgrows₂
      exact ⟨_, next₂, target, .escape hlays₁ hlays₂,
        (harmed.trans hgrows₂).disarmInterrupt hdisarm⟩
  | @finish build =>
      intro starts rest checkpoint hsuits
      exact ⟨_, _, _, .finish, build.grows_refl.markFinal _⟩
  | @choiceBranchesNil start index build =>
      intro starts rest checkpoint entry exit choices hsuits hchoices hexit
      obtain ⟨target, rfl⟩ := Option.isSome_iff_exists.mp (hexit rfl)
      have hgrows := build.grows_refl
      rw [hchoices] at hgrows
      exact ⟨.empty, _, target, _, .choicesEnd, hgrows⟩
  | @choiceBranchesCons start index branch others build entered ended converged final henter _
      hconverge _ ih₁ ih₂ =>
      intro starts rest checkpoint entry exit choices hsuits hchoices hexit
      have hgrows := build.grows_refl.enterChoiceBranch henter
      rw [hchoices] at hgrows
      obtain ⟨piece₁, next₁, last, hlays₁, hgrows₁⟩ :=
        ih₁ starts (.join :: rest) checkpoint (hsuits.grows hgrows)
      rw [hgrows.next_eq, hgrows.cursor_eq] at hlays₁
      rw [hgrows.choices_eq] at hgrows₁
      refine hlays₁.converge hsuits (hgrows.trans hgrows₁) hconverge ?_
      intro joined hsuits' hchoices'
      exact ih₂ starts rest checkpoint entry _ choices hsuits' hchoices' (fun _ => rfl)
  | @directedBranchesNil start index build =>
      intro starts rest checkpoint entry exit choices hsuits hchoices hexit
      obtain ⟨target, rfl⟩ := Option.isSome_iff_exists.mp (hexit rfl)
      have hgrows := build.grows_refl
      rw [hchoices] at hgrows
      exact ⟨.empty, _, target, _, .choicesEnd, hgrows⟩
  | @directedBranchesCons start index exchange body others build entered selected registered ended
      converged final henter hselect hregister _ hconverge _ ih₁ ih₂ =>
      intro starts rest checkpoint entry exit choices hsuits hchoices hexit
      have hentered := build.grows_refl.enterChoiceBranch henter
      rw [hchoices] at hentered
      have hgrows := (hentered.interaction (agendaOf body ++ .join :: rest) hselect).registerDispatch
        hregister
      obtain ⟨piece₁, next₁, last, hlays₁, hgrows₁⟩ :=
        ih₁ starts (.join :: rest) (agendaOf body ++ .join :: rest) (hsuits.grows hgrows)
      rw [hgrows.next_eq, hgrows.cursor_eq] at hlays₁
      rw [hgrows.choices_eq] at hgrows₁
      have hlays : Lays mode starts (.join :: rest) checkpoint
          (.activities (DirectedBranch.mk exchange body).activities) build.arena.next start _ next₁
          last := .cons .interaction hlays₁
      refine hlays.converge hsuits (hgrows.trans hgrows₁) hconverge ?_
      intro joined hsuits' hchoices'
      exact ih₂ starts rest checkpoint entry _ choices hsuits' hchoices' (fun _ => rfl)
  | @parallelBranchesNil anchor index build =>
      intro starts rest checkpoint hsuits
      exact ⟨.empty, _, .regionsEnd, build.grows_refl⟩
  | @parallelBranchesCons anchor index branch others build entered ended left final henter _ hleave _
      ih₁ ih₂ =>
      intro starts rest checkpoint hsuits
      obtain ⟨inner, done, last, hlays₁, hgrows₁⟩ :=
        ih₁ _ [] (agendaOf branch) (hsuits.branch henter)
      obtain ⟨hnext, hscopes⟩ := Compiler.enterParallelBranch_eq_ok henter
      rw [hnext, hscopes] at hlays₁
      obtain ⟨automaton, hcompleted, hgrows⟩ :=
        Compiler.grows_of_parallelBranch henter hgrows₁ hleave
      obtain ⟨piece, next, hlays₂, hgrows₂⟩ := ih₂ starts rest checkpoint (hsuits.grows hgrows)
      rw [hgrows.next_eq] at hlays₂
      rw [hgrows.cursor_eq, hgrows.choices_eq] at hgrows₂
      exact ⟨_, next, .regionsNext hlays₁ hcompleted hlays₂, hgrows.trans hgrows₂⟩

end Conversation

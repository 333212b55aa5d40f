import Conversation.Proofs.LoopFolding

/-!
Which states of a compiled automaton can be reached. The code after a recursive call is dead, and so
is what only dead code leads to; but dead code is compiled as any other, and its transitions may
join live code. Whether code is live can be read off the protocol, and a state can be reached
exactly if it is allocated for live code.
-/

namespace Conversation

mutual

/-- Whether an activity ends live, if it starts live or dead. -/
def Activity.liveAfter : Activity → (live : Bool) → Bool
  | .interaction _, live => live
  | .choice branches, live => liveAfterSome branches live
  | .directedChoice _ _ branches, live => liveAfterDirected branches live
  | .parallel _, live => live
  | .loop body, live => liveAfterAll body live
  | .recursion _ body, live => liveAfterAll body live
  | .call _, _ => false
  | .escape body _ handler, live => liveAfterAll handler (liveAfterAll body live)
  | .finish, live => live

def liveAfterAll : List Activity → (live : Bool) → Bool
  | [], live => live
  | first :: rest, live => liveAfterAll rest (first.liveAfter live)

def liveAfterSome : List (List Activity) → (live : Bool) → Bool
  | [], _ => false
  | branch :: rest, live => liveAfterAll branch live || liveAfterSome rest live

def liveAfterDirected : List DirectedBranch → (live : Bool) → Bool
  | [], _ => false
  | .mk _ body :: rest, live => liveAfterAll body live || liveAfterDirected rest live

end

/-- A state of an automaton, and whether it is allocated for live code. -/
structure Site where
  state : State
  live : Bool
  deriving DecidableEq

namespace Position

def site (position : Position) (live : Bool) : Site :=
  ⟨position.cursor, live⟩

/-- The site of the exit of a choice, after the branch that allocates it. -/
def exitSites (ended : Position) (exit : Option State) (live : Bool) : List Site :=
  exit.elim [⟨ended.next, live⟩] fun _ => []

def headSites (position : Position) (live : Bool) : LoopMode → List Site
  | .once => []
  | .loop => [⟨position.next, live⟩]

end Position

mutual

/-- The sites of the states that an activity allocates, in order, without those inside of parallel
branches. -/
def Activity.sites (mode : LoopMode) : Activity → (live : Bool) → Position → List Site
  | .interaction _, live, position => [⟨position.next, live⟩]
  | .choice branches, live, position =>
      sitesOfChoices mode (liveAfterSome branches live) none branches live position
  | .directedChoice _ _ branches, live, position =>
      sitesOfDirected mode (liveAfterDirected branches live) none branches live position
  | .parallel _, live, position => [⟨position.next, live⟩]
  | .loop body, live, position =>
      position.headSites live mode ++ sitesOf mode body live (position.enterLoop mode)
  | .recursion _ body, live, position => sitesOf mode body live position
  | .call _, _, position => [⟨position.next, false⟩]
  | .escape body _ handler, live, position =>
      sitesOf mode body live position ++
        sitesOf mode handler (liveAfterAll body live) (afterAll mode body position)
  | .finish, _, _ => []

def sitesOf (mode : LoopMode) : List Activity → (live : Bool) → Position → List Site
  | [], _, _ => []
  | first :: rest, live, position =>
      first.sites mode live position ++
        sitesOf mode rest (first.liveAfter live) (first.after mode position)

/-- The branches of a choice whose exit is live or dead. -/
def sitesOfChoices (mode : LoopMode) (exitLive : Bool) :
    (exit : Option State) → List (List Activity) → (live : Bool) → Position → List Site
  | _, [], _, _ => []
  | exit, branch :: rest, live, position =>
      let ended := afterAll mode branch position
      sitesOf mode branch live position ++ ended.exitSites exit exitLive ++
        sitesOfChoices mode exitLive (some (ended.exit exit)) rest live
          (ended.resume exit position.cursor)

def sitesOfDirected (mode : LoopMode) (exitLive : Bool) :
    (exit : Option State) → List DirectedBranch → (live : Bool) → Position → List Site
  | _, [], _, _ => []
  | exit, .mk _ body :: rest, live, position =>
      let ended := afterAll mode body (.fresh position.next)
      ⟨position.next, live⟩ :: sitesOf mode body live (.fresh position.next) ++
        ended.exitSites exit exitLive ++
        sitesOfDirected mode exitLive (some (ended.exit exit)) rest live
          (ended.resume exit position.cursor)

end

def Keeps (states : Set State) (transitions : List Transition) : Prop :=
  ∀ transition ∈ transitions, transition.source ∈ states → transition.target ∈ states

theorem keeps_append_iff {states : Set State} {first second : List Transition} :
    Keeps states (first ++ second) ↔ Keeps states first ∧ Keeps states second :=
  List.forall_mem_append

theorem keeps_singleton_iff {states : Set State} {transition : Transition} :
    Keeps states [transition] ↔ (transition.source ∈ states → transition.target ∈ states) :=
  List.forall_mem_singleton

def Site.Within (site : Site) (states : Set State) : Prop :=
  site.live = true → site.state ∈ states

def Site.MarkedBy (site : Site) (states : Set State) : Prop :=
  site.state ∈ states ↔ site.live = true

def Starts.Within (starts : Starts) (states : Set State) : Prop :=
  ∀ label start, starts label = some start → start ∈ states

/-- A part of a protocol allocates states for the sites, and leads from one site to another. Its
transitions lead from live code to live code, where a dead part may call recursions that started
dead; and every set that has its source and that they do not leave has all of its live sites. -/
structure Contribution.Spreads (contribution : Contribution) (starts : Starts) (source : Site)
    (sites : List Site) (target : Site) : Prop where
  states_eq : contribution.states = sites.map Site.state
  target_mem : target ∈ source :: sites
  live_of_live : target.live = true → source.live = true
  keeps : ∀ live : Set State, source.MarkedBy live → (∀ site ∈ sites, site.MarkedBy live) →
    (source.live = true → starts.Within live) → Keeps live contribution.transitions
  within : ∀ reached : Set State, Keeps reached contribution.transitions →
    source.Within reached → ∀ site ∈ sites, site.Within reached

namespace Contribution.Spreads

variable {first second contribution : Contribution} {starts : Starts}
  {source between target : Site} {sites sites' : List Site}

theorem target_markedBy (h : contribution.Spreads starts source sites target) {live : Set State}
    (hsource : source.MarkedBy live) (hsites : ∀ site ∈ sites, site.MarkedBy live) :
    target.MarkedBy live := by
  rcases List.mem_cons.mp h.target_mem with rfl | hmem
  · exact hsource
  · exact hsites target hmem

theorem target_within (h : contribution.Spreads starts source sites target) {reached : Set State}
    (hkeeps : Keeps reached contribution.transitions) (hsource : source.Within reached) :
    target.Within reached := by
  rcases List.mem_cons.mp h.target_mem with rfl | hmem
  · exact hsource
  · exact h.within reached hkeeps hsource target hmem

theorem stay (hstates : contribution.states = []) (htransitions : contribution.transitions = []) :
    contribution.Spreads starts source [] source where
  states_eq := hstates
  target_mem := List.mem_singleton_self source
  live_of_live := id
  keeps _ _ _ _ := by
    rw [htransitions]
    exact List.forall_mem_nil _
  within _ _ _ := List.forall_mem_nil _

theorem name (roles : List Role) : (Contribution.name roles).Spreads starts source [] source :=
  stay rfl rfl

theorem select (state : State) (entry : DispatchEntry) :
    (Contribution.select state entry).Spreads starts source [] source :=
  stay rfl rfl

theorem move {transition : Transition} (hstates : contribution.states = [target.state])
    (htransitions : contribution.transitions = [transition])
    (hsource : transition.source = source.state) (htarget : transition.target = target.state)
    (hlive : target.live = source.live) : contribution.Spreads starts source [target] target where
  states_eq := hstates
  target_mem := List.mem_cons_of_mem _ (List.mem_singleton_self target)
  live_of_live h := hlive ▸ h
  keeps live hmarked hsites _ := by
    rw [htransitions, keeps_singleton_iff, hsource, htarget]
    intro hmem
    have hlive := hlive.trans (hmarked.mp hmem)
    exact (hsites target (List.mem_singleton_self target)).mpr hlive
  within reached hkeeps hwithin := by
    rw [htransitions, keeps_singleton_iff, hsource, htarget] at hkeeps
    refine List.forall_mem_singleton.mpr ?_
    intro htarget
    exact hkeeps (hwithin (hlive ▸ htarget))

theorem interaction (exchange : Interaction) (due : Option State) (position : Position)
    (live : Bool) :
    (exchange.contribution due position).Spreads starts (position.site live)
      [⟨position.next, live⟩] ((Position.fresh position.next).site live) :=
  move rfl rfl rfl rfl rfl

theorem append (h : first.Spreads starts source sites between)
    (h' : second.Spreads starts between sites' target) :
    (first ++ second).Spreads starts source (sites ++ sites') target where
  states_eq := by rw [states_append, h.states_eq, h'.states_eq, List.map_append]
  target_mem := by
    rcases List.mem_cons.mp h'.target_mem with rfl | hmem
    · exact List.mem_append_left sites' h.target_mem
    · exact List.mem_cons_of_mem _ (List.mem_append_right _ hmem)
  live_of_live hlive := h.live_of_live (h'.live_of_live hlive)
  keeps live hsource hsites hstarts := by
    obtain ⟨hfirst, hsecond⟩ := List.forall_mem_append.mp hsites
    rw [transitions_append, keeps_append_iff]
    refine ⟨h.keeps live hsource hfirst hstarts, ?_⟩
    refine h'.keeps live (h.target_markedBy hsource hfirst) hsecond ?_
    intro hbetween
    exact hstarts (h.live_of_live hbetween)
  within reached hkeeps hsource := by
    obtain ⟨hfirst, hsecond⟩ := keeps_append_iff.mp hkeeps
    have hbetween := h.target_within hfirst hsource
    exact List.forall_mem_append.mpr
      ⟨h.within reached hfirst hsource, h'.within reached hsecond hbetween⟩

theorem mark (h : contribution.Spreads starts source sites target) (state : State) :
    (contribution ++ .mark state).Spreads starts source sites target := by
  have hmark : (Contribution.mark state).Spreads starts target [] target := stay rfl rfl
  have hmarked := h.append hmark
  rwa [List.append_nil] at hmarked

theorem complete {ended : Position} {live : Bool}
    (h : contribution.Spreads starts source sites (ended.site live)) :
    (contribution ++ ended.completing).Spreads starts source (sites ++ [⟨ended.next, live⟩])
      ⟨ended.next, live⟩ :=
  h.append (move rfl rfl rfl rfl rfl)

theorem recursion {label : String}
    (h : contribution.Spreads (starts.within label source.state) source sites target) :
    contribution.Spreads starts source sites target where
  states_eq := h.states_eq
  target_mem := h.target_mem
  live_of_live := h.live_of_live
  keeps live hsource hsites hstarts := by
    refine h.keeps live hsource hsites ?_
    intro hlive asked start hstart
    rw [Starts.within] at hstart
    split at hstart
    · obtain rfl := Option.some.inj hstart
      exact hsource.mpr hlive
    · exact hstarts hlive asked start hstart
  within := h.within

theorem call (label : String) (position : Position) (live : Bool) :
    (Contribution.edge (.silent position.cursor ((starts label).getD position.cursor)) ++
      .place position.next).Spreads starts (position.site live) [⟨position.next, false⟩]
        ⟨position.next, false⟩ where
  states_eq := rfl
  target_mem := by simp
  live_of_live h := absurd h (by simp)
  keeps states hsource _ hstarts := by
    refine keeps_singleton_iff.mpr ?_
    intro hmem
    change (starts label).getD position.cursor ∈ states
    cases hstart : starts label with
    | none => exact hmem
    | some start => exact hstarts (hsource.mp hmem) label start hstart
  within _ _ _ := by
    refine List.forall_mem_singleton.mpr ?_
    intro h
    exact absurd h (by simp)

/-- The transition back to the head of a loop comes from live code only if the head is live. -/
theorem closingLoop {mode : LoopMode} {head ended : Position} {live live' : Bool}
    (h : contribution.Spreads starts (head.site live) sites (ended.site live')) :
    (contribution ++ ended.closingLoop head.cursor mode).Spreads starts (head.site live) sites
      (ended.site live') := by
  cases mode with
  | once =>
      rw [Position.closingLoop, append_empty]
      exact h
  | loop =>
      refine ⟨?_, h.target_mem, h.live_of_live, ?_, ?_⟩
      · exact (List.append_nil _).trans h.states_eq
      · intro states hsource hsites hstarts
        refine keeps_append_iff.mpr ⟨h.keeps states hsource hsites hstarts, ?_⟩
        refine keeps_singleton_iff.mpr ?_
        intro hmem
        have hended := (h.target_markedBy hsource hsites).mp hmem
        exact hsource.mpr (h.live_of_live hended)
      · intro reached hkeeps hsource
        exact h.within reached (keeps_append_iff.mp hkeeps).1 hsource

theorem openingLoop (mode : LoopMode) (position : Position) (live : Bool) :
    (position.openingLoop mode).Spreads starts (position.site live) (position.headSites live mode)
      ((position.enterLoop mode).site live) := by
  cases mode with
  | once => exact .stay rfl rfl
  | loop => exact .move rfl rfl rfl rfl rfl

end Contribution.Spreads

/-- Branches of a choice lead from its source to its exit, which may be allocated by one of them.
The exit is reached if one of the branches ends live; and it must be reached, if it is live, for all
live sites to be so. -/
structure Contribution.Joins (contribution : Contribution) (starts : Starts) (source : Site)
    (sites : List Site) (exit : Site) (ends : Bool) : Prop where
  states_eq : contribution.states = sites.map Site.state
  live_of_ends : ends = true → source.live = true
  keeps : ∀ live : Set State, source.MarkedBy live → (∀ site ∈ sites, site.MarkedBy live) →
    exit.MarkedBy live → (ends = true → exit.live = true) →
    (source.live = true → starts.Within live) → Keeps live contribution.transitions
  exit_mem : ∀ reached : Set State, Keeps reached contribution.transitions →
    source.Within reached → ends = true → exit.state ∈ reached
  within : ∀ reached : Set State, Keeps reached contribution.transitions →
    source.Within reached → exit.Within reached → ∀ site ∈ sites, site.Within reached

namespace Contribution.Joins

variable {first second contribution : Contribution} {starts : Starts}
  {source exit : Site} {sites sites' : List Site} {ends ends' : Bool}

theorem none : Contribution.empty.Joins starts source [] exit false where
  states_eq := rfl
  live_of_ends h := absurd h (by simp)
  keeps _ _ _ _ _ _ := List.forall_mem_nil _
  exit_mem _ _ _ h := absurd h (by simp)
  within _ _ _ _ := List.forall_mem_nil _

theorem append (h : first.Joins starts source sites exit ends)
    (h' : second.Joins starts source sites' exit ends') :
    (first ++ second).Joins starts source (sites ++ sites') exit (ends || ends') where
  states_eq := by rw [states_append, h.states_eq, h'.states_eq, List.map_append]
  live_of_ends hends := (Bool.or_eq_true_iff.mp hends).elim h.live_of_ends h'.live_of_ends
  keeps live hsource hsites hexit hends hstarts := by
    obtain ⟨hfirst, hsecond⟩ := List.forall_mem_append.mp hsites
    refine keeps_append_iff.mpr ⟨?_, ?_⟩
    · refine h.keeps live hsource hfirst hexit ?_ hstarts
      intro hended
      exact hends (Bool.or_eq_true_iff.mpr (.inl hended))
    · refine h'.keeps live hsource hsecond hexit ?_ hstarts
      intro hended
      exact hends (Bool.or_eq_true_iff.mpr (.inr hended))
  exit_mem reached hkeeps hsource hends := by
    obtain ⟨hfirst, hsecond⟩ := keeps_append_iff.mp hkeeps
    exact (Bool.or_eq_true_iff.mp hends).elim (h.exit_mem reached hfirst hsource)
      (h'.exit_mem reached hsecond hsource)
  within reached hkeeps hsource hexit := by
    obtain ⟨hfirst, hsecond⟩ := keeps_append_iff.mp hkeeps
    exact List.forall_mem_append.mpr
      ⟨h.within reached hfirst hsource hexit, h'.within reached hsecond hsource hexit⟩

theorem branch {ended : Position} {allocated : Option State} {state : State} {live exitLive : Bool}
    (h : contribution.Spreads starts source sites (ended.site live))
    (hstate : state = ended.exit allocated) :
    (contribution ++ ended.joining allocated).Joins starts source
      (sites ++ ended.exitSites allocated exitLive) ⟨state, exitLive⟩ live := by
  subst hstate
  have htransitions : (contribution ++ ended.joining allocated).transitions =
      contribution.transitions ++ [.silent ended.cursor (ended.exit allocated)] := by
    cases allocated with
    | none => rfl
    | some _ => rfl
  have hexits : ∀ site ∈ ended.exitSites allocated exitLive,
      site = ⟨ended.exit allocated, exitLive⟩ := by
    cases allocated with
    | none => exact fun site => List.mem_singleton.mp
    | some _ => exact List.forall_mem_nil _
  have hstates : (ended.joining allocated).states =
      (ended.exitSites allocated exitLive).map Site.state := by
    cases allocated with
    | none => rfl
    | some _ => rfl
  constructor
  · rw [states_append, h.states_eq, hstates, List.map_append]
  · exact h.live_of_live
  · intro states hsource hmarked hexit hends hstarts
    have hsites := (List.forall_mem_append.mp hmarked).1
    rw [htransitions, keeps_append_iff, keeps_singleton_iff]
    refine ⟨h.keeps states hsource hsites hstarts, ?_⟩
    intro hmem
    exact hexit.mpr (hends ((h.target_markedBy hsource hsites).mp hmem))
  · intro reached hkeeps hsource hlive
    rw [htransitions, keeps_append_iff, keeps_singleton_iff] at hkeeps
    exact hkeeps.2 (h.target_within hkeeps.1 hsource hlive)
  · intro reached hkeeps hsource hexit
    rw [htransitions, keeps_append_iff] at hkeeps
    refine List.forall_mem_append.mpr ⟨h.within reached hkeeps.1 hsource, ?_⟩
    intro site hsite
    exact hexits site hsite ▸ hexit

theorem spreads (h : contribution.Joins starts source sites exit ends) (hlive : exit.live = ends)
    (hmem : exit ∈ sites) : contribution.Spreads starts source sites exit where
  states_eq := h.states_eq
  target_mem := List.mem_cons_of_mem _ hmem
  live_of_live hexit := h.live_of_ends (hlive ▸ hexit)
  keeps live hsource hsites hstarts :=
    h.keeps live hsource hsites (hsites exit hmem) (fun hends => hlive ▸ hends) hstarts
  within reached hkeeps hsource := by
    refine h.within reached hkeeps hsource ?_
    intro hexit
    exact h.exit_mem reached hkeeps hsource (hlive ▸ hexit)

end Contribution.Joins

section Exits

variable (mode : LoopMode) (exitLive live : Bool) (position : Position)

theorem exit_mem_sitesOfChoices {branches : List (List Activity)} (h : branches ≠ []) :
    (afterChoices mode none branches position).site exitLive ∈
      sitesOfChoices mode exitLive none branches live position := by
  cases branches with
  | nil => exact absurd rfl h
  | cons branch rest =>
      rw [afterChoices, Position.site, cursor_afterChoices_some, sitesOfChoices]
      exact List.mem_append_left _ (List.mem_append_right _ (List.mem_singleton_self _))

theorem exit_mem_sitesOfDirected {branches : List DirectedBranch} (h : branches ≠ []) :
    (afterDirected mode none branches position).site exitLive ∈
      sitesOfDirected mode exitLive none branches live position := by
  cases branches with
  | nil => exact absurd rfl h
  | cons branch rest =>
      obtain ⟨exchange, body⟩ := branch
      rw [afterDirected, Position.site, cursor_afterDirected_some, sitesOfDirected]
      exact List.mem_append_left _ (List.mem_append_right _ (List.mem_singleton_self _))

end Exits

def Work.Spreading (mode : LoopMode) : Work → Prop
  | .activity one => ∀ starts due live position,
      (one.contribution mode starts due position).Spreads starts (position.site live)
        (one.sites mode live position) ((one.after mode position).site (one.liveAfter live))
  | .activities list => ∀ starts due live position,
      (contributionOf mode starts list due position).Spreads starts (position.site live)
        (sitesOf mode list live position)
        ((afterAll mode list position).site (liveAfterAll list live))
  | .choiceBranches _ _ branches => ∀ starts exit live exitLive position,
      (contributionOfChoices mode starts exit branches position).Joins starts (position.site live)
        (sitesOfChoices mode exitLive exit branches live position)
        ((afterChoices mode exit branches position).site exitLive) (liveAfterSome branches live)
  | .directedBranches _ _ branches => ∀ starts exit live exitLive position,
      (contributionOfDirected mode starts exit branches position).Joins starts (position.site live)
        (sitesOfDirected mode exitLive exit branches live position)
        ((afterDirected mode exit branches position).site exitLive)
        (liveAfterDirected branches live)
  | .parallelBranches .. => True

theorem Runs.spreading {mode : LoopMode} {work : Work} {build build' : Build}
    (h : Runs mode work build build') : work.Spreading mode := by
  induction h with
  | nil => exact fun _ _ _ _ => .stay rfl rfl
  | cons _ _ ih₁ ih₂ =>
      intro starts due live position
      exact (ih₁ starts due live position).append (ih₂ starts none _ _)
  | interaction => exact fun _ due live position => .interaction _ due position live
  | choice hne _ _ _ _ ih =>
      intro starts _ live position
      -- Without branches, the choice would end dead at the state where it starts.
      exact (ih starts none live _ position).spreads rfl (exit_mem_sitesOfChoices _ _ _ _ hne)
  | directedChoice hne _ _ _ _ _ _ ih =>
      intro starts _ live position
      have hbranches := (ih starts none live _ position).spreads rfl
        (exit_mem_sitesOfDirected _ _ _ _ hne)
      exact (Contribution.Spreads.name _).append hbranches
  | parallel =>
      intro starts _ live position
      rw [Activity.contribution, contributionOfRegions_eq]
      exact .move rfl rfl rfl rfl rfl
  | loop _ _ _ _ ih =>
      intro starts due live position
      rw [Activity.contribution, Contribution.append_assoc]
      have hbody := ih starts due live (position.enterLoop mode)
      exact (Contribution.Spreads.openingLoop mode position live).append hbody.closingLoop
  | recursion _ _ _ _ ih => exact fun _ due live position => (ih _ due live position).recursion
  | call => exact fun _ _ live position => .call _ position live
  | escape _ _ _ _ _ _ _ _ ih₁ ih₂ =>
      intro starts due live position
      have hbody := ih₁ starts none live position
      exact .append (.mark (.append (.name _) hbody) _) (ih₂ starts (some _) _ _)
  | finish => exact fun _ _ _ _ => .stay rfl rfl
  | choiceBranchesNil => exact fun _ _ _ _ _ => .none
  | choiceBranchesCons _ _ _ _ ih₁ ih₂ =>
      intro starts exit live exitLive position
      have hbranch := ih₁ starts none live position
      exact .append (.branch hbranch (cursor_afterChoices_some ..)) (ih₂ starts (some _) live _ _)
  | directedBranchesNil => exact fun _ _ _ _ _ => .none
  | directedBranchesCons _ _ _ _ _ _ ih₁ ih₂ =>
      intro starts exit live exitLive position
      have hbody := ih₁ starts none live (.fresh position.next)
      refine .append (.branch ?_ (cursor_afterDirected_some ..)) (ih₂ starts (some _) live _ _)
      exact .append (.append (.interaction _ none position live) (.select _ _)) hbody
  | parallelBranchesNil => trivial
  | parallelBranchesCons => trivial

namespace Automaton

inductive Reachable (automaton : Automaton) : State → Prop
  | initial : Reachable automaton automaton.initial
  | step {transition : Transition} : transition ∈ automaton.transitions →
      Reachable automaton transition.source → Reachable automaton transition.target

variable {automaton : Automaton}

theorem Reachable.mem {state : State} (h : automaton.Reachable state) {states : Set State}
    (hinitial : automaton.initial ∈ states) (hkeeps : Keeps states automaton.transitions) :
    state ∈ states := by
  induction h with
  | initial => exact hinitial
  | step htransition _ ih => exact hkeeps _ htransition ih

/-- The states of the automaton are allocated for the sites, in the same order, and those at live
sites can be reached, but no others. -/
structure LivesAt (automaton : Automaton) (sites : List Site) : Prop where
  states_eq : automaton.states = sites.map Site.state
  reachable_iff : ∀ site ∈ sites, automaton.Reachable site.state ↔ site.live = true

def liveStates (sites : List Site) : Set State :=
  {state | ∃ site ∈ sites, site.state = state ∧ site.live = true}

theorem markedBy_liveStates {sites : List Site} (h : (sites.map Site.state).Nodup) :
    ∀ site ∈ sites, site.MarkedBy (liveStates sites) := by
  intro site hsite
  constructor
  · rintro ⟨other, hother, hstate, hlive⟩
    exact List.inj_on_of_nodup_map h hother hsite hstate ▸ hlive
  · exact fun hlive => ⟨site, hsite, rfl, hlive⟩

theorem LivesAt.of_spreads {contribution : Contribution} {sites : List Site} {target : Site}
    (h : contribution.Spreads (fun _ => none) ⟨automaton.initial, true⟩ sites target)
    (hconsists : automaton.Consists contribution) (hnodup : automaton.states.Nodup) :
    automaton.LivesAt (⟨automaton.initial, true⟩ :: sites) := by
  have hstates : automaton.states = (⟨automaton.initial, true⟩ :: sites).map Site.state := by
    rw [hconsists.states_eq, h.states_eq, List.map_cons]
  refine ⟨hstates, ?_⟩
  have hmarked := markedBy_liveStates (hstates ▸ hnodup)
  obtain ⟨hinitial, hsites⟩ := List.forall_mem_cons.mp hmarked
  have hkeeps := h.keeps _ hinitial hsites (by simp [Starts.Within])
  rw [← hconsists.transitions_eq] at hkeeps
  intro site hsite
  constructor
  · intro hreachable
    exact (hmarked site hsite).mp (hreachable.mem (hinitial.mpr rfl) hkeeps)
  · have hclosed : Keeps {state | automaton.Reachable state} contribution.transitions := by
      rw [← hconsists.transitions_eq]
      intro transition htransition hsource
      exact Reachable.step htransition hsource
    have hreached := h.within _ hclosed (fun _ => .initial)
    rcases List.mem_cons.mp hsite with rfl | hmem
    · exact fun _ => .initial
    · exact hreached site hmem

end Automaton

def sitesFrom (mode : LoopMode) (activities : List Activity) (initial : State) : List Site :=
  ⟨initial, true⟩ :: sitesOf mode activities true (.fresh initial)

/-- The automaton of a parallel branch has one more state, where it is completed. -/
def branchSites (mode : LoopMode) (activities : List Activity) (initial : State) : List Site :=
  sitesFrom mode activities initial ++
    [⟨(afterAll mode activities (.fresh initial)).next, liveAfterAll activities true⟩]

/-- A state of a compiled automaton, or of an automaton nested in it, can be reached exactly if it
is allocated for live code. -/
theorem Protocol.livesAt_of_compile {protocol : Protocol} {options : CompileOptions}
    {automaton : Automaton} (h : protocol.compile options = .ok automaton) :
    automaton.LivesAt (sitesFrom options.loops protocol.activities automaton.initial) ∧
      EachBranch
        (fun activities branch =>
          branch.LivesAt (branchSites options.loops activities branch.initial))
        protocol.activities automaton := by
  constructor
  · obtain ⟨ended, hruns, -⟩ := exists_run_of_compile h
    obtain ⟨hinitial, -, hconsists⟩ := consists_of_compile h
    obtain ⟨-, -, hwellFormed, -⟩ := coherent_of_compile h
    rw [← hinitial] at hconsists
    have hspreads := hruns.spreading (fun _ => none) none true (.fresh automaton.initial)
    exact .of_spreads (hspreads.mark _) hconsists (hwellFormed.ascending.imp ne_of_lt)
  · refine (branches_consist_of_compile h).imp ?_
    rintro activities branch ⟨hbuilds, hconsists⟩
    have hascending := hbuilds.wellFormed.1.ascending
    obtain ⟨build, ended, -, hruns, -⟩ := hbuilds
    have hspreads := hruns.spreading (fun _ => none) none true (.fresh branch.initial)
    exact .of_spreads hspreads.complete hconsists (hascending.imp ne_of_lt)

/-- A protocol with code behind the calls of its recursions, which is dead except where the other
branch of a choice joins it. -/
def persistence : Protocol :=
  .bare "Persistence"
    [.recursion "again"
      [.choice
        [[.interaction (.bare .send (some "retry") ⟨"Peer"⟩), .call "again",
            .interaction (.bare .send (some "pause") ⟨"Peer"⟩)],
          [.interaction (.bare .receive (some "done") ⟨"Peer"⟩)]]],
      .parallel
        [[.recursion "beat"
            [.interaction (.bare .send (some "alive") ⟨"Peer"⟩), .call "beat"]],
          [.interaction (.bare .receive (some "stop") ⟨"Peer"⟩)]]]

theorem persistence_livesAt : ∃ automaton, persistence.compile ⟨.loop⟩ = .ok automaton ∧
    sitesFrom .loop persistence.activities automaton.initial =
      [⟨0, true⟩, ⟨1, true⟩, ⟨2, false⟩, ⟨3, false⟩, ⟨4, true⟩, ⟨5, true⟩, ⟨6, true⟩] ∧
    automaton.LivesAt (sitesFrom .loop persistence.activities automaton.initial) ∧
      EachBranch
        (fun activities branch => branch.LivesAt (branchSites .loop activities branch.initial))
        persistence.activities automaton := by
  have hok : (persistence.compile ⟨.loop⟩).isOk = true := by decide +kernel
  obtain ⟨automaton, hcompile⟩ := Protocol.exists_eq_ok hok
  obtain ⟨-, -, hinitial, -⟩ := Protocol.exists_run_of_compile hcompile
  refine ⟨automaton, hcompile, ?_, Protocol.livesAt_of_compile hcompile⟩
  rw [hinitial]
  decide

end Conversation

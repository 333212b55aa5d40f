import Conversation.Proofs.Verdict

namespace Conversation

/-- The open recursions up to the innermost branch, with the labels closed inside each. -/
def openRecursions : List OpenScope → List (String × List String)
  | [] => []
  | scope :: scopes =>
      match scope.kind with
      | .recursion label _ => (label, scope.closed) :: openRecursions scopes
      | _ => []

/-- Whether the first recursion that has to say something about a label is its own. -/
def answers (label : String) : List (String × List String) → Bool
  | [] => false
  | (own, closed) :: rest =>
      if own = label then true else if label ∈ closed then false else answers label rest

theorem callable_iff_answers {label : String} {scopes : List OpenScope} :
    Callable label scopes ↔ answers label (openRecursions scopes) = true := by
  rw [callable_iff]
  induction scopes with
  | nil => simp [verdict, openRecursions, answers]
  | cons scope rest ih =>
      obtain ⟨kind, closed⟩ := scope
      cases kind with
      | root | branch =>
          by_cases hclosed : label ∈ closed <;>
            simp [verdict, OpenScope.verdict, OpenScope.defines, openRecursions, answers, hclosed]
      | recursion own start =>
          by_cases hown : own = label
          · simp [verdict, OpenScope.verdict, OpenScope.defines, openRecursions, answers, hown]
          · by_cases hclosed : label ∈ closed <;>
              simp [verdict, OpenScope.verdict, OpenScope.defines, openRecursions, answers, hown,
                hclosed, ih]

theorem openRecursions_closeAll (labels : List String) (scopes : List OpenScope) :
    openRecursions (closeAll labels scopes) =
      match openRecursions scopes with
      | [] => []
      | (own, closed) :: rest => (own, labels ++ closed) :: rest := by
  cases scopes with
  | nil => rfl
  | cons scope scopes =>
      obtain ⟨kind, closed⟩ := scope
      cases kind <;> rfl

/-- The second setting has the same open recursions, and an interrupt is armed in it only if one is
armed in the first. -/
structure Setting.Covers (setting setting' : Setting) : Prop where
  recursions_eq : openRecursions setting'.scopes = openRecursions setting.scopes
  armed_of_armed : setting'.armed = true → setting.armed = true

section Modes

variable {mode mode' : LoopMode}

theorem once_and_imp (hmode : mode' = .once → mode = .once) {here here' : Bool}
    (h : here' = true → here = true) :
    (decide (mode' = .once) && here') = true → (decide (mode = .once) && here) = true := by
  simp only [Bool.and_eq_true, decide_eq_true_eq]
  exact And.imp hmode h

mutual

theorem Activity.stays_imp (hmode : mode' = .once → mode = .once) :
    ∀ one : Activity, one.stays mode' = true → one.stays mode = true
  | .interaction _ => id
  | .choice _ => id
  | .directedChoice .. => id
  | .parallel _ => id
  | .loop body => once_and_imp hmode (staysAll_imp hmode body)
  | .recursion _ body => staysAll_imp hmode body
  | .call _ => id
  | .escape body _ handler => by
      simp only [Activity.stays, Bool.and_eq_true]
      exact And.imp (staysAll_imp hmode body) (staysAll_imp hmode handler)
  | .finish => id

theorem staysAll_imp (hmode : mode' = .once → mode = .once) :
    ∀ list : List Activity, staysAll mode' list = true → staysAll mode list = true
  | [] => id
  | first :: rest => by
      simp only [staysAll, Bool.and_eq_true]
      exact And.imp (first.stays_imp hmode) (staysAll_imp hmode rest)

end

mutual

theorem Activity.arms_imp (hmode : mode' = .once → mode = .once) :
    ∀ one : Activity, one.arms mode' = true → one.arms mode = true
  | .interaction _ => id
  | .choice branches => armsAny_imp hmode branches
  | .directedChoice .. => id
  | .parallel _ => id
  | .loop body => once_and_imp hmode (armsAll_imp hmode body)
  | .recursion _ body => armsAll_imp hmode body
  | .call _ => id
  | .escape body _ _ => by
      simp only [Activity.arms, Bool.or_eq_true]
      exact Or.imp (armsAll_imp hmode body) (staysAll_imp hmode body)
  | .finish => id

theorem armsAll_imp (hmode : mode' = .once → mode = .once) :
    ∀ list : List Activity, armsAll mode' list = true → armsAll mode list = true
  | [] => id
  | first :: rest => by
      simp only [armsAll, Bool.or_eq_true, Bool.and_eq_true]
      exact Or.imp (first.arms_imp hmode) (And.imp (first.stays_imp hmode) (armsAll_imp hmode rest))

theorem armsAny_imp (hmode : mode' = .once → mode = .once) :
    ∀ branches : List (List Activity), armsAny mode' branches = true → armsAny mode branches = true
  | [] => id
  | branch :: rest => by
      simp only [armsAny, Bool.or_eq_true]
      exact Or.imp (armsAll_imp hmode branch) (armsAny_imp hmode rest)

end

mutual

theorem Activity.armedAfter_imp (hmode : mode' = .once → mode = .once) :
    ∀ (one : Activity) {armed armed' : Bool},
    (armed' = true → armed = true) →
      one.armedAfter mode' armed' = true → one.armedAfter mode armed = true
  | .interaction _, _, _, _ => id
  | .choice _, _, _, h => by
      simp only [Activity.armedAfter, Bool.and_eq_true]
      exact And.imp_right h
  | .directedChoice .., _, _, h => by
      simp only [Activity.armedAfter, Bool.and_eq_true]
      exact And.imp_right h
  | .parallel _, _, _, _ => id
  | .loop body, _, _, h => armedAfterAll_imp hmode body (once_and_imp hmode h)
  | .recursion _ body, _, _, h => armedAfterAll_imp hmode body h
  | .call _, _, _, _ => id
  | .escape _ _ handler, _, _, _ => armedAfterAll_imp hmode handler id
  | .finish, _, _, h => h

theorem armedAfterAll_imp (hmode : mode' = .once → mode = .once) :
    ∀ (list : List Activity) {armed armed' : Bool},
    (armed' = true → armed = true) →
      armedAfterAll mode' list armed' = true → armedAfterAll mode list armed = true
  | [], _, _, h => h
  | first :: rest, _, _, h => armedAfterAll_imp hmode rest (first.armedAfter_imp hmode h)

end

end Modes

namespace Setting.Covers

variable {mode mode' : LoopMode} {setting setting' : Setting}

theorem close (h : setting.Covers setting') (labels : List String) :
    openRecursions (closeAll labels setting'.scopes) =
      openRecursions (closeAll labels setting.scopes) := by
  rw [openRecursions_closeAll, openRecursions_closeAll, h.recursions_eq]

theorem after (hmode : mode' = .once → mode = .once) (h : setting.Covers setting')
    (one : Activity) : (setting.after mode one).Covers (setting'.after mode' one) :=
  ⟨h.close one.labels, one.armedAfter_imp hmode h.armed_of_armed⟩

theorem afterAll (hmode : mode' = .once → mode = .once) (h : setting.Covers setting')
    (list : List Activity) : (setting.afterAll mode list).Covers (setting'.afterAll mode' list) :=
  ⟨h.close (labelsOf list), armedAfterAll_imp hmode list h.armed_of_armed⟩

theorem enterLoop (hmode : mode' = .once → mode = .once) (h : setting.Covers setting') :
    (setting.enterLoop mode).Covers (setting'.enterLoop mode') :=
  ⟨h.recursions_eq, once_and_imp hmode h.armed_of_armed⟩

theorem enterRecursion (h : setting.Covers setting') (label : String) :
    (setting.enterRecursion label).Covers (setting'.enterRecursion label) :=
  ⟨congrArg ((label, []) :: ·) h.recursions_eq, h.armed_of_armed⟩

theorem arm (h : setting.Covers setting') : setting.arm.Covers setting'.arm :=
  ⟨h.recursions_eq, id⟩

theorem select (h : setting.Covers setting') : setting.select.Covers setting'.select :=
  ⟨h.recursions_eq, id⟩

theorem resume (h : setting.Covers setting') (ended ended' : Position) (exit exit' : Option State)
    (labels : List String) {arms arms' : Bool} (harms : arms' = true → arms = true) :
    (setting.resume ended exit labels arms).Covers (setting'.resume ended' exit' labels arms') := by
  refine ⟨h.close labels, ?_⟩
  simp only [Setting.resume, Bool.or_eq_true]
  exact Or.imp h.armed_of_armed harms

theorem enterRegion (h : setting.Covers setting') :
    setting.enterRegion.Covers setting'.enterRegion :=
  ⟨h.recursions_eq, h.armed_of_armed⟩

theorem enterBranch (setting setting' : Setting) :
    setting.enterBranch.Covers setting'.enterBranch :=
  ⟨rfl, id⟩

theorem leaveBranch (h : setting.Covers setting') (ended ended' : Position) :
    (setting.leaveBranch ended).Covers (setting'.leaveBranch ended') :=
  ⟨h.recursions_eq, h.armed_of_armed⟩

end Setting.Covers

section Faults

variable {mode mode' : LoopMode}

mutual

theorem Activity.faults_eq_nil_of_covers (hmode : mode' = .once → mode = .once) :
    ∀ (one : Activity) {setting setting' : Setting},
    setting.Covers setting' → one.faults mode setting = [] → one.faults mode' setting' = []
  | .interaction _, _, _, _, _ => rfl
  | .choice branches, _, _, h, hnil => by
      obtain ⟨hcheck, hbranches⟩ := List.append_eq_nil_iff.mp hnil
      exact List.append_eq_nil_iff.mpr
        ⟨hcheck, faultsOfChoices_eq_nil_of_covers hmode none none branches h hbranches⟩
  | .directedChoice _ _ branches, _, _, h, hnil => by
      obtain ⟨hcheck, hbranches⟩ := List.append_eq_nil_iff.mp hnil
      exact List.append_eq_nil_iff.mpr
        ⟨hcheck, faultsOfDirected_eq_nil_of_covers hmode none none branches h hbranches⟩
  | .parallel branches, _, _, h, hnil => by
      obtain ⟨hcheck, hbranches⟩ := List.append_eq_nil_iff.mp hnil
      exact List.append_eq_nil_iff.mpr
        ⟨hcheck, faultsOfRegions_eq_nil_of_covers hmode branches h.enterRegion hbranches⟩
  | .loop body, _, _, h, hnil => by
      obtain ⟨hcheck, hbody⟩ := List.append_eq_nil_iff.mp hnil
      exact List.append_eq_nil_iff.mpr
        ⟨hcheck, faultsOf_eq_nil_of_covers hmode body (h.enterLoop hmode) hbody⟩
  | .recursion label body, _, _, h, hnil => by
      obtain ⟨hcheck, hbody⟩ := List.append_eq_nil_iff.mp hnil
      exact List.append_eq_nil_iff.mpr
        ⟨hcheck, faultsOf_eq_nil_of_covers hmode body (h.enterRecursion label) hbody⟩
  | .call label, setting, setting', h, hnil => by
      simp only [Activity.faults, callable_iff_answers, ite_eq_left_iff] at hnil ⊢
      rwa [h.recursions_eq]
  | .escape body role handler, setting, setting', h, hnil => by
      simp only [Activity.faults, List.append_eq_nil_iff] at hnil ⊢
      obtain ⟨hcheck, hbody, harmed, hhandler⟩ := hnil
      have hanchored := h.afterAll hmode body
      refine ⟨hcheck, faultsOf_eq_nil_of_covers hmode body h hbody, ?_,
        faultsOf_eq_nil_of_covers hmode handler hanchored.arm hhandler⟩
      simp only [ite_eq_right_iff, reduceCtorEq, imp_false] at harmed ⊢
      exact mt hanchored.armed_of_armed harmed
  | .finish, _, _, _, _ => rfl

theorem faultsOf_eq_nil_of_covers (hmode : mode' = .once → mode = .once) :
    ∀ (list : List Activity) {setting setting' : Setting},
    setting.Covers setting' → faultsOf mode list setting = [] → faultsOf mode' list setting' = []
  | [], _, _, _, _ => rfl
  | first :: rest, _, _, h, hnil => by
      obtain ⟨hfirst, hrest⟩ := List.append_eq_nil_iff.mp hnil
      exact List.append_eq_nil_iff.mpr ⟨first.faults_eq_nil_of_covers hmode h hfirst,
        faultsOf_eq_nil_of_covers hmode rest (h.after hmode first) hrest⟩

theorem faultsOfChoices_eq_nil_of_covers (hmode : mode' = .once → mode = .once)
    (exit exit' : Option State) :
    ∀ (branches : List (List Activity)) {setting setting' : Setting}, setting.Covers setting' →
      faultsOfChoices mode exit branches setting = [] →
        faultsOfChoices mode' exit' branches setting' = []
  | [], _, _, _, _ => rfl
  | branch :: rest, _, _, h, hnil => by
      obtain ⟨hbranch, hrest⟩ := List.append_eq_nil_iff.mp hnil
      exact List.append_eq_nil_iff.mpr ⟨faultsOf_eq_nil_of_covers hmode branch h hbranch,
        faultsOfChoices_eq_nil_of_covers hmode _ _ rest
          (h.resume _ _ _ _ _ (armsAll_imp hmode branch)) hrest⟩

theorem faultsOfDirected_eq_nil_of_covers (hmode : mode' = .once → mode = .once)
    (exit exit' : Option State) :
    ∀ (branches : List DirectedBranch) {setting setting' : Setting}, setting.Covers setting' →
      faultsOfDirected mode exit branches setting = [] →
        faultsOfDirected mode' exit' branches setting' = []
  | [], _, _, _, _ => rfl
  | .mk exchange body :: rest, _, _, h, hnil => by
      obtain ⟨hbody, hrest⟩ := List.append_eq_nil_iff.mp hnil
      exact List.append_eq_nil_iff.mpr ⟨faultsOf_eq_nil_of_covers hmode body h.select hbody,
        faultsOfDirected_eq_nil_of_covers hmode _ _ rest (h.resume _ _ _ _ _ id) hrest⟩

theorem faultsOfRegions_eq_nil_of_covers (hmode : mode' = .once → mode = .once) :
    ∀ (branches : List (List Activity)) {setting setting' : Setting}, setting.Covers setting' →
      faultsOfRegions mode branches setting = [] → faultsOfRegions mode' branches setting' = []
  | [], _, _, _, _ => rfl
  | branch :: rest, setting, setting', h, hnil => by
      obtain ⟨hbranch, hrest⟩ := List.append_eq_nil_iff.mp hnil
      exact List.append_eq_nil_iff.mpr
        ⟨faultsOf_eq_nil_of_covers hmode branch (.enterBranch setting setting') hbranch,
          faultsOfRegions_eq_nil_of_covers hmode rest (h.leaveBranch _ _) hrest⟩

end

end Faults

/-- A list of activities that compiles as a protocol of its own. -/
structure Faultless (mode : LoopMode) (list : List Activity) : Prop where
  ne_nil : list ≠ []
  faults_eq_nil : faultsOf mode list .start = []

theorem Faultless.of_once {list : List Activity} (h : Faultless .once list) (mode : LoopMode) :
    Faultless mode list :=
  ⟨h.ne_nil, faultsOf_eq_nil_of_covers (fun _ => rfl) list ⟨rfl, id⟩ h.faults_eq_nil⟩

namespace Protocol

variable {protocol : Protocol} {options : CompileOptions}

theorem faultless_of_compile {automaton : Automaton}
    (h : protocol.compile options = .ok automaton) :
    Faultless options.loops protocol.activities := by
  have hne := activities_ne_nil_of_compile h
  have hnil := faults_eq_nil_of_compile h
  rw [faults, if_neg (by simpa using hne)] at hnil
  exact ⟨hne, hnil⟩

theorem exists_compile_of_faultless (h : Faultless options.loops protocol.activities) :
    ∃ automaton, protocol.compile options = .ok automaton := by
  cases hcompile : protocol.compile options with
  | ok automaton => exact ⟨automaton, rfl⟩
  | error found =>
      have hhead := head?_faults_of_compile hcompile
      rw [faults, if_neg (by simpa using h.ne_nil), h.faults_eq_nil] at hhead
      cases hhead

end Protocol

section Branches

variable {mode : LoopMode} {branch : List Activity}

theorem faultsOf_start_of_mem {branches : List (List Activity)} {setting : Setting}
    (hnil : faultsOfRegions mode branches setting = []) (h : branch ∈ branches) :
    faultsOf mode branch .start = [] := by
  induction branches generalizing setting with
  | nil => exact absurd h List.not_mem_nil
  | cons first rest ih =>
      obtain ⟨hfirst, hrest⟩ := List.append_eq_nil_iff.mp hnil
      rcases List.mem_cons.mp h with rfl | h
      · have hcovers : setting.enterBranch.Covers .start := ⟨rfl, id⟩
        exact faultsOf_eq_nil_of_covers id branch hcovers hfirst
      · exact ih hrest h

mutual

theorem Activity.faultless_of_mem_parallelBranches : ∀ (one : Activity) {setting : Setting},
    one.faults mode setting = [] → branch ∈ one.parallelBranches → Faultless mode branch
  | .interaction _, _, _, h => absurd h List.not_mem_nil
  | .choice branches, _, hnil, h =>
      faultless_of_mem_parallelBranchesOfAll none branches (List.append_eq_nil_iff.mp hnil).2 h
  | .directedChoice _ _ branches, _, hnil, h =>
      faultless_of_mem_parallelBranchesOfDirected none branches
        (List.append_eq_nil_iff.mp hnil).2 h
  | .parallel branches, setting, hnil, h => by
      obtain ⟨hcheck, hbranches⟩ := List.append_eq_nil_iff.mp hnil
      have hlists := emptyAmong?_eq_none_iff.mp (Option.toList_eq_nil_iff.mp hcheck)
      exact ⟨hlists.2 branch h, faultsOf_start_of_mem hbranches h⟩
  | .loop body, _, hnil, h =>
      faultless_of_mem_parallelBranchesOf body (List.append_eq_nil_iff.mp hnil).2 h
  | .recursion _ body, _, hnil, h =>
      faultless_of_mem_parallelBranchesOf body (List.append_eq_nil_iff.mp hnil).2 h
  | .call _, _, _, h => absurd h List.not_mem_nil
  | .escape body _ handler, _, hnil, h => by
      simp only [Activity.faults, List.append_eq_nil_iff] at hnil
      obtain ⟨-, hbody, -, hhandler⟩ := hnil
      rcases List.mem_append.mp h with h | h
      · exact faultless_of_mem_parallelBranchesOf body hbody h
      · exact faultless_of_mem_parallelBranchesOf handler hhandler h
  | .finish, _, _, h => absurd h List.not_mem_nil

theorem faultless_of_mem_parallelBranchesOf : ∀ (list : List Activity) {setting : Setting},
    faultsOf mode list setting = [] → branch ∈ parallelBranchesOf list → Faultless mode branch
  | [], _, _, h => absurd h List.not_mem_nil
  | first :: rest, _, hnil, h => by
      obtain ⟨hfirst, hrest⟩ := List.append_eq_nil_iff.mp hnil
      rcases List.mem_append.mp h with h | h
      · exact first.faultless_of_mem_parallelBranches hfirst h
      · exact faultless_of_mem_parallelBranchesOf rest hrest h

theorem faultless_of_mem_parallelBranchesOfAll (exit : Option State) :
    ∀ (branches : List (List Activity)) {setting : Setting},
      faultsOfChoices mode exit branches setting = [] →
        branch ∈ parallelBranchesOfAll branches → Faultless mode branch
  | [], _, _, h => absurd h List.not_mem_nil
  | list :: rest, _, hnil, h => by
      obtain ⟨hlist, hrest⟩ := List.append_eq_nil_iff.mp hnil
      rcases List.mem_append.mp h with h | h
      · exact faultless_of_mem_parallelBranchesOf list hlist h
      · exact faultless_of_mem_parallelBranchesOfAll _ rest hrest h

theorem faultless_of_mem_parallelBranchesOfDirected (exit : Option State) :
    ∀ (branches : List DirectedBranch) {setting : Setting},
      faultsOfDirected mode exit branches setting = [] →
        branch ∈ parallelBranchesOfDirected branches → Faultless mode branch
  | [], _, _, h => absurd h List.not_mem_nil
  | .mk _ body :: rest, _, hnil, h => by
      obtain ⟨hbody, hrest⟩ := List.append_eq_nil_iff.mp hnil
      rcases List.mem_append.mp h with h | h
      · exact faultless_of_mem_parallelBranchesOf body hbody h
      · exact faultless_of_mem_parallelBranchesOfDirected _ rest hrest h

end

end Branches

end Conversation

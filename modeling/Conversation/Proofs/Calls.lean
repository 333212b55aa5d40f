import Conversation.Proofs.Soundness

/-!
Where the calls of recursions land. A call leads to the state at which its recursion was entered.
That state stands for the recursion and what follows it, but also for everything else that the
conversation could do at the checkpoint there: for the sibling branches of a choice that starts
there, or for the loop whose end it is. So a call re-enters the recursion only if the checkpoint
offers nothing more.
-/

namespace Conversation

/-- What a transition has been added for. -/
inductive Origin
  | exchange (message : Message)
  | silent
  /-- A call, with what follows it: with the recursions as the entries of their labels, and with
  the checkpoints. -/
  | call (label : String) (rest resumed : Agenda)

mutual

/-- The origins of the transitions that an activity contributes to its automaton, in order. -/
def origins (mode : LoopMode) (rest resumed checkpoint : Agenda) : Activity → List Origin
  | .interaction exchange => [.exchange exchange.message]
  | .choice branches => originsOfAll mode (.join :: rest) (.join :: resumed) checkpoint branches
  | .directedChoice _ _ branches =>
      originsOfDirected mode (.join :: rest) (.join :: resumed) branches
  | .parallel _ => [.silent]
  | .loop body =>
      match mode with
      | .once => originsOf mode rest resumed checkpoint body
      | .loop =>
          .silent :: originsOf mode (.again body :: rest) (.again body :: resumed)
            (agendaOf body ++ .again body :: resumed) body ++ [.silent]
  | .recursion label body =>
      originsOf mode (.leave label (.run (.recursion label body) :: rest) :: rest)
        (.leave label checkpoint :: resumed) checkpoint body
  | .call label => [.call label rest resumed]
  | .escape body _ handler =>
      originsOf mode (.handle handler :: rest) (.handle handler :: resumed) checkpoint body ++
        originsOf mode rest resumed
          (checkpointAfterAll mode (.handle handler :: resumed) checkpoint body) handler
  | .finish => []

def originsOf (mode : LoopMode) (rest resumed checkpoint : Agenda) : List Activity → List Origin
  | [] => []
  | first :: others =>
      origins mode (agendaOf others ++ rest) (agendaOf others ++ resumed) checkpoint first ++
        originsOf mode rest resumed
          (checkpointAfter mode (agendaOf others ++ resumed) checkpoint first) others

def originsOfAll (mode : LoopMode) (rest resumed checkpoint : Agenda) :
    List (List Activity) → List Origin
  | [] => []
  | branch :: others =>
      originsOf mode rest resumed checkpoint branch ++ .silent ::
        originsOfAll mode rest resumed checkpoint others

def originsOfDirected (mode : LoopMode) (rest resumed : Agenda) :
    List DirectedBranch → List Origin
  | [] => []
  | .mk exchange body :: others =>
      .exchange exchange.message ::
        originsOf mode rest resumed (agendaOf body ++ resumed) body ++ .silent ::
          originsOfDirected mode rest resumed others

end

theorem originsOfAll_activities (mode : LoopMode) (rest resumed checkpoint : Agenda)
    (branches : List DirectedBranch) :
    originsOfAll mode rest resumed checkpoint (branches.map DirectedBranch.activities) =
      originsOfDirected mode rest resumed branches := by
  induction branches with
  | nil => rfl
  | cons branch others ih =>
      obtain ⟨exchange, body⟩ := branch
      simp [originsOfAll, originsOfDirected, DirectedBranch.activities, DirectedBranch.body,
        DirectedBranch.exchange, originsOf, origins, checkpointAfter, ih]

def Part.origins (mode : LoopMode) (rest resumed checkpoint : Agenda) : Part → List Origin
  | .activity one => Conversation.origins mode rest resumed checkpoint one
  | .activities list => originsOf mode rest resumed checkpoint list
  | .choices _ branches =>
      originsOfAll mode (.join :: rest) (.join :: resumed) checkpoint branches
  | .regions _ => []

/-- A configuration can emit the message first. -/
def Offers {α : Type} (step : α → Option Message → α → Prop) (a : α) (message : Message) : Prop :=
  ∃ b, Emits step a [message] b

/-- A conversation with checkpoints may stop without emitting anything. -/
def Point.MayStop (mode : LoopMode) (point : Point) : Prop :=
  ∃ last, Emits (Resumes mode) point [] last ∧ last.ahead.Stops

namespace Lays

variable {mode : LoopMode} {starts : Starts} {rest checkpoint : Agenda} {part : Part}
  {next source next' target last : State} {piece : Piece} {automaton : Automaton}

theorem stands_checkpoint
    (h : Lays mode starts rest checkpoint part next source piece next' target)
    (hwithin : piece.Within automaton) (hrest : Stands mode automaton last starts rest target)
    (hcheckpoint : ∃ starts', Stands mode automaton last starts' checkpoint source) :
    ∃ starts', Stands mode automaton last starts' (part.checkpointAfter mode rest checkpoint)
      target := by
  induction h with
  | nil => exact hcheckpoint
  | cons _ hothers ih₁ ih₂ =>
      have hbetween := Stands.activities hothers hwithin.right hrest
      exact ih₂ hwithin.right hrest (ih₁ hwithin.left hbetween hcheckpoint)
  | interaction => exact ⟨_, hrest⟩
  | choice _ _ => exact ⟨_, hrest⟩
  | directedChoice _ _ => exact ⟨_, hrest⟩
  | choicesEnd => exact ⟨_, hrest⟩
  | choicesFirst _ _ _ _ => exact ⟨_, hrest⟩
  | choicesNext _ _ _ _ => exact ⟨_, hrest⟩
  | parallel _ _ => exact ⟨_, hrest⟩
  | regionsEnd => exact hcheckpoint
  | regionsNext _ _ _ _ _ => exact hcheckpoint
  | loopOnce hmode _ ih =>
      subst hmode
      rw [Part.checkpointAfter, Conversation.checkpointAfter]
      exact ih hwithin hrest hcheckpoint
  | loop hmode hbody ih =>
      subst hmode
      have hwithin' := hwithin.left.right
      have hagain := Stands.again hbody hwithin' hwithin.right.edge_of_silent hrest
      rw [Part.checkpointAfter, Conversation.checkpointAfter]
      exact ih hwithin' hagain ⟨_, Stands.activities hbody hwithin' hagain⟩
  | recursion _ ih =>
      obtain ⟨starts', hentry⟩ := hcheckpoint
      rw [Part.checkpointAfter, Conversation.checkpointAfter]
      exact ih hwithin (.leave hrest hentry) ⟨starts', hentry⟩
  | call _ => exact ⟨_, hrest⟩
  | escape _ hhandler ih₁ ih₂ =>
      have hanchor := hwithin.left.right.finals _ (List.mem_singleton_self _)
      have hhandle := Stands.handle hanchor hhandler hwithin.right hrest
      rw [Part.checkpointAfter, Conversation.checkpointAfter]
      exact ih₂ hwithin.right hrest (ih₁ hwithin.left.left hhandle hcheckpoint)
  | finish => exact hcheckpoint

end Lays

/-- What the origin of a transition says about its target: after a call, it stands for the entry of
the recursion as well as for the checkpoint, and it was allocated for the latter. -/
def Origin.Leads (mode : LoopMode) (automaton : Automaton) (last : State)
    (assigned : State → Agenda) : Origin → Transition → Prop
  | .exchange message, transition => transition.label = .message message
  | .silent, transition => transition.label = .silent
  | .call label rest resumed, transition =>
      transition.label = .silent ∧
        (∃ entry starts, rest.entryOf? label = some entry ∧
          Stands mode automaton last starts entry transition.target) ∧
        ∃ starts, resumed.entryOf? label = some (assigned transition.target) ∧
          Stands mode automaton last starts (assigned transition.target) transition.target

namespace Lays

variable {mode : LoopMode} {starts : Starts} {rest resumed checkpoint : Agenda} {part : Part}
  {next source next' target last : State} {piece : Piece} {automaton : Automaton}
  {assigned : State → Agenda}

/-- The transitions of a part are those of its origins, in order. -/
theorem origins_lead (h : Lays mode starts resumed checkpoint part next source piece next' target)
    (hwithin : piece.Within automaton) (hassigned : piece.Assigned assigned)
    (hsource : assigned source = checkpoint) (hexit : part.ExitAssigned assigned resumed)
    (hstarts : ∀ label start, starts label = some start →
      resumed.entryOf? label = some (assigned start))
    (hcheckpoint : ∃ starts', Stands mode automaton last starts' checkpoint source)
    (hresumed : Stands mode automaton last starts resumed target)
    (hrest : Stands mode automaton last starts rest target) :
    List.Forall₂ (Origin.Leads mode automaton last assigned)
      (part.origins mode rest resumed checkpoint) piece.transitions := by
  induction h generalizing rest with
  | nil => exact .nil
  | @cons starts resumed checkpoint first others next source next₁ between next₂ target piece₁ piece₂
      hfirst hothers ih₁ ih₂ =>
      have hstarts₁ : ∀ label start, starts label = some start →
          (agendaOf others ++ resumed).entryOf? label = some (assigned start) := by
        intro label start hstart
        rw [Agenda.entryOf?_append, hstarts label start hstart]
      have hresumed₁ := Stands.activities hothers hwithin.right hresumed
      have hrest₁ := Stands.activities hothers hwithin.right hrest
      have hbetween := hfirst.assigned_target hassigned.left hsource trivial
      have hcheckpoint₁ := hfirst.stands_checkpoint hwithin.left hresumed₁ hcheckpoint
      exact List.rel_append
        (ih₁ hwithin.left hassigned.left hsource trivial hstarts₁ hcheckpoint hresumed₁ hrest₁)
        (ih₂ hwithin.right hassigned.right hbetween trivial hstarts hcheckpoint₁ hresumed hrest)
  | interaction => exact .cons rfl .nil
  | choice _ ih => exact ih hwithin hassigned hsource trivial hstarts hcheckpoint hresumed hrest
  | directedChoice _ ih =>
      have hall := ih hwithin hassigned hsource trivial hstarts hcheckpoint hresumed hrest
      rw [Part.origins, originsOfAll_activities] at hall
      exact hall
  | choicesEnd => exact .nil
  | choicesFirst _ hothers ih₁ ih₂ =>
      obtain rfl := hothers.choices_target
      have hedge := hwithin.left.right.edge_of_silent
      have hfirst := ih₁ hwithin.left.left.left hassigned.left.left.left hsource trivial hstarts
        hcheckpoint (.join hedge hresumed) (.join hedge hrest)
      have hnext := ih₂ hwithin.right hassigned.right hsource
        hassigned.left.left.right.eq_of_place hstarts hcheckpoint hresumed hrest
      simp only [Piece.transitions_append, Piece.place, Piece.edge, List.append_nil,
        List.append_assoc]
      exact List.rel_append hfirst (.cons rfl hnext)
  | choicesNext _ hothers ih₁ ih₂ =>
      obtain rfl := hothers.choices_target
      have hedge := hwithin.left.right.edge_of_silent
      have hfirst := ih₁ hwithin.left.left hassigned.left.left hsource trivial hstarts
        hcheckpoint (.join hedge hresumed) (.join hedge hrest)
      have hnext := ih₂ hwithin.right hassigned.right hsource hexit hstarts hcheckpoint hresumed
        hrest
      simp only [Piece.transitions_append, Piece.edge, List.append_assoc]
      exact List.rel_append hfirst (.cons rfl hnext)
  | parallel hregions _ =>
      simp only [Piece.transitions_append, Piece.place, Piece.edge, hregions.regions_eq.1,
        List.append_nil, List.nil_append]
      exact .cons rfl .nil
  | regionsEnd => exact .nil
  | regionsNext _ _ hothers _ _ =>
      simp only [Piece.transitions_append, Piece.branch, hothers.regions_eq.1]
      exact .nil
  | loopOnce hmode _ ih =>
      subst hmode
      rw [Part.origins, Conversation.origins]
      exact ih hwithin hassigned hsource trivial hstarts hcheckpoint hresumed hrest
  | loop hmode hbody ih =>
      subst hmode
      have hwithin' := hwithin.left.right
      have hedge := hwithin.right.edge_of_silent
      have hagain := Stands.again hbody hwithin' hedge hresumed
      have hinner := ih hwithin' hassigned.left.right hassigned.left.left.left.eq_of_place trivial
        hstarts ⟨_, Stands.activities hbody hwithin' hagain⟩ hagain
        (.again hbody hwithin' hedge hrest)
      rw [Part.origins, Conversation.origins]
      exact .cons rfl (List.rel_append hinner (.cons rfl .nil))
  | recursion hbody ih =>
      obtain ⟨starts', hentry⟩ := hcheckpoint
      rw [Part.origins, Conversation.origins]
      exact ih hwithin hassigned hsource trivial (Starts.within_entry hsource hstarts)
        ⟨starts', hentry⟩ (.leave hresumed hentry)
        (.leave hrest (.run (.recursion hbody) hwithin hrest))
  | call hstart =>
      -- Both readings of what follows the call name the same state, each with its own entry.
      obtain ⟨entry, starts₁, hentry, hstands⟩ := hrest.entry hstart
      obtain ⟨checkpoint, starts₂, hcall, hstands'⟩ := hresumed.entry hstart
      have hassigned' := hstarts _ _ hstart
      rw [hassigned', Option.some.injEq] at hcall
      subst hcall
      exact .cons ⟨rfl, ⟨entry, starts₁, hentry, hstands⟩, starts₂, hassigned', hstands'⟩ .nil
  | escape hbody hhandler ih₁ ih₂ =>
      have hanchor := hwithin.left.right.finals _ (List.mem_singleton_self _)
      have hhandle := Stands.handle hanchor hhandler hwithin.right hresumed
      have hassigned' := hbody.assigned_target hassigned.left.left hsource trivial
      have hcheckpoint' := hbody.stands_checkpoint hwithin.left.left hhandle hcheckpoint
      have hfirst := ih₁ hwithin.left.left hassigned.left.left hsource trivial hstarts hcheckpoint
        hhandle (.handle hanchor hhandler hwithin.right hrest)
      have hnext := ih₂ hwithin.right hassigned.right hassigned' trivial hstarts hcheckpoint'
        hresumed hrest
      rw [Part.origins, Conversation.origins]
      simp only [Piece.transitions_append, Piece.mark, List.append_nil]
      exact List.rel_append hfirst hnext
  | finish => exact .nil

end Lays

namespace Outline

variable {mode : LoopMode} {activities : List Activity} {automaton : Automaton} {piece : Piece}
  {last state : State} {assigned : State → Agenda} {starts : Starts} {agenda : Agenda}

theorem step_ne_nil_of_offers (h : Stands mode automaton last starts agenda state)
    {message : Message} (hoffers : Offers (Advances mode) agenda message) :
    automaton.step state message ≠ [] := by
  obtain ⟨next, hemits⟩ := hoffers
  obtain ⟨target, hpath, -⟩ := h.emits hemits
  exact Automaton.step_ne_nil_iff.mpr ⟨target, hpath⟩

theorem acceptsAt_of_admits (h : Stands mode automaton last starts agenda state)
    (hadmits : Admits mode agenda []) : automaton.acceptsAt state = true := by
  obtain ⟨next, hemits, hstops⟩ := hadmits
  obtain ⟨target, hpath, starts', hstands⟩ := h.emits hemits
  exact Automaton.acceptsAt_iff.mpr ⟨target, hstands.mem_finals hstops, hpath⟩

/-- A state that stands for the agenda it was allocated for offers just what a conversation at that
checkpoint does. -/
theorem step_ne_nil_iff (h : Outline mode activities automaton piece last)
    (hassigned : Assignment mode activities automaton piece last assigned)
    (hstands : Stands mode automaton last starts (assigned state) state) {message : Message} :
    automaton.step state message ≠ [] ↔
      Offers (Resumes mode) (.fresh (assigned state)) message := by
  rw [Automaton.step_ne_nil_iff]
  constructor
  · rintro ⟨target, hpath⟩
    exact ⟨_, h.resumes_of_path hassigned hpath⟩
  · rintro ⟨next, hemits⟩
    obtain ⟨target, hpath, -⟩ := (Point.StandsAt.fresh hstands).emits hemits
    exact ⟨target, hpath⟩

theorem acceptsAt_iff (h : Outline mode activities automaton piece last)
    (hassigned : Assignment mode activities automaton piece last assigned)
    (hstands : Stands mode automaton last starts (assigned state) state)
    (hentered : ∃ transition ∈ piece.transitions, transition.target = state) :
    automaton.acceptsAt state = true ↔ (Point.fresh (assigned state)).MayStop mode := by
  rw [Automaton.acceptsAt_iff]
  constructor
  · rintro ⟨final, hfinal, hpath⟩
    obtain ⟨ahead, hemits, hstops⟩ :=
      h.stops_of_path hassigned (.inr hentered) hpath hfinal
    exact ⟨_, hemits, hstops⟩
  · rintro ⟨next, hemits, hstops⟩
    obtain ⟨target, hpath, ⟨starts', hahead⟩, -⟩ := (Point.StandsAt.fresh hstands).emits hemits
    exact ⟨target, hahead.mem_finals hstops, hpath⟩

theorem origins_lead (h : Outline mode activities automaton piece last)
    (hassigned : Assignment mode activities automaton piece last assigned) :
    List.Forall₂ (Origin.Leads mode automaton last assigned)
      (originsOf mode [] [] (agendaOf activities) activities) piece.transitions := by
  obtain ⟨next, hlays⟩ := h.laid
  exact hlays.origins_lead h.within hassigned.placed hassigned.initial trivial (by simp)
    ⟨_, h.stands_initial⟩ .done .done

end Outline

/-- A call re-enters just the recursion: the state lets through what the entry of the recursion
offers first, and accepts exactly if the entry may stop. -/
structure Automaton.Reenters (mode : LoopMode) (automaton : Automaton) (state : State)
    (entry : Agenda) : Prop where
  step : ∀ message, automaton.step state message ≠ [] ↔ Offers (Advances mode) entry message
  accepts : automaton.acceptsAt state = true ↔ Admits mode entry []

/-- The checkpoint at which a recursion was entered offers nothing beyond the recursion and what
follows it. -/
structure Agenda.Covers (mode : LoopMode) (entry checkpoint : Agenda) : Prop where
  offers : ∀ message, Offers (Resumes mode) (.fresh checkpoint) message →
    Offers (Advances mode) entry message
  stops : (Point.fresh checkpoint).MayStop mode → Admits mode entry []

/-- What the origin of a transition says about it. A call goes silently to a state that offers
just what a conversation at the checkpoint does. -/
def Origin.Lands (mode : LoopMode) (automaton : Automaton) : Origin → Transition → Prop
  | .exchange message, transition => transition.label = .message message
  | .silent, transition => transition.label = .silent
  | .call label rest resumed, transition =>
      transition.label = .silent ∧
        ∃ entry checkpoint, rest.entryOf? label = some entry ∧
          resumed.entryOf? label = some checkpoint ∧
          (∀ message, automaton.step transition.target message ≠ [] ↔
            Offers (Resumes mode) (.fresh checkpoint) message) ∧
          (automaton.acceptsAt transition.target = true ↔
            (Point.fresh checkpoint).MayStop mode) ∧
          (automaton.Reenters mode transition.target entry ↔ entry.Covers mode checkpoint)

/-- The transitions of an automaton, without the completion of a branch, land as their origins
say. -/
def TransitionsLand (mode : LoopMode) (activities : List Activity) (automaton : Automaton) : Prop :=
  List.Forall₂ (Origin.Lands mode automaton)
    (originsOf mode [] [] (agendaOf activities) activities)
    (automaton.transitions.filter fun transition => transition.label ≠ .parallelEnd)

namespace Outline

variable {mode : LoopMode} {activities : List Activity} {automaton : Automaton} {piece : Piece}
  {last : State} {assigned : State → Agenda}

theorem filter_transitions (h : Outline mode activities automaton piece last) :
    automaton.transitions.filter (fun transition => transition.label ≠ .parallelEnd) =
      piece.transitions := by
  obtain ⟨next, hlays⟩ := h.laid
  obtain ⟨ends, htransitions, hends⟩ := h.transitions
  have hpiece : piece.transitions.filter (fun transition => transition.label ≠ .parallelEnd) =
      piece.transitions := by
    rw [List.filter_eq_self]
    intro transition htransition
    exact decide_eq_true (hlays.label_ne transition htransition)
  have hnone : ends.filter (fun transition => transition.label ≠ .parallelEnd) = [] := by
    rw [List.filter_eq_nil_iff]
    intro transition htransition
    simp [(hends transition htransition).1]
  rw [htransitions, List.filter_append, hpiece, hnone, List.append_nil]

theorem lands_of_leads (h : Outline mode activities automaton piece last)
    (hassigned : Assignment mode activities automaton piece last assigned) {origin : Origin}
    {transition : Transition} (htransition : transition ∈ piece.transitions)
    (hleads : origin.Leads mode automaton last assigned transition) :
    origin.Lands mode automaton transition := by
  cases origin with
  | exchange message => exact hleads
  | silent => exact hleads
  | call label rest resumed =>
      obtain ⟨hsilent, ⟨entry, starts, hentry, hstands⟩, starts', hcheckpoint, hstands'⟩ := hleads
      have hstep : ∀ message, automaton.step transition.target message ≠ [] ↔
          Offers (Resumes mode) (.fresh (assigned transition.target)) message :=
        fun message => h.step_ne_nil_iff hassigned hstands'
      have haccepts := h.acceptsAt_iff hassigned hstands' ⟨transition, htransition, rfl⟩
      refine ⟨hsilent, entry, _, hentry, hcheckpoint, hstep, haccepts, ?_⟩
      constructor
      · intro hreenters
        constructor
        · intro message hoffers
          exact (hreenters.step message).mp ((hstep message).mpr hoffers)
        · intro hstops
          exact hreenters.accepts.mp (haccepts.mpr hstops)
      · intro hcovers
        constructor
        · intro message
          exact ⟨fun hne => hcovers.offers message ((hstep message).mp hne),
            step_ne_nil_of_offers hstands⟩
        · exact ⟨fun hfinal => hcovers.stops (haccepts.mp hfinal), acceptsAt_of_admits hstands⟩

theorem transitionsLand (h : Outline mode activities automaton piece last) :
    TransitionsLand mode activities automaton := by
  obtain ⟨assigned, hassigned⟩ := h.exists_assignment
  have hleads : List.Forall₂
      (fun transition origin => Origin.Leads mode automaton last assigned origin transition)
      piece.transitions (originsOf mode [] [] (agendaOf activities) activities) :=
    (h.origins_lead hassigned).flip
  have hboth := (List.forall₂_and_left _ _).mpr
    ⟨fun transition (htransition : transition ∈ piece.transitions) => htransition, hleads⟩
  have hlands : List.Forall₂
      (fun transition origin => Origin.Lands mode automaton origin transition)
      piece.transitions (originsOf mode [] [] (agendaOf activities) activities) :=
    hboth.imp fun _ _ h' => h.lands_of_leads hassigned h'.1 h'.2
  rw [TransitionsLand, h.filter_transitions]
  exact hlands.flip

end Outline

/-- Where calls land, in a compiled protocol and in every parallel branch of it: every call goes to
a state that offers just what the checkpoint offers at which the recursion was entered. So it
re-enters just the recursion if and only if the checkpoint offers nothing more. -/
theorem Protocol.calls_land {protocol : Protocol} {options : CompileOptions}
    {automaton : Automaton} (h : protocol.compile options = .ok automaton) :
    TransitionsLand options.loops (protocol.activities ++ [.finish]) automaton ∧
      EachBranch (TransitionsLand options.loops) protocol.activities automaton := by
  constructor
  · obtain ⟨piece, last, houtline⟩ := outline_of_compile h
    exact houtline.transitionsLand
  · refine eachBranch_of_compile (fun _ _ _ => trivial) ?_ h trivial
    intro branch nested piece initial last done _ houtline _
    exact houtline.transitionsLand

/-- A protocol whose recursion starts where a sibling branch starts. -/
def siblings : Protocol :=
  .bare "Siblings"
    [.choice
      [[.recursion "x" [.interaction (.bare .receive (some "a") ⟨"B"⟩), .call "x"]],
        [.interaction (.bare .receive (some "b") ⟨"B"⟩)]]]

theorem siblings_land : ∃ automaton, siblings.compile ⟨.loop⟩ = .ok automaton ∧
    TransitionsLand .loop (siblings.activities ++ [.finish]) automaton ∧
    EachBranch (TransitionsLand .loop) siblings.activities automaton := by
  have hok : (siblings.compile ⟨.loop⟩).isOk = true := by decide +kernel
  obtain ⟨automaton, hcompile⟩ := Protocol.exists_eq_ok hok
  exact ⟨automaton, hcompile, Protocol.calls_land hcompile⟩

def siblingsEntry : Agenda :=
  [.run (.recursion "x" [.interaction (.bare .receive (some "a") ⟨"B"⟩), .call "x"]), .join,
    .run .finish]

theorem Moves.shown_eq {mode : LoopMode} {exchange : Interaction} {rest next : Agenda}
    {shown : Option Message} (h : Moves mode (.run (.interaction exchange) :: rest) shown next) :
    shown = some exchange.message := by
  cases h with
  | interaction => rfl

theorem siblingsEntry_not_offers :
    ¬ Offers (Advances .loop) siblingsEntry ⟨.receive, some "b", ⟨"B"⟩⟩ := by
  rintro ⟨last, hemits⟩
  obtain ⟨between, next, hsilent, hstep, -⟩ := Emits.cons_iff.mp hemits
  rcases Emits.nil_iff.mp hsilent with rfl | ⟨inside, henter, hsilent⟩
  · cases hstep with
    | move hmoves => cases hmoves
  · cases henter with
    | unfold hunfolds => cases hunfolds
    | move hmoves => cases hmoves
    | enter =>
        rcases Emits.nil_iff.mp hsilent with rfl | ⟨beyond, hbeyond, -⟩
        · cases hstep with
          | move hmoves => exact absurd hmoves.shown_eq (by decide)
        · cases hbeyond with
          | unfold hunfolds => cases hunfolds
          | move hmoves => exact absurd hmoves.shown_eq (by decide)

/-- The call of `siblings` goes to a state that lets the sibling branch through, although the
recursion and what follows it cannot start with its message. -/
theorem siblings_call_not_reenters : ∃ automaton, siblings.compile ⟨.loop⟩ = .ok automaton ∧
    Transition.silent 1 0 ∈ automaton.transitions ∧
    (∃ rest resumed,
      (originsOf .loop [] [] siblings.agenda (siblings.activities ++ [.finish]))[1]? =
        some (.call "x" rest resumed) ∧ rest.entryOf? "x" = some siblingsEntry) ∧
    ¬ automaton.Reenters .loop 0 siblingsEntry := by
  have hok : (siblings.compile ⟨.loop⟩).isOk = true := by decide +kernel
  obtain ⟨automaton, hcompile⟩ := Protocol.exists_eq_ok hok
  have htransitions : (siblings.compile ⟨.loop⟩).map Automaton.transitions =
      .ok [(Interaction.bare .receive (some "a") ⟨"B"⟩).transition 0 1, .silent 1 0, .silent 2 3,
        (Interaction.bare .receive (some "b") ⟨"B"⟩).transition 0 4, .silent 4 3] := by
    decide +kernel
  rw [hcompile] at htransitions
  simp only [Except.map, Except.ok.injEq] at htransitions
  refine ⟨automaton, hcompile, ?_, ⟨_, _, rfl, rfl⟩, ?_⟩
  · simp [htransitions]
  · intro hreenters
    apply siblingsEntry_not_offers
    apply (hreenters.step _).mp
    have hedge : automaton.Edge 0 (some ⟨.receive, some "b", ⟨"B"⟩⟩) 4 :=
      ⟨(Interaction.bare .receive (some "b") ⟨"B"⟩).transition 0 4, by simp [htransitions], rfl, rfl,
        rfl⟩
    exact Automaton.step_ne_nil_iff.mpr ⟨4, .single hedge⟩

end Conversation

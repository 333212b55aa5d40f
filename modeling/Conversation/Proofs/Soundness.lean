import Conversation.Proofs.Completeness

namespace Conversation

def Piece.Assigned (piece : Piece) (assigned : State → Agenda) : Prop :=
  ∀ entry ∈ piece.placed, assigned entry.1 = entry.2

namespace Piece.Assigned

variable {first second : Piece} {assigned : State → Agenda}

theorem left (h : (first ++ second).Assigned assigned) : first.Assigned assigned :=
  fun entry hentry => h entry (List.mem_append_left _ hentry)

theorem right (h : (first ++ second).Assigned assigned) : second.Assigned assigned :=
  fun entry hentry => h entry (List.mem_append_right _ hentry)

theorem eq_of_place {state : State} {agenda : Agenda} (h : (place state agenda).Assigned assigned) :
    assigned state = agenda :=
  h (state, agenda) (List.mem_singleton_self _)

end Piece.Assigned

/-- All that a piece contributes is a part of a conversation with checkpoints. -/
structure Piece.Sound (mode : LoopMode) (assigned : State → Agenda) (piece : Piece) : Prop where
  transitions : ∀ transition ∈ piece.transitions,
    Emits (Resumes mode) (.fresh (assigned transition.source)) transition.label.message?.toList
      (.fresh (assigned transition.target))
  finals : ∀ state ∈ piece.finals, ∃ ahead,
    Emits (Resumes mode) (.fresh (assigned state)) [] ⟨ahead, assigned state⟩ ∧ ahead.Stops

namespace Piece.Sound

variable {mode : LoopMode} {assigned : State → Agenda} {first second : Piece}

theorem empty : Piece.empty.Sound mode assigned where
  transitions := by simp [Piece.empty]
  finals := by simp [Piece.empty]

theorem edge {transition : Transition}
    (h : Emits (Resumes mode) (.fresh (assigned transition.source)) transition.label.message?.toList
      (.fresh (assigned transition.target))) : (Piece.edge transition).Sound mode assigned where
  transitions := by simpa [Piece.edge] using h
  finals := by simp [Piece.edge]

theorem mark {state : State} {ahead : Agenda}
    (h : Emits (Resumes mode) (.fresh (assigned state)) [] ⟨ahead, assigned state⟩)
    (hstops : ahead.Stops) : (Piece.mark state).Sound mode assigned where
  transitions := by simp [Piece.mark]
  finals := by simpa [Piece.mark] using ⟨ahead, h, hstops⟩

theorem place (state : State) (agenda : Agenda) : (Piece.place state agenda).Sound mode assigned where
  transitions := by simp [Piece.place]
  finals := by simp [Piece.place]

theorem append (h₁ : first.Sound mode assigned) (h₂ : second.Sound mode assigned) :
    (first ++ second).Sound mode assigned where
  transitions := by
    rw [transitions_append]
    exact List.forall_mem_append.mpr ⟨h₁.transitions, h₂.transitions⟩
  finals := by
    rw [finals_append]
    exact List.forall_mem_append.mpr ⟨h₁.finals, h₂.finals⟩

end Piece.Sound

/-- A conversation at a checkpoint may get to a part without a further checkpoint. -/
def Part.Ahead (mode : LoopMode) (rest checkpoint : Agenda) : Part → Prop
  | .activity one => Emits (Resumes mode) (.fresh checkpoint) [] ⟨.run one :: rest, checkpoint⟩
  | .activities list =>
      Emits (Resumes mode) (.fresh checkpoint) [] ⟨agendaOf list ++ rest, checkpoint⟩
  | .choices _ branches => ∀ branch ∈ branches,
      Emits (Resumes mode) (.fresh checkpoint) [] ⟨agendaOf branch ++ .join :: rest, checkpoint⟩
  | .regions _ => False

/-- The exit of a choice, if it is allocated already, is assigned what follows the choice. -/
def Part.ExitAssigned (assigned : State → Agenda) (rest : Agenda) : Part → Prop
  | .choices (some exit) _ => assigned exit = rest
  | _ => True

theorem Agenda.entryOf?_append (label : String) (activities : List Activity) (rest : Agenda) :
    Agenda.entryOf? label (agendaOf activities ++ rest) = Agenda.entryOf? label rest := by
  induction activities with
  | nil => rfl
  | cons first others ih => exact ih

theorem Starts.within_entry {starts : Starts} {label : String} {source : State}
    {rest checkpoint : Agenda} {assigned : State → Agenda} (hsource : assigned source = checkpoint)
    (hstarts : ∀ label start, starts label = some start →
      rest.entryOf? label = some (assigned start)) :
    ∀ asked start, starts.within label source asked = some start →
      Agenda.entryOf? asked (.leave label checkpoint :: rest) = some (assigned start) := by
  intro asked start hstart
  rw [Starts.within] at hstart
  rw [Agenda.entryOf?]
  by_cases hlabel : asked = label
  · rw [if_pos hlabel, Option.some.injEq] at hstart
    rw [if_pos hlabel.symm, ← hstart, hsource]
  · rw [if_neg hlabel] at hstart
    rw [if_neg (Ne.symm hlabel), hstarts asked start hstart]

namespace Lays

variable {mode : LoopMode} {starts : Starts} {rest checkpoint : Agenda} {part : Part}
  {next source next' target : State} {piece : Piece} {assigned : State → Agenda}

theorem regions_eq {branches : List (List Activity)}
    (h : Lays mode starts rest checkpoint (.regions branches) next source piece next' target) :
    piece.transitions = [] ∧ piece.finals = [] ∧ piece.placed = [] := by
  induction branches generalizing next piece with
  | nil =>
      cases h with
      | regionsEnd => exact ⟨rfl, rfl, rfl⟩
  | cons branch others ih =>
      cases h with
      | regionsNext _ _ hothers =>
          obtain ⟨htransitions, hfinals, hplaced⟩ := ih hothers
          simp [Piece.branch, htransitions, hfinals, hplaced]

theorem assigned_target (h : Lays mode starts rest checkpoint part next source piece next' target)
    (hassigned : piece.Assigned assigned) (hsource : assigned source = checkpoint)
    (hexit : part.ExitAssigned assigned rest) :
    assigned target = part.checkpointAfter mode rest checkpoint := by
  induction h with
  | nil => exact hsource
  | cons _ _ ih₁ ih₂ =>
      exact ih₂ hassigned.right (ih₁ hassigned.left hsource trivial) trivial
  | interaction => exact hassigned.left.eq_of_place
  | choice _ ih => exact ih hassigned hsource trivial
  | directedChoice _ ih => exact ih hassigned hsource trivial
  | choicesEnd => exact hexit
  | choicesFirst _ _ _ ih₂ =>
      exact ih₂ hassigned.right hsource hassigned.left.left.right.eq_of_place
  | choicesNext _ _ _ ih₂ => exact ih₂ hassigned.right hsource hexit
  | parallel _ _ => exact hassigned.left.left.eq_of_place
  | regionsEnd => exact hsource
  | regionsNext _ _ _ _ ih => exact ih hassigned.right hsource trivial
  | loopOnce hmode _ ih =>
      rw [ih hassigned hsource trivial]
      simp only [Part.checkpointAfter, Conversation.checkpointAfter, hmode]
  | loop hmode _ ih =>
      rw [ih hassigned.left.right hassigned.left.left.left.eq_of_place trivial]
      simp only [Part.checkpointAfter, Conversation.checkpointAfter, hmode]
  | recursion _ ih =>
      rw [ih hassigned hsource trivial, Part.checkpointAfter, Part.checkpointAfter,
        Conversation.checkpointAfter]
  | call _ => exact hassigned.right.eq_of_place
  | escape _ _ ih₁ ih₂ =>
      rw [ih₂ hassigned.right (ih₁ hassigned.left.left hsource trivial) trivial,
        Part.checkpointAfter, Part.checkpointAfter, Conversation.checkpointAfter]
  | finish => exact hsource

/-- Where a part is laid out from a state that is assigned the checkpoint before it, all that it
contributes is sound, and what follows it may be reached from its end without a further
checkpoint. -/
theorem sound (h : Lays mode starts rest checkpoint part next source piece next' target)
    (hassigned : piece.Assigned assigned) (hsource : assigned source = checkpoint)
    (hexit : part.ExitAssigned assigned rest)
    (hstarts : ∀ label start, starts label = some start →
      rest.entryOf? label = some (assigned start))
    (hahead : part.Ahead mode rest checkpoint) :
    piece.Sound mode assigned ∧
      Emits (Resumes mode) (.fresh (assigned target)) [] ⟨rest, assigned target⟩ := by
  -- The second half carries the induction: it is what the next part starts from.
  induction h with
  | nil =>
      rw [hsource]
      exact ⟨.empty, hahead⟩
  | @cons starts rest checkpoint first others next source next₁ between next₂ target piece₁ piece₂ h₁ _
      ih₁ ih₂ =>
      have hstarts₁ : ∀ label start, starts label = some start →
          (agendaOf others ++ rest).entryOf? label = some (assigned start) := by
        intro label start hstart
        rw [Agenda.entryOf?_append, hstarts label start hstart]
      have hbetween := h₁.assigned_target hassigned.left hsource trivial
      obtain ⟨hsound₁, hreach₁⟩ := ih₁ hassigned.left hsource trivial hstarts₁ hahead
      rw [hbetween] at hreach₁
      obtain ⟨hsound₂, hreach₂⟩ := ih₂ hassigned.right hbetween trivial hstarts hreach₁
      exact ⟨hsound₁.append hsound₂, hreach₂⟩
  | @interaction starts rest checkpoint exchange next source =>
      have hnext : assigned next = rest := hassigned.left.eq_of_place
      rw [hnext]
      refine ⟨.append (.place _ _) (.edge ?_), .refl _⟩
      simp only [Interaction.transition, hsource, hnext]
      exact hahead.silent_trans (.single (.move .interaction))
  | choice _ ih =>
      exact ih hassigned hsource trivial hstarts
        fun branch hbranch => hahead.tail_silent (.unfold (.choice hbranch))
  | directedChoice _ ih =>
      refine ih hassigned hsource trivial hstarts ?_
      intro branch hbranch
      obtain ⟨directed, hdirected, rfl⟩ := List.mem_map.mp hbranch
      exact hahead.tail_silent (.unfold (.directedChoice hdirected))
  | choicesEnd =>
      rw [show assigned _ = _ from hexit]
      exact ⟨.empty, .refl _⟩
  | @choicesFirst starts rest checkpoint branch others next source exit last next' target piece₁
      piece₂ _ _ ih₁ ih₂ =>
      have hexit' : assigned exit = rest := hassigned.left.left.right.eq_of_place
      obtain ⟨hbranch, hothers⟩ := List.forall_mem_cons.mp hahead
      obtain ⟨hsound₁, hreach₁⟩ := ih₁ hassigned.left.left.left hsource trivial hstarts hbranch
      obtain ⟨hsound₂, hreach₂⟩ := ih₂ hassigned.right hsource hexit' hstarts hothers
      have hedge : Emits (Resumes mode) (.fresh (assigned last)) [] (.fresh (assigned exit)) := by
        rw [hexit']
        exact hreach₁.tail_silent (.move .join)
      exact ⟨((hsound₁.append (.place _ _)).append (.edge hedge)).append hsound₂, hreach₂⟩
  | @choicesNext starts rest checkpoint branch others next source exit next₁ last next' target piece₁
      piece₂ _ _ ih₁ ih₂ =>
      obtain ⟨hbranch, hothers⟩ := List.forall_mem_cons.mp hahead
      obtain ⟨hsound₁, hreach₁⟩ := ih₁ hassigned.left.left hsource trivial hstarts hbranch
      obtain ⟨hsound₂, hreach₂⟩ := ih₂ hassigned.right hsource hexit hstarts hothers
      have hedge : Emits (Resumes mode) (.fresh (assigned last)) [] (.fresh (assigned exit)) := by
        rw [show assigned exit = rest from hexit]
        exact hreach₁.tail_silent (.move .join)
      exact ⟨(hsound₁.append (.edge hedge)).append hsound₂, hreach₂⟩
  | @parallel starts rest checkpoint branches join source next' piece hregions _ =>
      obtain ⟨htransitions, hfinals, -⟩ := hregions.regions_eq
      have hjoin : assigned join = rest := hassigned.left.left.eq_of_place
      have hsound : piece.Sound mode assigned := ⟨by simp [htransitions], by simp [hfinals]⟩
      have hedge : Emits (Resumes mode) (.fresh (assigned source)) [] (.fresh (assigned join)) := by
        rw [hsource, hjoin]
        exact hahead.tail_silent (.move .parallel)
      rw [hjoin]
      exact ⟨(Piece.Sound.append (.place _ _) hsound).append (.edge hedge), .refl _⟩
  | regionsEnd => exact hahead.elim
  | regionsNext => exact hahead.elim
  | loopOnce hmode _ ih =>
      exact ih hassigned hsource trivial hstarts (hahead.tail_silent (.unfold (.loopOnce hmode)))
  | @loop starts rest checkpoint body head source next' target piece hmode _ ih =>
      have hhead : assigned head = agendaOf body ++ .again body :: rest :=
        hassigned.left.left.left.eq_of_place
      obtain ⟨hsound, hreach⟩ := ih hassigned.left.right hhead trivial hstarts (.refl _)
      have hin : Emits (Resumes mode) (.fresh (assigned source)) [] (.fresh (assigned head)) := by
        rw [hsource, hhead]
        exact hahead.tail_silent (.move (.loop hmode))
      have hback : Emits (Resumes mode) (.fresh (assigned target)) [] (.fresh (assigned head)) := by
        rw [hhead]
        exact hreach.tail_silent (.move .again)
      exact ⟨((Piece.Sound.append (.place _ _) (.edge hin)).append hsound).append (.edge hback),
        hreach.tail_silent (.unfold .loopLeft)⟩
  | recursion _ ih =>
      obtain ⟨hsound, hreach⟩ := ih hassigned hsource trivial (Starts.within_entry hsource hstarts)
        (hahead.tail_silent .enter)
      exact ⟨hsound, hreach.tail_silent (.unfold .recursionLeft)⟩
  | @call starts rest checkpoint label next source start hstart =>
      have hnext : assigned next = rest := hassigned.right.eq_of_place
      have hedge : Emits (Resumes mode) (.fresh (assigned source)) [] (.fresh (assigned start)) := by
        rw [hsource]
        exact hahead.tail_silent (.move (.call (hstarts label start hstart)))
      rw [hnext]
      exact ⟨.append (.edge hedge) (.place _ _), .refl _⟩
  | escape h₁ _ ih₁ ih₂ =>
      have hanchor := h₁.assigned_target hassigned.left.left hsource trivial
      obtain ⟨hsound₁, hreach₁⟩ := ih₁ hassigned.left.left hsource trivial hstarts
        (hahead.tail_silent (.unfold .escape))
      have hhandler := hreach₁.tail_silent (.unfold .handle)
      rw [hanchor] at hhandler
      obtain ⟨hsound₂, hreach₂⟩ := ih₂ hassigned.right hanchor trivial hstarts hhandler
      exact ⟨(hsound₁.append (.mark hreach₁ .handle)).append hsound₂, hreach₂⟩
  | @finish starts rest checkpoint next source =>
      have hhere : Emits (Resumes mode) (.fresh (assigned source)) []
          ⟨.run .finish :: rest, assigned source⟩ := by
        rw [hsource]
        exact hahead
      exact ⟨.mark hhere .finish, hhere.tail_silent (.unfold .finish)⟩

end Lays

theorem lookup_eq_some_of_ascending {placed : List (State × Agenda)}
    (h : (placed.map Prod.fst).Pairwise (· < ·)) {entry : State × Agenda} (hentry : entry ∈ placed) :
    placed.lookup entry.1 = some entry.2 := by
  induction placed with
  | nil => cases hentry
  | cons first rest ih =>
      obtain ⟨hfirst, hrest⟩ := List.pairwise_cons.mp h
      rcases List.mem_cons.mp hentry with rfl | hentry
      · exact List.lookup_cons_self
      · have hne : (entry.1 == first.1) = false := by
          simpa using ne_of_gt (hfirst entry.1 (List.mem_map_of_mem hentry))
        rw [List.lookup_cons, hne]
        exact ih hrest hentry

theorem Piece.Fits.exists_assigned {piece : Piece} {next next' : State}
    (h : piece.Fits next next') {initial : State} (hinitial : initial < next) (agenda : Agenda) :
    ∃ assigned : State → Agenda, assigned initial = agenda ∧ piece.Assigned assigned := by
  refine ⟨fun state => if state = initial then agenda else (piece.placed.lookup state).getD [],
    if_pos rfl, ?_⟩
  intro entry hentry
  have hne : entry.1 ≠ initial := ne_of_gt (lt_of_lt_of_le hinitial (h.placed_mem entry hentry).1)
  have hlookup := lookup_eq_some_of_ascending h.placed_ascending hentry
  simp only [if_neg hne, hlookup, Option.getD_some]

namespace Outline

variable {mode : LoopMode} {activities : List Activity} {automaton : Automaton} {piece : Piece}
  {last source target : State} {word : List Message} {assigned : State → Agenda}

/-- The agendas that the states of an outline are allocated for. -/
structure Assignment (mode : LoopMode) (activities : List Activity) (automaton : Automaton)
    (piece : Piece) (last : State) (assigned : State → Agenda) : Prop where
  initial : assigned automaton.initial = agendaOf activities
  placed : piece.Assigned assigned
  sound : piece.Sound mode assigned
  ended : Emits (Resumes mode) (.fresh (assigned last)) [] ⟨[], assigned last⟩

theorem exists_assignment (h : Outline mode activities automaton piece last) :
    ∃ assigned, Assignment mode activities automaton piece last assigned := by
  obtain ⟨next, hlays⟩ := h.laid
  obtain ⟨assigned, hinitial, hplaced⟩ :=
    hlays.fits.exists_assigned (Nat.lt_succ_self automaton.initial) (agendaOf activities)
  have hahead : Part.Ahead mode [] (agendaOf activities) (.activities activities) := by
    rw [Part.Ahead, List.append_nil]
    exact .refl _
  obtain ⟨hsound, hended⟩ := hlays.sound hplaced hinitial trivial (by simp) hahead
  exact ⟨assigned, hinitial, hplaced, hsound, hended⟩

/-- A path through the automaton is a conversation with checkpoints, between the agendas that its
ends were allocated for. -/
theorem resumes_of_path (h : Outline mode activities automaton piece last)
    (hassigned : Assignment mode activities automaton piece last assigned)
    (hpath : Emits automaton.Edge source word target) :
    Emits (Resumes mode) (.fresh (assigned source)) word (.fresh (assigned target)) := by
  induction hpath with
  | refl state => exact .refl _
  | @head source between target shown word hedge _ ih =>
      obtain ⟨transition, htransition, rfl, rfl, hlabel⟩ := hedge
      have hshown : transition.label.message? = shown := by
        rw [hlabel]
        cases shown <;> rfl
      have hpiece := h.mem_piece_of_edge htransition (by rw [hlabel]; cases shown <;> simp)
      have hfirst := hassigned.sound.transitions transition hpiece
      rw [hshown] at hfirst
      exact hfirst.trans ih

theorem stops_of_path (h : Outline mode activities automaton piece last)
    (hassigned : Assignment mode activities automaton piece last assigned)
    (hsource : source = automaton.initial ∨
      ∃ transition ∈ piece.transitions, transition.target = source)
    (hpath : Emits automaton.Edge source word target) (hfinal : target ∈ automaton.finals) :
    ∃ ahead, Emits (Resumes mode) (.fresh (assigned source)) word ⟨ahead, assigned target⟩ ∧
      ahead.Stops := by
  have htarget : target = automaton.initial ∨
      ∃ transition ∈ piece.transitions, transition.target = target := by
    induction hpath with
    | refl state => exact hsource
    | @head source between target shown word hedge _ ih =>
        obtain ⟨transition, htransition, -, rfl, hlabel⟩ := hedge
        have hpiece := h.mem_piece_of_edge htransition (by rw [hlabel]; cases shown <;> simp)
        exact ih (.inr ⟨transition, hpiece, rfl⟩) hfinal
  -- Marks beyond those of the list are on states that no path from here can enter.
  have hmem : target ∈ piece.finals := by
    rcases h.only_finals target hfinal with hmem | ⟨hinitial, htargets⟩
    · exact hmem
    · rcases htarget with rfl | ⟨transition, htransition, rfl⟩
      · exact absurd rfl hinitial
      · exact absurd rfl (htargets transition htransition)
  obtain ⟨ahead, hahead, hstops⟩ := hassigned.sound.finals target hmem
  exact ⟨ahead, (h.resumes_of_path hassigned hpath).trans_silent hahead, hstops⟩

end Outline

/-- The automaton of a protocol accepts exactly the words of its conversations with
checkpoints. -/
theorem Protocol.accepts_iff_resumes {protocol : Protocol} {options : CompileOptions}
    {automaton : Automaton} (h : protocol.compile options = .ok automaton) {word : List Message} :
    automaton.Accepts word ↔
      ∃ last, Emits (Resumes options.loops) (.fresh protocol.agenda) word last ∧
        last.ahead.Stops := by
  obtain ⟨piece, last, houtline⟩ := outline_of_compile h
  obtain ⟨assigned, hassigned⟩ := houtline.exists_assignment
  rw [Automaton.accepts_iff]
  constructor
  · rintro ⟨final, hfinal, hpath⟩
    obtain ⟨ahead, hemits, hstops⟩ := houtline.stops_of_path hassigned (.inl rfl) hpath hfinal
    rw [hassigned.initial] at hemits
    exact ⟨_, hemits, hstops⟩
  · rintro ⟨point, hemits, hstops⟩
    have hinitial : (Point.fresh protocol.agenda).StandsAt options.loops automaton last
        automaton.initial := .fresh houtline.stands_initial
    obtain ⟨final, hpath, ⟨starts, hstands⟩, -⟩ := hinitial.emits hemits
    exact ⟨final, hstands.mem_finals hstops, hpath⟩

end Conversation

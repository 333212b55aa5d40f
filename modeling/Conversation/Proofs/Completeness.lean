import Conversation.Proofs.Outline

namespace Conversation

structure Piece.Within (piece : Piece) (automaton : Automaton) : Prop where
  transitions : ∀ transition ∈ piece.transitions, transition ∈ automaton.transitions
  finals : ∀ state ∈ piece.finals, state ∈ automaton.finals

namespace Piece.Within

variable {first second : Piece} {automaton : Automaton}

theorem left (h : (first ++ second).Within automaton) : first.Within automaton where
  transitions := fun transition htransition =>
    h.transitions transition (List.mem_append_left _ htransition)
  finals := fun state hstate => h.finals state (List.mem_append_left _ hstate)

theorem right (h : (first ++ second).Within automaton) : second.Within automaton where
  transitions := fun transition htransition =>
    h.transitions transition (List.mem_append_right _ htransition)
  finals := fun state hstate => h.finals state (List.mem_append_right _ hstate)

theorem mem_of_edge {transition : Transition} (h : (edge transition).Within automaton) :
    transition ∈ automaton.transitions :=
  h.transitions transition (List.mem_singleton_self transition)

theorem edge_of_silent {source target : State} (h : (edge (.silent source target)).Within automaton) :
    automaton.Edge source none target :=
  ⟨.silent source target, h.mem_of_edge, rfl, rfl, rfl⟩

end Piece.Within

/-- A state stands for an agenda inside recursions that start at some states: what is still to be
done is laid out from the state on and ends at `last`. -/
inductive Stands (mode : LoopMode) (automaton : Automaton) (last : State) :
    Starts → Agenda → State → Prop
  | done : Stands mode automaton last (fun _ => none) [] last
  | run {starts : Starts} {rest after checkpoint : Agenda} {activity : Activity}
      {next source next' target : State} {piece : Piece} :
      Lays mode starts after checkpoint (.activity activity) next source piece next' target →
      piece.Within automaton →
      Stands mode automaton last starts rest target →
      Stands mode automaton last starts (.run activity :: rest) source
  | again {starts : Starts} {rest after checkpoint : Agenda} {body : List Activity}
      {next head next' state : State} {piece : Piece} :
      Lays mode starts after checkpoint (.activities body) next head piece next' state →
      piece.Within automaton →
      automaton.Edge state none head →
      Stands mode automaton last starts rest state →
      Stands mode automaton last starts (.again body :: rest) state
  | handle {starts : Starts} {rest after checkpoint : Agenda} {handler : List Activity}
      {next anchor next' target : State} {piece : Piece} :
      anchor ∈ automaton.finals →
      Lays mode starts after checkpoint (.activities handler) next anchor piece next' target →
      piece.Within automaton →
      Stands mode automaton last starts rest target →
      Stands mode automaton last starts (.handle handler :: rest) anchor
  | join {starts : Starts} {rest : Agenda} {state exit : State} :
      automaton.Edge state none exit →
      Stands mode automaton last starts rest exit →
      Stands mode automaton last starts (.join :: rest) state
  | leave {starts starts' : Starts} {rest entry : Agenda} {label : String} {state start : State} :
      Stands mode automaton last starts rest state →
      Stands mode automaton last starts' entry start →
      Stands mode automaton last (starts.within label start) (.leave label entry :: rest) state

namespace Lays

variable {mode : LoopMode} {starts : Starts} {rest checkpoint : Agenda} {automaton : Automaton}
  {next source next' target : State} {piece : Piece}

theorem choices_target {exit : State} {branches : List (List Activity)}
    (h : Lays mode starts rest checkpoint (.choices (some exit) branches) next source piece next'
      target) : target = exit := by
  induction branches generalizing next piece with
  | nil =>
      cases h with
      | choicesEnd => rfl
  | cons branch others ih =>
      cases h with
      | choicesNext _ hothers => exact ih hothers

theorem choices_branch {exit : Option State} {branches : List (List Activity)}
    {branch : List Activity}
    (h : Lays mode starts rest checkpoint (.choices exit branches) next source piece next' target)
    (hwithin : piece.Within automaton) (hbranch : branch ∈ branches) :
    ∃ next₁ inner next₂ last,
      Lays mode starts (.join :: rest) checkpoint (.activities branch) next₁ source inner next₂
        last ∧
      inner.Within automaton ∧ automaton.Edge last none target := by
  induction branches generalizing exit next piece with
  | nil => cases hbranch
  | cons first others ih =>
      cases h with
      | choicesFirst hfirst hothers =>
          rcases List.mem_cons.mp hbranch with rfl | hbranch
          · -- The first branch leads to the exit that it allocates, the others keep it.
            obtain rfl := choices_target hothers
            exact ⟨_, _, _, _, hfirst, hwithin.left.left.left, hwithin.left.right.edge_of_silent⟩
          · exact ih hothers hwithin.right hbranch
      | choicesNext hfirst hothers =>
          rcases List.mem_cons.mp hbranch with rfl | hbranch
          · obtain rfl := choices_target hothers
            exact ⟨_, _, _, _, hfirst, hwithin.left.left, hwithin.left.right.edge_of_silent⟩
          · exact ih hothers hwithin.right hbranch

end Lays

namespace Stands

variable {mode : LoopMode} {automaton : Automaton} {last state : State} {starts : Starts}
  {agenda rest : Agenda}

theorem entry (h : Stands mode automaton last starts agenda state) {label : String} {start : State}
    (hstart : starts label = some start) :
    ∃ entry starts', agenda.entryOf? label = some entry ∧
      Stands mode automaton last starts' entry start := by
  induction h with
  | done => cases hstart
  | run _ _ _ ih => exact ih hstart
  | again _ _ _ _ ih => exact ih hstart
  | handle _ _ _ _ ih => exact ih hstart
  | join _ _ ih => exact ih hstart
  | @leave starts starts' rest entry own state first _ hentry ih _ =>
      rw [Starts.within] at hstart
      rw [Agenda.entryOf?]
      by_cases hlabel : own = label
      · rw [if_pos hlabel.symm, Option.some.injEq] at hstart
        rw [if_pos hlabel, ← hstart]
        exact ⟨entry, starts', rfl, hentry⟩
      · rw [if_neg (Ne.symm hlabel)] at hstart
        rw [if_neg hlabel]
        exact ih hstart

theorem activities {list : List Activity} {after checkpoint : Agenda}
    {next source next' target : State} {piece : Piece}
    (hlays : Lays mode starts after checkpoint (.activities list) next source piece next' target)
    (hwithin : piece.Within automaton) (h : Stands mode automaton last starts rest target) :
    Stands mode automaton last starts (agendaOf list ++ rest) source := by
  induction list generalizing next source piece checkpoint with
  | nil =>
      cases hlays with
      | nil => exact h
  | cons first others ih =>
      cases hlays with
      | cons hfirst hothers => exact .run hfirst hwithin.left (ih hothers hwithin.right)

theorem unfold {next : Agenda} (h : Stands mode automaton last starts agenda state)
    (hunfolds : Unfolds mode agenda next) :
    ∃ starts', Stands mode automaton last starts' next state := by
  cases hunfolds with
  | choice hbranch =>
      cases h with
      | run hlays hwithin hrest =>
          cases hlays with
          | choice hchoices =>
              obtain ⟨_, _, _, _, hinner, hwithin, hedge⟩ :=
                hchoices.choices_branch hwithin hbranch
              exact ⟨starts, activities hinner hwithin (.join hedge hrest)⟩
  | directedChoice hbranch =>
      cases h with
      | run hlays hwithin hrest =>
          cases hlays with
          | directedChoice hchoices =>
              obtain ⟨_, _, _, _, hinner, hwithin, hedge⟩ :=
                hchoices.choices_branch hwithin (List.mem_map_of_mem hbranch)
              exact ⟨starts, activities hinner hwithin (.join hedge hrest)⟩
  | loopOnce hmode =>
      cases h with
      | run hlays hwithin hrest =>
          cases hlays with
          | loopOnce _ hbody => exact ⟨starts, activities hbody hwithin hrest⟩
          | loop hmode' => exact absurd (hmode.symm.trans hmode') (by simp)
  | loopLeft =>
      cases h with
      | again _ _ _ hrest => exact ⟨starts, hrest⟩
  | recursionLeft =>
      cases h with
      | leave hrest _ => exact ⟨_, hrest⟩
  | escape =>
      cases h with
      | run hlays hwithin hrest =>
          cases hlays with
          | escape hbody hhandler =>
              have hanchor := hwithin.left.right.finals _ (List.mem_singleton_self _)
              exact ⟨starts, activities hbody hwithin.left.left
                (.handle hanchor hhandler hwithin.right hrest)⟩
  | handle =>
      cases h with
      | handle _ hlays hwithin hrest => exact ⟨starts, activities hlays hwithin hrest⟩
  | finish =>
      cases h with
      | run hlays _ hrest =>
          cases hlays with
          | finish => exact ⟨starts, hrest⟩

/-- Every move is answered by a transition. -/
theorem move {next : Agenda} {shown : Option Message}
    (h : Stands mode automaton last starts agenda state) (hmoves : Moves mode agenda shown next) :
    ∃ starts' target, automaton.Edge state shown target ∧
      Stands mode automaton last starts' next target := by
  cases hmoves with
  | interaction =>
      cases h with
      | run hlays hwithin hrest =>
          cases hlays with
          | interaction => exact ⟨starts, _, ⟨_, hwithin.right.mem_of_edge, rfl, rfl, rfl⟩, hrest⟩
  | parallel =>
      cases h with
      | run hlays hwithin hrest =>
          cases hlays with
          | parallel _ => exact ⟨starts, _, hwithin.right.edge_of_silent, hrest⟩
  | join =>
      cases h with
      | join hedge hrest => exact ⟨starts, _, hedge, hrest⟩
  | loop hmode =>
      cases h with
      | run hlays hwithin hrest =>
          cases hlays with
          | loopOnce hmode' => exact absurd (hmode.symm.trans hmode') (by simp)
          | loop _ hbody =>
              have hwithin' := hwithin.left.right
              exact ⟨starts, _, hwithin.left.left.right.edge_of_silent, activities hbody hwithin'
                (.again hbody hwithin' hwithin.right.edge_of_silent hrest)⟩
  | again =>
      cases h with
      | again hbody hwithin hedge hrest =>
          exact ⟨starts, _, hedge, activities hbody hwithin (.again hbody hwithin hedge hrest)⟩
  | call hentry =>
      cases h with
      | run hlays hwithin hrest =>
          cases hlays with
          | call hstart =>
              obtain ⟨entry, starts', hentry', hstands⟩ := hrest.entry hstart
              rw [hentry, Option.some.injEq] at hentry'
              subst hentry'
              exact ⟨starts', _, hwithin.left.edge_of_silent, hstands⟩

theorem enter {label : String} {body : List Activity} {entry : Agenda} {starts' : Starts}
    (h : Stands mode automaton last starts (.run (.recursion label body) :: rest) state)
    (hentry : Stands mode automaton last starts' entry state) :
    ∃ starts'', Stands mode automaton last starts''
      (agendaOf body ++ .leave label entry :: rest) state := by
  cases h with
  | run hlays hwithin hrest =>
      cases hlays with
      | recursion hbody => exact ⟨_, activities hbody hwithin (.leave hrest hentry)⟩

theorem mem_finals (h : Stands mode automaton last starts agenda state) (hstops : agenda.Stops) :
    state ∈ automaton.finals := by
  cases hstops with
  | finish =>
      cases h with
      | run hlays hwithin _ =>
          cases hlays with
          | finish => exact hwithin.finals _ (List.mem_singleton_self _)
  | handle =>
      cases h with
      | handle hanchor => exact hanchor

theorem eq_last (h : Stands mode automaton last starts [] state) : state = last := by
  cases h with
  | done => rfl

theorem advances {next : Agenda} {shown : Option Message}
    (h : ∃ starts, Stands mode automaton last starts agenda state)
    (hadvances : Advances mode agenda shown next) :
    ∃ target, Emits automaton.Edge state shown.toList target ∧
      ∃ starts, Stands mode automaton last starts next target := by
  obtain ⟨starts, hstands⟩ := h
  cases hadvances with
  | unfold hunfolds => exact ⟨state, .refl state, hstands.unfold hunfolds⟩
  | move hmoves =>
      obtain ⟨starts', target, hedge, hnext⟩ := hstands.move hmoves
      exact ⟨target, .single hedge, starts', hnext⟩
  | enter => exact ⟨state, .refl state, hstands.enter hstands⟩

theorem emits {next : Agenda} {word : List Message}
    (h : Stands mode automaton last starts agenda state)
    (hemits : Emits (Advances mode) agenda word next) :
    ∃ target, Emits automaton.Edge state word target ∧
      ∃ starts, Stands mode automaton last starts next target :=
  hemits.simulate (fun agenda state => ∃ starts, Stands mode automaton last starts agenda state)
    advances ⟨starts, h⟩

end Stands

/-- A state stands for a point of a conversation with checkpoints if it stands for what is ahead
and for the checkpoint. -/
def Point.StandsAt (mode : LoopMode) (automaton : Automaton) (last : State) (point : Point)
    (state : State) : Prop :=
  (∃ starts, Stands mode automaton last starts point.ahead state) ∧
    ∃ starts, Stands mode automaton last starts point.checkpoint state

namespace Point.StandsAt

variable {mode : LoopMode} {automaton : Automaton} {last state : State} {point : Point}

/-- Every step of a conversation with checkpoints is answered by the automaton. -/
theorem resumes {next : Point} {shown : Option Message}
    (h : point.StandsAt mode automaton last state) (hresumes : Resumes mode point shown next) :
    ∃ target, Emits automaton.Edge state shown.toList target ∧
      next.StandsAt mode automaton last target := by
  obtain ⟨⟨starts, hahead⟩, starts', hcheckpoint⟩ := h
  cases hresumes with
  | unfold hunfolds =>
      exact ⟨state, .refl state, hahead.unfold hunfolds, starts', hcheckpoint⟩
  | move hmoves =>
      obtain ⟨starts'', target, hedge, hnext⟩ := hahead.move hmoves
      exact ⟨target, .single hedge, ⟨starts'', hnext⟩, starts'', hnext⟩
  | enter => exact ⟨state, .refl state, hahead.enter hcheckpoint, starts', hcheckpoint⟩

theorem fresh {starts : Starts} {agenda : Agenda}
    (h : Stands mode automaton last starts agenda state) :
    (Point.fresh agenda).StandsAt mode automaton last state :=
  ⟨⟨starts, h⟩, starts, h⟩

theorem emits {next : Point} {word : List Message} (h : point.StandsAt mode automaton last state)
    (hemits : Emits (Resumes mode) point word next) :
    ∃ target, Emits automaton.Edge state word target ∧ next.StandsAt mode automaton last target :=
  hemits.simulate (Point.StandsAt mode automaton last) resumes h

end Point.StandsAt

namespace Outline

variable {mode : LoopMode} {activities : List Activity} {automaton : Automaton} {piece : Piece}
  {last : State}

theorem within (h : Outline mode activities automaton piece last) : piece.Within automaton where
  transitions := by
    intro transition htransition
    obtain ⟨ends, htransitions, -⟩ := h.transitions
    rw [htransitions]
    exact List.mem_append_left _ htransition
  finals := h.finals

theorem stands_initial (h : Outline mode activities automaton piece last) :
    Stands mode automaton last (fun _ => none) (agendaOf activities) automaton.initial := by
  obtain ⟨next, hlays⟩ := h.laid
  have hstands := Stands.activities hlays h.within .done
  rwa [List.append_nil] at hstands

end Outline

/-- No conversation is lost by compilation: every word that a protocol admits is accepted by its
automaton, and every word that a parallel branch emits up to its end completes its automaton. -/
theorem Protocol.accepts_of_admits {protocol : Protocol} {options : CompileOptions}
    {automaton : Automaton} (h : protocol.compile options = .ok automaton) :
    (∀ word, Admits options.loops protocol.agenda word → automaton.Accepts word) ∧
      EachBranch
        (fun branch nested => ∀ word,
          Emits (Advances options.loops) (agendaOf branch) word [] → nested.Completes word)
        protocol.activities automaton := by
  constructor
  · rintro word ⟨agenda, hemits, hstops⟩
    obtain ⟨piece, last, houtline⟩ := outline_of_compile h
    obtain ⟨state, hpath, starts, hstands⟩ := houtline.stands_initial.emits hemits
    exact Automaton.accepts_iff.mpr ⟨state, hstands.mem_finals hstops, hpath⟩
  · refine eachBranch_of_compile (fun _ _ _ => trivial) ?_ h trivial
    intro branch nested piece initial last done _ houtline hcompleted word hemits
    obtain ⟨state, hpath, starts, hstands⟩ := houtline.stands_initial.emits hemits
    obtain rfl := hstands.eq_last
    exact (houtline.completes_iff hcompleted).mpr hpath

/-- A protocol whose recursion is left by one of the branches of a choice. -/
def retrial : Protocol :=
  .bare "Retrial"
    [.recursion "again"
      [.choice
        [[.interaction (.bare .send (some "retry") ⟨"Peer"⟩), .call "again"],
          [.interaction (.bare .receive (some "done") ⟨"Peer"⟩)]]],
      .parallel
        [[.interaction (.bare .send (some "left") ⟨"Peer"⟩)],
          [.interaction (.bare .send (some "right") ⟨"Peer"⟩)]]]

theorem retrial_admits : Admits .loop retrial.agenda
    [⟨.send, some "retry", ⟨"Peer"⟩⟩, ⟨.receive, some "done", ⟨"Peer"⟩⟩] := by
  refine ⟨[.run .finish], ?_, .finish⟩
  apply Emits.silent_head .enter
  apply Emits.silent_head (.unfold (.choice (List.mem_cons_self ..)))
  apply Emits.message_head (.move .interaction)
  apply Emits.silent_head (.move (.call rfl))
  apply Emits.silent_head .enter
  apply Emits.silent_head (.unfold (.choice (List.mem_cons_of_mem _ (List.mem_cons_self ..))))
  apply Emits.message_head (.move .interaction)
  apply Emits.silent_head (.move .join)
  apply Emits.silent_head (.unfold .recursionLeft)
  apply Emits.silent_head (.move .parallel)
  exact .refl _

theorem retrial_accepts : ∃ automaton, retrial.compile ⟨.loop⟩ = .ok automaton ∧
    automaton.Accepts [⟨.send, some "retry", ⟨"Peer"⟩⟩, ⟨.receive, some "done", ⟨"Peer"⟩⟩] ∧
    EachBranch
      (fun branch nested => ∀ word,
        Emits (Advances .loop) (agendaOf branch) word [] → nested.Completes word)
      retrial.activities automaton := by
  have hok : (retrial.compile ⟨.loop⟩).isOk = true := by decide +kernel
  obtain ⟨automaton, hcompile⟩ := Protocol.exists_eq_ok hok
  obtain ⟨haccepts, hbranches⟩ := Protocol.accepts_of_admits hcompile
  exact ⟨automaton, hcompile, haccepts _ retrial_admits, hbranches⟩

end Conversation

import Conversation.Text.Decimal

namespace Conversation

/-- A state of an automaton. States are not bounded here: what is said about compilations is about
those of fewer than 2^32 states, which a state of 32 bits can number. -/
abbrev State := Nat

def State.text (state : State) : String :=
  "s" ++ Text.decimal state

/-- A finite set of states, listed in ascending order. -/
abbrev StateSet := List State

namespace StateSet

def insert (state : State) : StateSet → StateSet
  | [] => [state]
  | other :: rest =>
      if state < other then state :: other :: rest
      else if state = other then other :: rest
      else other :: insert state rest

def ofList : List State → StateSet
  | [] => []
  | state :: rest => insert state (ofList rest)

theorem mem_insert {a b : State} {set : StateSet} :
    a ∈ insert b set ↔ a = b ∨ a ∈ set := by
  induction set with
  | nil => simp [insert]
  | cons other rest ih =>
      simp only [insert]
      split
      · simp
      · split
        · next heq => subst heq; simp
        · simp only [List.mem_cons, ih]
          constructor
          · rintro (h | h | h)
            · exact .inr (.inl h)
            · exact .inl h
            · exact .inr (.inr h)
          · rintro (h | h | h)
            · exact .inr (.inl h)
            · exact .inl h
            · exact .inr (.inr h)

theorem mem_ofList {a : State} {states : List State} :
    a ∈ ofList states ↔ a ∈ states := by
  induction states with
  | nil => simp [ofList]
  | cons b rest ih => simp [ofList, mem_insert, ih]

theorem pairwise_insert {b : State} {set : StateSet} (h : set.Pairwise (· < ·)) :
    (insert b set).Pairwise (· < ·) := by
  induction set with
  | nil => simp [insert]
  | cons other rest ih =>
      rw [List.pairwise_cons] at h
      simp only [insert]
      split
      · next hlt =>
          refine List.pairwise_cons.2 ⟨?_, List.pairwise_cons.2 h⟩
          intro c hc
          rcases List.mem_cons.1 hc with rfl | hc
          · exact hlt
          · exact Nat.lt_trans hlt (h.1 c hc)
      · split
        · exact List.pairwise_cons.2 h
        · next hlt hne =>
            refine List.pairwise_cons.2 ⟨?_, ih h.2⟩
            intro c hc
            rcases mem_insert.1 hc with rfl | hc
            · exact Nat.lt_of_le_of_ne (Nat.le_of_not_lt hlt) (Ne.symm hne)
            · exact h.1 c hc

theorem pairwise_ofList (states : List State) : (ofList states).Pairwise (· < ·) := by
  induction states with
  | nil => simp [ofList]
  | cons b rest ih => exact pairwise_insert ih

end StateSet

end Conversation

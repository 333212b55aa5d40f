import Conversation.State

namespace Conversation

/-- A finite map from states, listed in ascending order of the keys. -/
abbrev Table (α : Type) := List (State × α)

namespace Table

variable {α : Type}

def find? (state : State) : Table α → Option α
  | [] => none
  | (key, value) :: rest => if key = state then some value else find? state rest

def insert (state : State) (value : α) : Table α → Table α
  | [] => [(state, value)]
  | (key, old) :: rest =>
      if state < key then (state, value) :: (key, old) :: rest
      else if state = key then (state, value) :: rest
      else (key, old) :: insert state value rest

/-- The list at a key, empty when there is none. -/
def listAt (state : State) (table : Table (List α)) : List α :=
  (find? state table).getD []

def append (state : State) (value : α) (table : Table (List α)) : Table (List α) :=
  insert state (listAt state table ++ [value]) table

def erase (state : State) (table : Table α) : Table α :=
  table.filter fun entry => entry.1 ≠ state

theorem find?_insert (state other : State) (value : α) (table : Table α) :
    find? other (insert state value table) =
      if state = other then some value else find? other table := by
  induction table with
  | nil => simp [insert, find?]
  | cons entry rest ih =>
      obtain ⟨key, old⟩ := entry
      simp only [insert]
      split
      · simp [find?]
      · split
        · next heq =>
            subst heq
            simp only [find?]
            split <;> simp_all
        · next hne =>
            simp only [find?, ih]
            split
            · next heq => subst heq; simp [hne]
            · rfl

theorem listAt_append (state other : State) (value : α) (table : Table (List α)) :
    listAt other (append state value table) =
      if state = other then listAt state table ++ [value] else listAt other table := by
  simp only [append, listAt, find?_insert]
  split <;> rfl

theorem length_erase_lt {state : State} {value : α} {table : Table α}
    (h : find? state table = some value) : (erase state table).length < table.length := by
  induction table with
  | nil => simp [find?] at h
  | cons entry rest ih =>
      obtain ⟨key, old⟩ := entry
      simp only [find?] at h
      by_cases hkey : key = state
      · have := List.length_filter_le (fun entry : State × α => decide (entry.1 ≠ state)) rest
        simp only [erase, List.filter_cons, hkey, ne_eq, not_true_eq_false, decide_false,
          Bool.false_eq_true, if_false, List.length_cons] at *
        omega
      · rw [if_neg hkey] at h
        have := ih h
        simp only [erase, List.filter_cons, ne_eq, hkey, not_false_eq_true, decide_true,
          if_true, List.length_cons] at *
        omega

end Table

end Conversation

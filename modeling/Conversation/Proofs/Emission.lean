import Mathlib.Tactic
import Conversation.Message

namespace Conversation

variable {α β : Type}

/-- The system gets from one configuration to another by steps that together emit the word. -/
inductive Emits (step : α → Option Message → α → Prop) : α → List Message → α → Prop
  | refl (a : α) : Emits step a [] a
  | head {a b c : α} {shown : Option Message} {word : List Message} :
      step a shown b → Emits step b word c → Emits step a (shown.toList ++ word) c

namespace Emits

variable {step : α → Option Message → α → Prop}

theorem single {a b : α} {shown : Option Message} (h : step a shown b) :
    Emits step a shown.toList b := by
  simpa using head h (refl b)

theorem silent_head {a b c : α} {word : List Message} (hstep : step a none b)
    (h : Emits step b word c) : Emits step a word c :=
  head hstep h

theorem message_head {a b c : α} {message : Message} {word : List Message}
    (hstep : step a (some message) b) (h : Emits step b word c) :
    Emits step a (message :: word) c :=
  head hstep h

theorem trans {a b c : α} {word₁ word₂ : List Message} (h₁ : Emits step a word₁ b)
    (h₂ : Emits step b word₂ c) : Emits step a (word₁ ++ word₂) c := by
  induction h₁ with
  | refl a => exact h₂
  | head hstep _ ih =>
      rw [List.append_assoc]
      exact head hstep (ih h₂)

theorem silent_trans {a b c : α} {word : List Message} (h₁ : Emits step a [] b)
    (h₂ : Emits step b word c) : Emits step a word c :=
  trans h₁ h₂

theorem trans_silent {a b c : α} {word : List Message} (h₁ : Emits step a word b)
    (h₂ : Emits step b [] c) : Emits step a word c := by
  simpa using trans h₁ h₂

theorem tail_silent {a b c : α} {word : List Message} (h : Emits step a word b)
    (hstep : step b none c) : Emits step a word c :=
  trans_silent h (single hstep)

theorem nil_iff {a c : α} :
    Emits step a [] c ↔ a = c ∨ ∃ b, step a none b ∧ Emits step b [] c := by
  constructor
  · intro h
    generalize hword : ([] : List Message) = word at h
    cases h with
    | refl => exact .inl rfl
    | @head _ b _ shown rest hstep htail =>
        cases shown with
        | none =>
            obtain rfl : [] = rest := hword
            exact .inr ⟨b, hstep, htail⟩
        | some message => cases hword
  · rintro (rfl | ⟨b, hstep, htail⟩)
    · exact refl a
    · exact silent_head hstep htail

theorem cons_iff {a c : α} {message : Message} {word : List Message} :
    Emits step a (message :: word) c ↔
      ∃ b₁ b₂, Emits step a [] b₁ ∧ step b₁ (some message) b₂ ∧ Emits step b₂ word c := by
  constructor
  · intro h
    generalize hword : message :: word = all at h
    induction h with
    | refl a => cases hword
    | @head a b c shown rest hstep htail ih =>
        cases shown with
        | none =>
            obtain ⟨b₁, b₂, hsilent, hemit, hrest⟩ := ih hword
            exact ⟨b₁, b₂, silent_trans (single hstep) hsilent, hemit, hrest⟩
        | some shown =>
            obtain ⟨rfl, rfl⟩ : message = shown ∧ word = rest := by simpa using hword
            exact ⟨a, b, refl a, hstep, htail⟩
  · rintro ⟨b₁, b₂, hsilent, hemit, hrest⟩
    exact silent_trans hsilent (head hemit hrest)

/-- If every step can be answered by an emission of the same message, every emission can. -/
theorem simulate {other : β → Option Message → β → Prop} (related : α → β → Prop)
    (hstep : ∀ {a b shown x}, related a x → step a shown b →
      ∃ y, Emits other x shown.toList y ∧ related b y)
    {a b : α} {word : List Message} (h : Emits step a word b) {x : β} (hx : related a x) :
    ∃ y, Emits other x word y ∧ related b y := by
  induction h generalizing x with
  | refl a => exact ⟨x, refl x, hx⟩
  | head hfirst _ ih =>
      obtain ⟨y, hy, hrelated⟩ := hstep hx hfirst
      obtain ⟨z, hz, hrelated⟩ := ih hrelated
      exact ⟨z, trans hy hz, hrelated⟩

end Emits

end Conversation

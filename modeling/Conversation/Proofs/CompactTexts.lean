import Mathlib.Tactic
import Conversation.Json.Printer

namespace Conversation.Json

variable {rest rest' : List Char}

/-- The characters that are not written as they stand. -/
def escaped : List Char :=
  '"' :: '\\' :: (List.range 0x20).map Char.ofNat

theorem escape_of_not_mem_escaped {c : Char} (h : c ∉ escaped) :
    escape c = [c] ∧ c ≠ '"' ∧ c ≠ '\\' := by
  have hcontrol : ¬ c.toNat < 0x20 := by
    intro hlt
    refine h (List.mem_cons_of_mem _ (List.mem_cons_of_mem _ ?_))
    exact List.mem_map.mpr ⟨c.toNat, List.mem_range.mpr hlt, Char.ofNat_toNat c⟩
  have hplain : ∀ d : Char, d ∈ escaped → c ≠ d := by
    rintro d hd rfl
    exact h hd
  refine ⟨?_, hplain '"' (by decide), hplain '\\' (by decide)⟩
  simp only [escape, hplain '"' (by decide), hplain '\\' (by decide), hplain '\x08' (by decide),
    hplain '\x09' (by decide), hplain '\x0A' (by decide), hplain '\x0C' (by decide),
    hplain '\x0D' (by decide), hcontrol, if_false]

/-- Only an escape begins with a backslash, and nothing is written as a bare quotation mark. -/
theorem head?_escape (c : Char) :
    (escape c).head? = some (if c ∈ escaped then '\\' else c) := by
  by_cases h : c ∈ escaped
  · have hall : (escaped.all fun c => (escape c).head? = some '\\') = true := by decide +kernel
    rw [if_pos h]
    exact of_decide_eq_true (List.all_eq_true.mp hall c h)
  · rw [if_neg h, (escape_of_not_mem_escaped h).1, List.head?_cons]

theorem eq_of_prefix_escape {c d : Char} (hc : c ∈ escaped) (hd : d ∈ escaped)
    (h : escape c <+: escape d) : c = d := by
  have hall : (escaped.all fun c => escaped.all fun d => escape c <+: escape d → c = d) = true := by
    decide +kernel
  exact of_decide_eq_true (List.all_eq_true.mp (List.all_eq_true.mp hall c hc) d hd) h

theorem escape_append_inj {c d : Char} (h : escape c ++ rest = escape d ++ rest') :
    c = d ∧ rest = rest' := by
  have hsame : c = d := by
    have hheads := congrArg List.head? h
    rw [List.head?_append, List.head?_append, head?_escape, head?_escape] at hheads
    by_cases hc : c ∈ escaped <;> by_cases hd : d ∈ escaped
    · rcases List.prefix_or_prefix_of_prefix ⟨rest, h⟩ (List.prefix_append _ rest') with
        hprefix | hprefix
      · exact eq_of_prefix_escape hc hd hprefix
      · exact (eq_of_prefix_escape hd hc hprefix).symm
    · simp only [hc, hd, if_true, if_false, Option.some_or, Option.some.injEq] at hheads
      exact absurd hheads.symm (escape_of_not_mem_escaped hd).2.2
    · simp only [hc, hd, if_true, if_false, Option.some_or, Option.some.injEq] at hheads
      exact absurd hheads (escape_of_not_mem_escaped hc).2.2
    · simpa [hc, hd] using hheads
  subst hsame
  exact ⟨rfl, List.append_cancel_left h⟩

theorem head?_escape_ne_quote (c : Char) : (escape c).head? ≠ some '"' := by
  rw [head?_escape]
  by_cases h : c ∈ escaped
  · simp [h]
  · simpa [h] using (escape_of_not_mem_escaped h).2.1

theorem flatMap_escape_inj {text other : List Char}
    (h : text.flatMap escape ++ '"' :: rest = other.flatMap escape ++ '"' :: rest') :
    text = other ∧ rest = rest' := by
  induction text generalizing other with
  | nil =>
      cases other with
      | nil => simpa using h
      | cons d others =>
          have hhead := congrArg List.head? h
          simp only [List.flatMap_nil, List.nil_append, List.head?_cons, List.flatMap_cons,
            List.append_assoc, List.head?_append, head?_escape, Option.some_or] at hhead
          exact absurd ((head?_escape d).trans hhead.symm) (head?_escape_ne_quote d)
  | cons c text ih =>
      cases other with
      | nil =>
          have hhead := congrArg List.head? h
          simp only [List.flatMap_nil, List.nil_append, List.head?_cons, List.flatMap_cons,
            List.append_assoc, List.head?_append, head?_escape, Option.some_or] at hhead
          exact absurd ((head?_escape c).trans hhead) (head?_escape_ne_quote c)
      | cons d others =>
          rw [List.flatMap_cons, List.flatMap_cons, List.append_assoc, List.append_assoc] at h
          obtain ⟨rfl, hbehind⟩ := escape_append_inj h
          obtain ⟨rfl, hrest⟩ := ih hbehind
          exact ⟨rfl, hrest⟩

theorem quoted_append_inj {text other : String}
    (h : quoted text ++ rest = quoted other ++ rest') : text = other ∧ rest = rest' := by
  simp only [quoted, List.cons_append, List.append_assoc, List.nil_append, List.cons.injEq,
    true_and] at h
  obtain ⟨hchars, hrest⟩ := flatMap_escape_inj h
  exact ⟨String.toList_inj.mp hchars, hrest⟩

mutual

/-- No number stands in the value. -/
def Numberless : Json → Prop
  | .number _ => False
  | .array items => NumberlessItems items
  | .object members => NumberlessMembers members
  | _ => True

def NumberlessItems : List Json → Prop
  | [] => True
  | item :: rest => item.Numberless ∧ NumberlessItems rest

def NumberlessMembers : List (String × Json) → Prop
  | [] => True
  | (_, value) :: rest => value.Numberless ∧ NumberlessMembers rest

end

theorem numberlessItems_iff (items : List Json) :
    NumberlessItems items ↔ ∀ item ∈ items, item.Numberless := by
  induction items with
  | nil => simp [NumberlessItems]
  | cons item rest ih => rw [NumberlessItems, ih, List.forall_mem_cons]

theorem numberlessMembers_iff (members : List (String × Json)) :
    NumberlessMembers members ↔ ∀ member ∈ members, member.2.Numberless := by
  induction members with
  | nil => simp [NumberlessMembers]
  | cons member rest ih => rw [NumberlessMembers, ih, List.forall_mem_cons]

/-- What the text of a value begins with tells its kind. -/
def mark : Json → Char
  | .null => 'n'
  | .bool true => 't'
  | .bool false => 'f'
  | .number _ => '0'
  | .string _ => '"'
  | .array _ => '['
  | .object _ => '{'

theorem head?_compactChars {value : Json} (h : value.Numberless) :
    value.compactChars.head? = some value.mark := by
  cases value with
  | null => rfl
  | bool value => cases value <;> rfl
  | number value => exact h.elim
  | string value => rfl
  | array items => cases items <;> rfl
  | object members => rcases members with _ | ⟨⟨key, value⟩, members⟩ <;> rfl

theorem mark_eq_of_append {value other : Json} (hvalue : value.Numberless)
    (hother : other.Numberless) (h : value.compactChars ++ rest = other.compactChars ++ rest') :
    value.mark = other.mark := by
  have hheads := congrArg List.head? h
  simpa [List.head?_append, head?_compactChars hvalue, head?_compactChars hother] using hheads

theorem compactChars_append_ne {value : Json} (h : value.Numberless) (behind : List Char) :
    value.compactChars ++ behind ≠ ']' :: rest := by
  intro heq
  have hheads := congrArg List.head? heq
  rw [List.head?_append, head?_compactChars h] at hheads
  rcases value with _ | (_ | _) | _ | _ | _ | _ <;> simp [mark] at hheads

mutual

theorem compactChars_append_inj (value other : Json) {rest rest' : List Char}
    (hvalue : value.Numberless) (hother : other.Numberless)
    (h : value.compactChars ++ rest = other.compactChars ++ rest') :
    value = other ∧ rest = rest' := by
  have hmark := mark_eq_of_append hvalue hother h
  cases value with
  | null =>
      obtain rfl : other = .null := by
        rcases other with _ | (_ | _) | _ | _ | _ | _ <;> simp_all [mark]
      exact ⟨rfl, List.append_cancel_left h⟩
  | bool value =>
      obtain rfl : other = .bool value := by
        cases value <;> rcases other with _ | (_ | _) | _ | _ | _ | _ <;> simp_all [mark]
      exact ⟨rfl, List.append_cancel_left h⟩
  | number value => exact hvalue.elim
  | string text =>
      obtain ⟨text', rfl⟩ : ∃ text', other = .string text' := by
        rcases other with _ | (_ | _) | _ | _ | _ | _ <;> simp_all [mark]
      simp only [compactChars] at h
      obtain ⟨rfl, hrest⟩ := quoted_append_inj h
      exact ⟨rfl, hrest⟩
  | array items =>
      obtain ⟨others, rfl⟩ : ∃ others, other = .array others := by
        rcases other with _ | (_ | _) | _ | _ | _ | _ <;> simp_all [mark]
      rcases items with _ | ⟨item, items⟩ <;> rcases others with _ | ⟨other, others⟩
      · exact ⟨rfl, List.append_cancel_left h⟩
      · simp only [compactChars, List.cons_append, List.append_assoc, List.nil_append,
          List.cons.injEq, true_and] at h
        exact absurd h.symm (compactChars_append_ne hother.1 _)
      · simp only [compactChars, List.cons_append, List.append_assoc, List.nil_append,
          List.cons.injEq, true_and] at h
        exact absurd h (compactChars_append_ne hvalue.1 _)
      · simp only [compactChars, List.cons_append, List.append_assoc, List.nil_append,
          List.cons.injEq, true_and] at h
        obtain ⟨rfl, hbehind⟩ := compactChars_append_inj item other hvalue.1 hother.1 h
        obtain ⟨rfl, hrest⟩ := compactItems_append_inj items others hvalue.2 hother.2 hbehind
        exact ⟨rfl, hrest⟩
  | object members =>
      obtain ⟨others, rfl⟩ : ∃ others, other = .object others := by
        rcases other with _ | (_ | _) | _ | _ | _ | _ <;> simp_all [mark]
      rcases members with _ | ⟨⟨key, value⟩, members⟩ <;>
        rcases others with _ | ⟨⟨key', value'⟩, others⟩
      · exact ⟨rfl, List.append_cancel_left h⟩
      · simp [compactChars, quoted] at h
      · simp [compactChars, quoted] at h
      · simp only [compactChars, List.cons_append, List.append_assoc, List.nil_append,
          List.cons.injEq, true_and] at h
        obtain ⟨rfl, hcolon⟩ := quoted_append_inj h
        obtain ⟨rfl, hbehind⟩ := compactChars_append_inj value value' hvalue.1 hother.1
          (List.cons.inj hcolon).2
        obtain ⟨rfl, hrest⟩ := compactMembers_append_inj members others hvalue.2 hother.2 hbehind
        exact ⟨rfl, hrest⟩

theorem compactItems_append_inj (items others : List Json) {rest rest' : List Char}
    (hitems : NumberlessItems items) (hothers : NumberlessItems others)
    (h : compactItems items ++ ']' :: rest = compactItems others ++ ']' :: rest') :
    items = others ∧ rest = rest' := by
  cases items with
  | nil =>
      cases others with
      | nil => simpa [compactItems] using h
      | cons other others => simp [compactItems] at h
  | cons item items =>
      cases others with
      | nil => simp [compactItems] at h
      | cons other others =>
          simp only [compactItems, List.cons_append, List.append_assoc, List.cons.injEq,
            true_and] at h
          obtain ⟨rfl, hbehind⟩ := compactChars_append_inj item other hitems.1 hothers.1 h
          obtain ⟨rfl, hrest⟩ := compactItems_append_inj items others hitems.2 hothers.2 hbehind
          exact ⟨rfl, hrest⟩

theorem compactMembers_append_inj (members others : List (String × Json)) {rest rest' : List Char}
    (hmembers : NumberlessMembers members) (hothers : NumberlessMembers others)
    (h : compactMembers members ++ '}' :: rest = compactMembers others ++ '}' :: rest') :
    members = others ∧ rest = rest' := by
  cases members with
  | nil =>
      cases others with
      | nil => simpa [compactMembers] using h
      | cons other others => simp [compactMembers] at h
  | cons member members =>
      obtain ⟨key, value⟩ := member
      cases others with
      | nil => simp [compactMembers] at h
      | cons other others =>
          obtain ⟨key', value'⟩ := other
          simp only [compactMembers, List.cons_append, List.append_assoc, List.cons.injEq,
            true_and] at h
          obtain ⟨rfl, hvalue⟩ := quoted_append_inj h
          obtain ⟨rfl, hbehind⟩ := compactChars_append_inj value value' hmembers.1 hothers.1
            (List.cons.inj hvalue).2
          obtain ⟨rfl, hrest⟩ := compactMembers_append_inj members others hmembers.2 hothers.2
            hbehind
          exact ⟨rfl, hrest⟩

end

/-- The compact text of a value without numbers determines the value. -/
theorem compact_inj {value other : Json} (hvalue : value.Numberless) (hother : other.Numberless)
    (h : value.compact = other.compact) : value = other := by
  have hchars : value.compactChars ++ [] = other.compactChars ++ [] := by
    rw [List.append_nil, List.append_nil]
    exact String.ofList_injective h
  exact (compactChars_append_inj value other hvalue hother hchars).1

end Conversation.Json

import Mathlib.Data.List.DropRight
import Mathlib.Data.List.TakeWhile
import Conversation.Proofs.RoundTrip

namespace Conversation

namespace Text

variable {lead text trail : List Char}

theorem trim_blanks_append (h : ∀ c ∈ lead, isBlank c = true) : trim (lead ++ text) = trim text := by
  rw [trim, trim, List.dropWhile_append_of_pos h]

theorem trimEnd_append_blanks (h : ∀ c ∈ trail, isBlank c = true) :
    trimEnd (text ++ trail) = trimEnd text := by
  have hreverse : ∀ c ∈ trail.reverse, isBlank c = true :=
    fun c hc => h c (List.mem_reverse.mp hc)
  rw [trimEnd, trimEnd, List.reverse_append, List.dropWhile_append_of_pos hreverse]

theorem trim_append_blanks (h : ∀ c ∈ trail, isBlank c = true) :
    trim (text ++ trail) = trim text := by
  rw [trim, List.dropWhile_append]
  split
  · next hblank =>
      have hall : trail.dropWhile isBlank = [] := List.dropWhile_eq_nil_iff.mpr h
      rw [hall, trim, List.isEmpty_iff.mp hblank]
  · rw [trimEnd_append_blanks h, trim]

theorem trim_between {first last : Char} (hfirst : isBlank first = false)
    (hlast : isBlank last = false) :
    trim (first :: (text ++ [last])) = first :: (text ++ [last]) := by
  rw [trim, List.dropWhile_cons_of_neg (by simp [hfirst]), trimEnd, ← List.cons_append,
    List.reverse_append, List.reverse_singleton, List.singleton_append,
    List.dropWhile_cons_of_neg (by simp [hlast]), List.reverse_cons, List.reverse_reverse]

/-- Only blanks are taken off in front, so the end is as it was. -/
theorem trimEnd_eq_append (text : List Char) :
    ∃ blanks, text = trimEnd text ++ blanks ∧ ∀ c ∈ blanks, isBlank c = true := by
  refine ⟨(text.reverse.takeWhile isBlank).reverse, ?_, ?_⟩
  · rw [trimEnd, ← List.reverse_append, List.takeWhile_append_dropWhile, List.reverse_reverse]
  · intro c hc
    exact List.mem_takeWhile_imp (List.mem_reverse.mp hc)

theorem trim_trim (text : List Char) : trim (trim text) = trim text := by
  obtain ⟨blanks, hblanks, hall⟩ := trimEnd_eq_append (text.dropWhile isBlank)
  calc trim (trim text) = trim (trim text ++ blanks) := (trim_append_blanks hall).symm
    _ = trim (text.dropWhile isBlank) := congrArg trim hblanks.symm
    _ = trim text := by rw [trim, List.dropWhile_idempotent, trim]

def trimmed (text : String) : String :=
  String.ofList (trim text.toList)

def Trimmed (text : List Char) : Prop :=
  text.head?.any isBlank = false ∧ text.getLast?.any isBlank = false

theorem dropWhile_isBlank_eq_self_iff (text : List Char) :
    text.dropWhile isBlank = text ↔ text.head?.any isBlank = false := by
  rw [List.dropWhile_eq_self_iff]
  cases text with
  | nil => simp
  | cons first rest => simp

theorem trimEnd_eq_self_iff (text : List Char) :
    trimEnd text = text ↔ text.getLast?.any isBlank = false := by
  rw [trimEnd, List.reverse_eq_iff, dropWhile_isBlank_eq_self_iff, List.head?_reverse]

/-- Trimming only ever takes characters away, so nothing changes exactly if none is taken at either
end. -/
theorem trim_eq_self_iff (text : List Char) : trim text = text ↔ Trimmed text := by
  rw [Trimmed, ← dropWhile_isBlank_eq_self_iff, ← trimEnd_eq_self_iff]
  constructor
  · intro htrim
    have hfront : text.dropWhile isBlank = text := by
      refine (List.dropWhile_sublist isBlank).eq_of_length_le ?_
      have hback := (List.dropWhile_sublist isBlank (l := (text.dropWhile isBlank).reverse)).length_le
      have htotal := congrArg List.length htrim
      rw [trim, trimEnd, List.length_reverse] at htotal
      rwa [htotal, List.length_reverse] at hback
    refine ⟨hfront, ?_⟩
    rwa [trim, hfront] at htrim
  · rintro ⟨hfront, hback⟩
    rw [trim, hfront, hback]

end Text

namespace Assertion

/-- The text is written between markers, with blanks inside and outside of them or without. -/
def Quotes (text quoted : String) : Prop :=
  ∃ lead before after trail : List Char,
    (∀ c ∈ lead ++ before ++ after ++ trail, Text.isBlank c = true) ∧
      quoted.toList = lead ++ ['@', '\x7b'] ++ before ++ text.toList ++ after ++ ['\x7d'] ++ trail

theorem strip_trim (text : List Char) : strip (Text.trim text) = strip text := by
  rw [strip, strip, Text.trim_trim]

/-- One layer of markers is taken off, whatever stands between them. -/
theorem strip_between (text : List Char) :
    strip ('@' :: '\x7b' :: (text ++ ['\x7d'])) = Text.trim text := by
  have houter : Text.trim ('@' :: (('\x7b' :: text) ++ ['\x7d'])) =
      '@' :: (('\x7b' :: text) ++ ['\x7d']) :=
    Text.trim_between (by decide) (by decide)
  have hclosed : dropClosing (text ++ ['\x7d']) = text := by
    rw [dropClosing, if_pos List.getLast?_concat, List.dropLast_concat]
  rw [List.cons_append] at houter
  rw [strip, houter, dropOpening, hclosed]

theorem strip_quoted {text quoted : String} (h : Quotes text quoted) :
    strip quoted.toList = Text.trim text.toList := by
  obtain ⟨lead, before, after, trail, hblank, hquoted⟩ := h
  simp only [List.forall_mem_append] at hblank
  obtain ⟨⟨⟨hlead, hbefore⟩, hafter⟩, htrail⟩ := hblank
  have hregroup : quoted.toList =
      lead ++ ('@' :: '\x7b' :: (before ++ text.toList ++ after ++ ['\x7d']) ++ trail) := by
    rw [hquoted]
    simp
  calc strip quoted.toList = strip (Text.trim quoted.toList) := (strip_trim _).symm
    _ = strip (Text.trim ('@' :: '\x7b' :: (before ++ text.toList ++ after ++ ['\x7d']))) := by
      rw [hregroup, Text.trim_blanks_append hlead, Text.trim_append_blanks htrail]
    _ = Text.trim (before ++ text.toList ++ after) := by rw [strip_trim, strip_between]
    _ = Text.trim text.toList := by
      rw [Text.trim_append_blanks hafter, Text.trim_blanks_append hbefore]

/-- A text keeps all but the blanks at its ends exactly if no marker is found on it. -/
theorem strip_eq_trim_iff (text : List Char) :
    strip text = Text.trim text ↔
      ¬ ['@', '\x7b'] <+: Text.trim text ∧ (Text.trim text).getLast? ≠ some '\x7d' := by
  rw [← strip_trim, strip_eq_self_iff, dropOpening_eq_self_iff, dropClosing_eq_self_iff]
  exact and_iff_right (Text.trim_trim text)

/-- A guard that is written between markers is stored as it stands there, up to blanks at its ends.
Without the markers it is stored in the same way exactly if it does not begin with the opening one
and does not end with a brace. -/
theorem ofText_quoted {text quoted : String} (h : Quotes text quoted) :
    (ofText quoted).expression = Text.trimmed text ∧
      (ofText text = ofText quoted ↔
        ¬ ['@', '\x7b'] <+: Text.trim text.toList ∧
          (Text.trim text.toList).getLast? ≠ some '\x7d') := by
  rw [← strip_eq_trim_iff, ofText, ofText, strip_quoted h, Assertion.mk.injEq]
  refine ⟨rfl, ?_⟩
  rw [← String.toList_inj, String.toList_ofList, String.toList_ofList]

/-- Braces within a guard do no harm. -/
theorem ofText_quoted_braces :
    Quotes " amount in \x7b1,2\x7d or more" "\t@\x7b amount in \x7b1,2\x7d or more \x7d\n" ∧
      (ofText "\t@\x7b amount in \x7b1,2\x7d or more \x7d\n").expression =
        Text.trimmed " amount in \x7b1,2\x7d or more" ∧
      ofText " amount in \x7b1,2\x7d or more" =
        ofText "\t@\x7b amount in \x7b1,2\x7d or more \x7d\n" := by
  have hquotes : Quotes " amount in \x7b1,2\x7d or more"
      "\t@\x7b amount in \x7b1,2\x7d or more \x7d\n" :=
    ⟨['\t'], [], [' '], ['\n'], List.all_eq_true.mp (by decide), by decide⟩
  obtain ⟨hstored, hsame⟩ := ofText_quoted hquotes
  exact ⟨hquotes, hstored, hsame.mpr ⟨by decide, by decide⟩⟩

/-- A guard that ends with a brace of its own loses it when it is written without markers. -/
theorem ofText_set_ne_quoted :
    Quotes "x in \x7b1,2\x7d" "@\x7bx in \x7b1,2\x7d\x7d" ∧
      ¬ ['@', '\x7b'] <+: Text.trim "x in \x7b1,2\x7d".toList ∧
      ofText "x in \x7b1,2\x7d" = ⟨"x in \x7b1,2"⟩ ∧
      ofText "@\x7bx in \x7b1,2\x7d\x7d" = ⟨"x in \x7b1,2\x7d"⟩ ∧
      ofText "x in \x7b1,2\x7d" ≠ ofText "@\x7bx in \x7b1,2\x7d\x7d" :=
  ⟨⟨[], [], [], [], List.all_eq_true.mp (by decide), by decide⟩, by decide, by decide, by decide,
    by decide⟩

theorem toList_text (guard : Assertion) :
    guard.text.toList = '@' :: '\x7b' :: (guard.expression.toList ++ ['\x7d']) := by
  rw [text, String.toList_append, String.toList_append]
  rfl

/-- The display of a guard is stored as that guard, unless blanks at its ends get lost. -/
theorem ofText_text_eq_self_iff (guard : Assertion) :
    ofText guard.text = guard ↔ Text.Trimmed guard.expression.toList := by
  obtain ⟨expression⟩ := guard
  rw [← Text.trim_eq_self_iff, ofText, toList_text, strip_between, Assertion.mk.injEq,
    ← String.toList_inj, String.toList_ofList]

/-- What is stored has no blanks at its ends, so its display is stored in the same way, however many
markers the text was written with. -/
theorem ofText_text (written : String) :
    ofText (ofText written).text = ofText written ∧
      Text.Trimmed (ofText written).expression.toList := by
  have hstored : Text.Trimmed (ofText written).expression.toList := by
    rw [ofText, String.toList_ofList, ← Text.trim_eq_self_iff, strip, Text.trim_trim]
  exact ⟨(ofText_text_eq_self_iff _).mpr hstored, hstored⟩

end Assertion

end Conversation

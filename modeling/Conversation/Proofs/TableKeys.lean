import Mathlib.Data.List.Forall2
import Mathlib.Data.List.Perm.Basic
import Mathlib.Data.List.TakeWhile
import Conversation.Proofs.JsonRecords
import Conversation.Proofs.Outline

namespace Conversation

/-- The number of a state fits 32 bits; no other number is read as a state. -/
def State.Fits (state : Nat) : Prop := state < 2 ^ 32

instance : DecidablePred State.Fits := fun state => inferInstanceAs (Decidable (state < 2 ^ 32))

theorem State.Fits.lt_word {state : Nat} (h : State.Fits state) : state < Nat.pow 2 64 := by
  rw [State.Fits] at h
  rw [Nat.pow_eq]
  omega

namespace Text

theorem digits_of_lt {n : Nat} (h : n < 10) : digits 10 n = [digit n] := by
  rw [digits, if_pos (.inl h)]

theorem digits_of_le {n : Nat} (h : 10 ≤ n) :
    digits 10 n = digits 10 (n / 10) ++ [digit (n % 10)] := by
  rw [digits, if_neg (by omega)]

theorem isDigit_digit : ∀ n < 10, (digit n).isDigit := by
  decide

theorem isDigit_of_mem_digits {n : Nat} {c : Char} (h : c ∈ digits 10 n) : c.isDigit := by
  induction n using Nat.strong_induction_on with
  | _ n ih =>
      by_cases hlt : n < 10
      · rw [digits_of_lt hlt, List.mem_singleton] at h
        exact h ▸ isDigit_digit n hlt
      · rw [digits_of_le (by omega), List.mem_append, List.mem_singleton] at h
        rcases h with h | rfl
        · exact ih (n / 10) (by omega) h
        · exact isDigit_digit _ (Nat.mod_lt _ (by decide))

theorem digits_eq_cons {n : Nat} (h : 0 < n) :
    ∃ c rest, digits 10 n = c :: rest ∧ c ≠ '0' := by
  induction n using Nat.strong_induction_on with
  | _ n ih =>
      by_cases hlt : n < 10
      · have hnonzero : ∀ n < 10, 0 < n → digit n ≠ '0' := by decide
        exact ⟨digit n, [], digits_of_lt hlt, hnonzero n hlt h⟩
      · obtain ⟨c, rest, hdigits, hnonzero⟩ := ih (n / 10) (by omega) (by omega)
        exact ⟨c, rest ++ [digit (n % 10)], by rw [digits_of_le (by omega), hdigits]; rfl,
          hnonzero⟩

theorem digits_ne_nil (n : Nat) : digits 10 n ≠ [] := by
  rw [digits]
  split <;> simp

theorem digits_inj {first second : Nat} (h : digits 10 first = digits 10 second) :
    first = second := by
  have hdigit : ∀ m < 10, ∀ n < 10, digit m = digit n → m = n := by decide
  induction first using Nat.strong_induction_on generalizing second with
  | _ first ih =>
      rcases lt_or_ge first 10 with hfirst | hfirst <;> rcases lt_or_ge second 10 with hsecond | hsecond
      · rw [digits_of_lt hfirst, digits_of_lt hsecond, List.singleton_inj] at h
        exact hdigit first hfirst second hsecond h
      · rw [digits_of_lt hfirst, digits_of_le hsecond, eq_comm, List.append_eq_singleton_iff] at h
        simp [digits_ne_nil] at h
      · rw [digits_of_le hfirst, digits_of_lt hsecond, List.append_eq_singleton_iff] at h
        simp [digits_ne_nil] at h
      · rw [digits_of_le hfirst, digits_of_le hsecond] at h
        obtain ⟨hrest, hlast⟩ := List.append_inj' h rfl
        have hdiv := ih (first / 10) (by omega) hrest
        have hmod := hdigit _ (Nat.mod_lt first (by decide)) _ (Nat.mod_lt second (by decide))
          (List.singleton_inj.mp hlast)
        omega

theorem decimal_inj {first second : Nat} (h : decimal first = decimal second) :
    first = second :=
  digits_inj (String.ofList_injective h)

end Text

namespace Json

namespace Numeral

theorem digitValue_digit : ∀ n < 10, digitValue (Text.digit n) = n := by
  decide

theorem extend_append {first value : Nat} {text : List Char} {c : Char}
    (h : extend first text = (value, text.length))
    (hfits : value * 10 + digitValue c < Nat.pow 2 64) :
    extend first (text ++ [c]) = (value * 10 + digitValue c, text.length + 1) := by
  induction text generalizing first with
  | nil =>
      obtain ⟨rfl, -⟩ := Prod.mk.inj h
      simp only [List.nil_append, extend, if_pos hfits, List.length_nil]
  | cons next rest ih =>
      rw [extend] at h
      split at h
      · next hnext =>
          have hrest : extend (first * 10 + digitValue next) rest = (value, rest.length) := by
            simpa [Prod.ext_iff] using h
          rw [List.cons_append, extend, if_pos hnext, ih hrest, List.length_cons]
      · have : (0 : Nat) = rest.length + 1 := congrArg Prod.snd h
        omega

theorem extend_digits {n : Nat} (h : n < Nat.pow 2 64) :
    extend 0 (Text.digits 10 n) = (n, (Text.digits 10 n).length) := by
  induction n using Nat.strong_induction_on with
  | _ n ih =>
      by_cases hlt : n < 10
      · simp only [Text.digits_of_lt hlt, extend, digitValue_digit n hlt, Nat.zero_mul,
          Nat.zero_add, if_pos h, List.length_singleton]
      · have hlast : digitValue (Text.digit (n % 10)) = n % 10 :=
          digitValue_digit _ (Nat.mod_lt _ (by decide))
        have hwhole : n / 10 * 10 + n % 10 = n := by omega
        have hextended := extend_append (ih (n / 10) (by omega) (by omega))
          (by rwa [hlast, hwhole])
        rw [hlast, hwhole] at hextended
        rw [Text.digits_of_le (by omega), hextended, List.length_append, List.length_singleton]

theorem scanWhole_digits (n : Nat) (place : Place) :
    ∃ stop, scanWhole ⟨Text.digits 10 n, place⟩ = .ok (Text.digits 10 n, ⟨[], stop⟩) := by
  rcases Nat.eq_zero_or_pos n with rfl | hpos
  · rw [Text.digits_of_lt (by decide)]
    exact ⟨_, rfl⟩
  · obtain ⟨c, rest, hdigits, hnonzero⟩ := Text.digits_eq_cons hpos
    have hall : ∀ next ∈ c :: rest, next.isDigit = true := by
      rw [← hdigits]
      exact fun next => Text.isDigit_of_mem_digits
    have hrun : (c :: rest).takeWhile Char.isDigit = c :: rest :=
      List.takeWhile_eq_self_iff.mpr hall
    have hstart : Cursor.atDigit ⟨c :: rest, place⟩ = true := hall c List.mem_cons_self
    rw [hdigits]
    refine ⟨⟨place.line, place.column + (c :: rest).length⟩, ?_⟩
    unfold scanWhole
    split
    · next h => exact absurd (List.cons.inj h).1 hnonzero
    · rw [if_pos hstart, Cursor.digits, hrun, List.drop_length]

end Numeral

theorem readNumber_digits {n : Nat} (h : n < Nat.pow 2 64) (place : Place) :
    ∃ stop, readNumber ⟨Text.digits 10 n, place⟩ =
      (.plain place (.ok (.number (.integer n))) stop, .ok ⟨[], stop⟩) := by
  obtain ⟨stop, hwhole⟩ := Numeral.scanWhole_digits n place
  have hscan : Numeral.scan false ⟨Text.digits 10 n, place⟩ =
      .ok (⟨false, Text.digits 10 n, none, none⟩, ⟨[], stop⟩) := by
    simp only [Numeral.scan, hwhole]
    rfl
  have hvalue : Numeral.value ⟨false, Text.digits 10 n, none, none⟩ stop = .ok (.integer n) := by
    simp [Numeral.value, Numeral.extend_digits h, Numeral.extend]
  refine ⟨stop, ?_⟩
  unfold readNumber
  split
  · next tail hsign =>
      have hdigits : Text.digits 10 n = '-' :: tail := hsign
      have hminus : '-' ∈ Text.digits 10 n := hdigits ▸ List.mem_cons_self
      exact absurd (Text.isDigit_of_mem_digits hminus) (by decide)
  · rw [hscan]
    simp only [hvalue]
    rfl

namespace Decoder

theorem stateOf_integer {state : State} (h : State.Fits state) :
    stateOf (.integer state) = .ok state := by
  have hbounds : 0 ≤ (state : Int) ∧ (state : Int) < Int.pow 2 32 := by
    simp only [State.Fits] at h
    simp only [Int.pow_eq]
    omega
  rw [stateOf, if_pos hbounds, Int.toNat_natCast]

theorem ofDoc_integer {state : State} (h : State.Fits state) (origin : Origin)
    (start stop : Place) :
    Decoder.state origin (.plain start (.ok (.number (.integer state))) stop) = .ok state := by
  rw [Decoder.state, stateOf_integer h, Except.mapError]

theorem stateOfKey_decimal {state : State} (h : State.Fits state) :
    stateOfKey (Text.decimal state) = .ok state := by
  obtain ⟨stop, hread⟩ := readNumber_digits h.lt_word .start
  have hgiven := ofDoc_integer h .text .start stop
  unfold stateOfKey
  simp only [Text.decimal, String.toList_ofList, hread]
  cases hdigits : Text.digits 10 state with
  | nil => exact absurd hdigits (Text.digits_ne_nil state)
  | cons c rest =>
      have hdigit : c.isDigit = true :=
        Text.isDigit_of_mem_digits (n := state) (hdigits ▸ List.mem_cons_self)
      simp only [List.head?_cons, hdigit, or_true, if_true, hgiven]
      rfl

theorem state_ofJson {state : State} (h : State.Fits state) :
    Decoder.state.ofJson (.nat state) = .ok state :=
  ofDoc_integer h .value .start .start

end Decoder

end Json

/-- A set is the set of its states in their order. -/
theorem StateSet.ofList_eq_self {set : StateSet} (h : set.Pairwise (· < ·)) :
    ofList set = set := by
  induction set with
  | nil => rfl
  | cons state rest ih =>
      obtain ⟨hleast, hrest⟩ := List.pairwise_cons.mp h
      rw [ofList, ih hrest]
      cases rest with
      | nil => rfl
      | cons next others => rw [insert, if_pos (hleast next List.mem_cons_self)]

namespace Table

variable {α : Type}

def insertAll (table : Table α) (rows : List (State × α)) : Table α :=
  rows.foldl (fun table row => insert row.1 row.2 table) table

theorem insert_perm {state : State} (value : α) {table : Table α}
    (hfresh : state ∉ table.map Prod.fst) :
    (insert state value table).Perm ((state, value) :: table) := by
  induction table with
  | nil => exact .refl _
  | cons row rest ih =>
      obtain ⟨key, old⟩ := row
      simp only [List.map_cons, List.mem_cons, not_or] at hfresh
      unfold insert
      split_ifs with hbefore hsame
      · exact .refl _
      · exact absurd hsame hfresh.1
      · exact ((ih hfresh.2).cons _).trans (.swap ..)

theorem eq_of_perm_of_ascending {rows table : Table α}
    (hrows : (rows.map Prod.fst).Pairwise (· < ·))
    (htable : (table.map Prod.fst).Pairwise (· < ·)) (hperm : rows.Perm table) :
    rows = table := by
  refine hperm.eq_of_pairwise ?_ (List.pairwise_map.mp hrows) (List.pairwise_map.mp htable)
  intro first second _ _ hlt hgt
  exact absurd hlt (lt_asymm hgt)

theorem insertAll_perm {rows table : Table α}
    (hdistinct : ((table ++ rows).map Prod.fst).Nodup) :
    (insertAll table rows).Perm (table ++ rows) := by
  induction rows generalizing table with
  | nil => simp [insertAll]
  | cons row rest ih =>
      obtain ⟨key, value⟩ := row
      have hswapped : (table ++ (key, value) :: rest).Perm ((key, value) :: table ++ rest) :=
        List.perm_middle
      have hfresh := (hswapped.map Prod.fst).nodup_iff.mp hdistinct
      have hmoved : (insert key value table ++ rest).Perm ((key, value) :: table ++ rest) := by
        refine (insert_perm value ?_).append_right rest
        simp only [List.cons_append, List.map_cons, List.nodup_cons, List.map_append,
          List.mem_append, not_or] at hfresh
        exact hfresh.1.1
      refine (ih ?_).trans (hmoved.trans hswapped.symm)
      exact ((hmoved.map Prod.fst).nodup_iff).mpr hfresh

theorem pairwise_insertAll {rows table : Table α}
    (h : (table.map Prod.fst).Pairwise (· < ·)) :
    ((insertAll table rows).map Prod.fst).Pairwise (· < ·) := by
  induction rows generalizing table with
  | nil => exact h
  | cons row rest ih => exact ih (pairwise_insert h)

/-- A table is made of its rows, in whichever order they come. -/
theorem insertAll_eq_of_perm {rows table : Table α}
    (hascending : (table.map Prod.fst).Pairwise (· < ·)) (hperm : rows.Perm table) :
    insertAll [] rows = table := by
  have hdistinct : (rows.map Prod.fst).Nodup :=
    ((hperm.map Prod.fst).nodup_iff).mpr (hascending.imp ne_of_lt)
  exact eq_of_perm_of_ascending (pairwise_insertAll .nil) hascending
    ((insertAll_perm (by simpa using hdistinct)).trans (by simpa using hperm))

end Table

namespace Json

variable {α β : Type}

/-- The object of a table. -/
def table (encode : α → Json) (rows : Table α) : Json :=
  .object (rows.map fun row => (Text.decimal row.1, encode row.2))

theorem nodup_keys_table (encode : α → Json) {rows : Table α}
    (hascending : (rows.map Prod.fst).Pairwise (· < ·)) :
    ((rows.map fun row => (Text.decimal row.1, encode row.2)).map Prod.fst).Nodup := by
  rw [List.map_map, List.nodup_iff_pairwise_ne, List.pairwise_map]
  refine (List.pairwise_map.mp hascending).imp_of_mem ?_
  intro first second hfirst hsecond hlt hsame
  exact ne_of_lt hlt (Text.decimal_inj hsame)

theorem lookup_tableMember? (key name : String) (encode : α → Json) (rows : Table α) :
    (tableMember? key encode rows).lookup name =
      if name = key ∧ rows ≠ [] then some (table encode rows) else none := by
  cases rows with
  | nil => simp [tableMember?]
  | cons first rest =>
      by_cases hsame : name = key <;>
        simp [tableMember?, List.lookup_cons, hsame, beq_eq_decide, table]

theorem keys_tableMember? (key : String) (encode : α → Json) (rows : Table α) :
    ((tableMember? key encode rows).map Prod.fst).Sublist [key] := by
  cases rows <;> simp [tableMember?]

namespace Decoder

/-- The row that a member is read as. -/
structure ReadsRow (decode : Decoder β) (member : String × Json) (row : State × β) : Prop where
  key : stateOfKey member.1 = .ok row.1
  value : decode .value member.2.toDoc = .ok row.2

theorem tableEntries_eq {decode : Decoder β} {members : List (String × Json)}
    {rows : List (State × β)} (h : List.Forall₂ (ReadsRow decode) members rows)
    (table : Table β) :
    tableEntries decode .value (toEntries members) table = .ok (table.insertAll rows) := by
  induction h generalizing table with
  | nil => rfl
  | cons hrow _ ih =>
      simp only [toEntries, tableEntries, bind, Except.bind, hrow.key, hrow.value]
      exact ih _

/-- A written table is read row by row. -/
theorem table_ofJson {decode : Decoder β} {encode : α → Json} {f : α → β} {rows : Table α}
    (hfits : ∀ row ∈ rows, State.Fits row.1)
    (hascending : (rows.map Prod.fst).Pairwise (· < ·))
    (hreads : ∀ row ∈ rows, decode.ofJson (encode row.2) = .ok (f row.2)) :
    (Decoder.table decode).ofJson (Json.table encode rows) =
      .ok (rows.map (Prod.map id f)) := by
  let members := rows.map fun row => (Text.decimal row.1, encode row.2)
  have hplaced : (sortedMembers members []).Perm
      (rows.map fun row => (Text.decimal row.1, (encode row.2).sorted)) := by
    simpa [members, Function.comp_def] using
      sortedMembers_perm [] (nodup_keys_table _ hascending)
  have hrows : List.Forall₂ (ReadsRow decode)
      (rows.map fun row => (Text.decimal row.1, (encode row.2).sorted))
      (rows.map (Prod.map id f)) := by
    rw [List.forall₂_map_left_iff, List.forall₂_map_right_iff]
    exact List.forall₂_same.mpr fun row h => ⟨stateOfKey_decimal (hfits row h), hreads row h⟩
  -- The members come in the order of their texts, and so do the rows that they are read as.
  obtain ⟨moved, hmoved, hperm⟩ := List.perm_comp_forall₂ hplaced hrows
  show tableEntries decode .value (toEntries (sortedMembers members [])) [] = _
  rw [tableEntries_eq hmoved, Table.insertAll_eq_of_perm ?_ hperm]
  rw [List.map_map]
  exact hascending

end Decoder

end Json

end Conversation

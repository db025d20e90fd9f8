import TransferRelay.Amount
import TransferRelay.Proofs.Text.Digits

/-!
# Numerals of amounts

`Denotes cs n` says what the numerals of clients mean, apart from how they are read: behind the mark
of a radix stand digits of it, underscores among them count for nothing, and the number is that of
the digits by their positions. A numeral without any digit is zero.

Numerals are read exactly as far as 256 bits hold them (`numeral?_eq_some_iff`): no number is ever
cut off or wrapped.
-/

namespace TransferRelay.Amount

/-! ## What numerals mean -/

/-- The marks of a numeral and the radix that each selects; no mark selects ten. -/
def marks : List (List Char × Nat) :=
  [([], 10), (['0', 'x'], 16), (['0', 'X'], 16), (['0', 'o'], 8), (['0', 'O'], 8), (['0', 'b'], 2),
    (['0', 'B'], 2)]

/-- The characters are digits of a radix with these values, and underscores. -/
def Separated (radix : Nat) (cs : List Char) (ds : List Nat) : Prop :=
  Text.Digits radix (cs.filter (· ≠ '_')) ds

/-- A numeral denotes a number. -/
inductive Denotes (cs : List Char) (n : Nat) : Prop
  | mk {mark digits : List Char} {radix : Nat} {ds : List Nat} (text : cs = mark ++ digits)
      (marked : (mark, radix) ∈ marks) (spelled : Separated radix digits ds)
      (value : n = Text.ofDigits radix ds)

/-! ## Digits and underscores -/

variable {radix : Nat} {cs : List Char} {ds : List Nat}

theorem Separated.isDigitOf (h : Separated radix cs ds) {c : Char} (hc : c ∈ cs) :
    c = '_' ∨ Text.isDigitOf radix c = true := by
  by_cases hsep : c = '_'
  · exact .inl hsep
  · exact .inr (Text.Digits.isDigitOf h c (List.mem_filter.mpr ⟨hc, by simpa using hsep⟩))

/-- An underscore is no digit. -/
theorem separator_not_mem (h : Text.Digits radix cs ds) : '_' ∉ cs := by
  intro hmem
  have hnone : Text.digitValue? '_' = none := by decide
  simpa [Text.isDigitOf, Text.digitOf?, hnone] using h.isDigitOf '_' hmem

/-- Without an underscore all are digits. -/
theorem separated_iff_digits (plain : '_' ∉ cs) :
    Separated radix cs ds ↔ Text.Digits radix cs ds := by
  have hfilter : cs.filter (· ≠ '_') = cs :=
    List.filter_eq_self.mpr fun c hc => decide_eq_true (ne_of_mem_of_not_mem hc plain)
  rw [Separated, hfilter]

theorem separated_of_digits (h : Text.Digits radix cs ds) : Separated radix cs ds :=
  (separated_iff_digits (separator_not_mem h)).mpr h

theorem separated_cons {c : Char} (h : c ≠ '_') :
    Separated radix (c :: cs) ds ↔
      ∃ d rest, ds = d :: rest ∧ Text.digitOf? radix c = some d ∧ Separated radix cs rest := by
  have hfilter : (c :: cs).filter (· ≠ '_') = c :: cs.filter (· ≠ '_') :=
    List.filter_cons_of_pos (decide_eq_true h)
  rw [Separated, hfilter, Text.Digits, List.forall₂_cons_left_iff]
  constructor
  · rintro ⟨d, rest, hd, hrest, rfl⟩
    exact ⟨d, rest, rfl, hd, hrest⟩
  · rintro ⟨d, rest, rfl, hd, hrest⟩
    exact ⟨d, rest, hd, hrest, rfl⟩

/-- What is read behind digits of value `high` is the number that all the digits denote, if 256
bits hold it. -/
theorem readDigits_eq_some_iff (pos : 0 < radix) {high n : Nat} (fits : high < Nat.pow 2 256) :
    readDigits radix high cs = some n ↔
      ∃ ds, Separated radix cs ds ∧ Text.behind radix high ds = n ∧ n < Nat.pow 2 256 := by
  induction cs generalizing high with
  | nil =>
    constructor
    · intro h
      cases h
      exact ⟨[], .nil, rfl, fits⟩
    · rintro ⟨ds, hds, rfl, -⟩
      cases hds
      rfl
  | cons c cs ih =>
    by_cases hsep : c = '_'
    · subst hsep
      exact ih fits
    · simp only [readDigits, if_neg hsep, separated_cons hsep]
      cases hd : Text.digitOf? radix c with
      | none =>
        refine ⟨nofun, ?_⟩
        rintro ⟨_, ⟨d, _, -, ⟨⟩, -⟩, -⟩
      | some d =>
        by_cases hfits : high * radix + d < Nat.pow 2 256
        · simp only [if_pos hfits, ih hfits]
          constructor
          · rintro ⟨ds, hds, hn⟩
            exact ⟨d :: ds, ⟨d, ds, rfl, rfl, hds⟩, hn⟩
          · rintro ⟨_, ⟨d', ds, rfl, hd', hds⟩, hn⟩
            cases hd'
            exact ⟨ds, hds, hn⟩
        · simp only [if_neg hfits, reduceCtorEq, false_iff]
          rintro ⟨_, ⟨d', ds, rfl, hd', hds⟩, rfl, hn⟩
          cases hd'
          -- what is read so far is no more than the whole
          exact hfits (Nat.lt_of_le_of_lt (Text.le_behind pos _ ds) hn)

/-! ## Marks -/

theorem splitRadix_append {mark : List Char} (marked : (mark, radix) ∈ marks)
    (h : Separated radix cs ds) : splitRadix (mark ++ cs) = (radix, cs) := by
  simp only [marks, List.mem_cons, Prod.mk.injEq, List.not_mem_nil, or_false] at marked
  rcases marked with ⟨rfl, rfl⟩ | ⟨rfl, rfl⟩ | ⟨rfl, rfl⟩ | ⟨rfl, rfl⟩ | ⟨rfl, rfl⟩ | ⟨rfl, rfl⟩ |
    ⟨rfl, rfl⟩
  · -- no letter of a mark is a decimal digit
    have hletter : ∀ {c : Char} {rest : List Char}, cs = '0' :: c :: rest →
        c = '_' ∨ Text.isDigitOf 10 c = true := by
      rintro c rest rfl
      exact h.isDigitOf (List.mem_cons_of_mem _ List.mem_cons_self)
    rw [List.nil_append]
    unfold splitRadix
    split <;> first | rfl | exact absurd (hletter rfl) (by decide)
  all_goals rfl

theorem exists_mark (cs : List Char) :
    ∃ mark, (mark, (splitRadix cs).1) ∈ marks ∧ cs = mark ++ (splitRadix cs).2 := by
  unfold splitRadix
  split
  · exact ⟨['0', 'x'], by simp [marks], rfl⟩
  · exact ⟨['0', 'X'], by simp [marks], rfl⟩
  · exact ⟨['0', 'o'], by simp [marks], rfl⟩
  · exact ⟨['0', 'O'], by simp [marks], rfl⟩
  · exact ⟨['0', 'b'], by simp [marks], rfl⟩
  · exact ⟨['0', 'B'], by simp [marks], rfl⟩
  · exact ⟨[], by simp [marks], rfl⟩

theorem radix_pos {mark : List Char} (marked : (mark, radix) ∈ marks) : 0 < radix := by
  have hall : ∀ m ∈ marks, 0 < m.2 := by decide
  exact hall _ marked

/-- There is one way to look at a numeral. -/
theorem denotes_iff {n : Nat} :
    Denotes cs n ↔ ∃ ds, Separated (splitRadix cs).1 (splitRadix cs).2 ds ∧
      n = Text.ofDigits (splitRadix cs).1 ds := by
  constructor
  · rintro ⟨rfl, marked, spelled, value⟩
    rw [splitRadix_append marked spelled]
    exact ⟨_, spelled, value⟩
  · rintro ⟨ds, spelled, value⟩
    obtain ⟨mark, marked, text⟩ := exists_mark cs
    exact ⟨text, marked, spelled, value⟩

/-- A numeral denotes one number at most. -/
theorem Denotes.unique {n m : Nat} (h : Denotes cs n) (h' : Denotes cs m) : n = m := by
  obtain ⟨ds, hds, rfl⟩ := denotes_iff.mp h
  obtain ⟨ds', hds', rfl⟩ := denotes_iff.mp h'
  rw [← Text.Digits.filterMap hds, Text.Digits.filterMap hds']

/-! ## Reading -/

/-- A numeral is read as what it denotes, if 256 bits hold it, and not at all otherwise. -/
theorem numeral?_eq_some_iff {n : Nat} :
    numeral? cs = some n ↔ Denotes cs n ∧ n < Nat.pow 2 256 := by
  obtain ⟨mark, marked, -⟩ := exists_mark cs
  have hread : numeral? cs = readDigits (splitRadix cs).1 0 (splitRadix cs).2 := rfl
  rw [hread, readDigits_eq_some_iff (radix_pos marked) (Nat.pow_pos Nat.two_pos), denotes_iff]
  constructor
  · rintro ⟨ds, hds, rfl, hn⟩
    exact ⟨⟨ds, hds, rfl⟩, hn⟩
  · rintro ⟨⟨ds, hds, rfl⟩, hn⟩
    exact ⟨ds, hds, rfl, hn⟩

/-- A text is read as the amount that it denotes inside its blanks. -/
theorem ofText?_eq_some_iff {s : String} {a : Amount} :
    ofText? s = some a ↔ Denotes (Text.trimChars s.toList) a.val := by
  rw [ofText?, Option.bind_eq_some_iff]
  constructor
  · rintro ⟨n, hn, ha⟩
    rw [ofNat?_eq_some_iff.mp ha]
    exact (numeral?_eq_some_iff.mp hn).1
  · intro h
    exact ⟨a.val, numeral?_eq_some_iff.mpr ⟨h, a.val_lt⟩, ofNat?_eq_some_iff.mpr rfl⟩

/-- The decimal digits of an amount are read as that amount. -/
theorem ofDecimal?_text (a : Amount) : ofDecimal? a.text = some a := by
  have hchars : a.text.toList = Nat.toDigits 10 a.val := Nat.toList_repr
  obtain ⟨ds, hds, hvalue⟩ := Text.digits_toDigits a.val
  have hread : readDigits 10 0 (Nat.toDigits 10 a.val) = some a.val :=
    (readDigits_eq_some_iff (by decide) (Nat.pow_pos Nat.two_pos)).mpr
      ⟨ds, separated_of_digits hds, hvalue, a.val_lt⟩
  have hsome : (Nat.toDigits 10 a.val).isEmpty = false := by
    rw [List.isEmpty_eq_false_iff]
    exact Nat.toDigits_ne_nil
  rw [ofDecimal?, hchars, List.all_eq_true.mpr hds.isDigitOf, hsome, hread]
  exact ofNat?_eq_some_iff.mpr rfl

/-! ## Documented forms -/

/-- A numeral is in a documented form: decimal digits, or hexadecimal digits behind the mark `0x`,
one at least. -/
inductive Documented (cs : List Char) (n : Nat) : Prop
  | decimal {ds : List Nat} (digits : Text.Digits 10 cs ds) (nonempty : cs ≠ [])
      (value : n = Text.ofDigits 10 ds)
  | hex {digits : List Char} {ds : List Nat} (text : cs = ['0', 'x'] ++ digits)
      (spelled : Text.Digits 16 digits ds) (nonempty : digits ≠ [])
      (value : n = Text.ofDigits 16 ds)

/-- What a numeral has that is in no documented form: no digit, an underscore, or another mark. -/
inductive Undocumented (cs : List Char) : Prop
  | empty {radix : Nat} (bare : (cs, radix) ∈ marks)
  | separator (used : '_' ∈ cs)
  | mark {mark digits : List Char} {radix : Nat} (text : cs = mark ++ digits)
      (marked : (mark, radix) ∈ marks) (other : mark ≠ [] ∧ mark ≠ ['0', 'x'])

theorem Documented.denotes {n : Nat} (h : Documented cs n) : Denotes cs n := by
  cases h with
  | decimal digits nonempty value =>
    exact ⟨(List.nil_append cs).symm, by decide, separated_of_digits digits, value⟩
  | hex text spelled nonempty value => exact ⟨text, by decide, separated_of_digits spelled, value⟩

theorem eq_of_mark {mark : List Char} (marked : (mark, radix) ∈ marks) (nonempty : mark ≠ []) :
    ∃ c, mark = ['0', c] ∧ Text.isDigitOf 10 c = false := by
  simp only [marks, List.mem_cons, Prod.mk.injEq, List.not_mem_nil, or_false] at marked
  rcases marked with ⟨rfl, -⟩ | ⟨rfl, -⟩ | ⟨rfl, -⟩ | ⟨rfl, -⟩ | ⟨rfl, -⟩ | ⟨rfl, -⟩ | ⟨rfl, -⟩
  · exact absurd rfl nonempty
  all_goals exact ⟨_, rfl, by decide⟩

theorem Documented.not_undocumented {n : Nat} (h : Documented cs n) : ¬Undocumented cs := by
  cases h with
  | decimal digits nonempty value =>
    have hletter : ∀ {c : Char} {rest : List Char}, cs = '0' :: c :: rest →
        Text.isDigitOf 10 c = true := by
      rintro c rest rfl
      exact digits.isDigitOf c (List.mem_cons_of_mem _ List.mem_cons_self)
    rintro (bare | used | ⟨text, marked, other, -⟩)
    · obtain ⟨c, hc, hnot⟩ := eq_of_mark bare nonempty
      exact absurd (hletter hc) (Bool.eq_false_iff.mp hnot)
    · exact separator_not_mem digits used
    · obtain ⟨c, rfl, hnot⟩ := eq_of_mark marked other
      exact absurd (hletter text) (Bool.eq_false_iff.mp hnot)
  | hex text spelled nonempty value =>
    subst text
    rintro (bare | used | ⟨text, marked, other, other'⟩)
    · obtain ⟨c, hc, -⟩ := eq_of_mark bare (List.cons_ne_nil _ _)
      exact nonempty (List.cons.inj (List.cons.inj hc).2).2
    · rcases List.mem_append.mp used with used | used
      · exact absurd used (by decide)
      · exact separator_not_mem spelled used
    · obtain ⟨c, rfl, -⟩ := eq_of_mark marked other
      have hc : 'x' = c := (List.cons.inj (List.cons.inj text).2).1
      exact other' (hc ▸ rfl)

/-- A numeral that denotes a number is in a documented form unless it has what none of them has. -/
theorem Denotes.documented_iff {n : Nat} (h : Denotes cs n) :
    Documented cs n ↔ ¬Undocumented cs := by
  refine ⟨Documented.not_undocumented, fun hnot => ?_⟩
  obtain @⟨mark, digits, radix, ds, rfl, marked, spelled, value⟩ := h
  have hmark : mark = [] ∨ mark = ['0', 'x'] := by
    by_contra hother
    exact hnot (.mark rfl marked (not_or.mp hother))
  have hplain : '_' ∉ digits := fun hmem => hnot (.separator (List.mem_append_right _ hmem))
  have hsome : digits ≠ [] := by
    rintro rfl
    exact hnot (.empty (by rw [List.append_nil]; exact marked))
  have hdigits := (separated_iff_digits hplain).mp spelled
  rcases hmark with rfl | rfl
  · obtain rfl : radix = 10 := by simpa [marks] using marked
    exact .decimal hdigits hsome value
  · obtain rfl : radix = 16 := by simpa [marks] using marked
    exact .hex rfl hdigits hsome value

end TransferRelay.Amount

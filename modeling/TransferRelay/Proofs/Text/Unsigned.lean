import TransferRelay.Proofs.Text.Digits
import TransferRelay.Proofs.Transfer.Spelling
import TransferRelay.Text.Unsigned

/-!
# What unsigned numerals denote

`IsUnsigned cs n` says that the characters are decimal digits, one or more of them, after a plus
sign or none, and that they denote the number `n`. Reading a number below a limit takes exactly
these, if the number is below it (`readUnsigned_eq_ok_iff`). The limit is kept at every digit, and
no digit makes a number less, so none is refused for what stands in the middle of it.
-/

namespace TransferRelay.Text

/-- The characters are digits after a plus sign or none, and denote the number. -/
inductive IsUnsigned (cs : List Char) (n : Nat) : Prop
  | mk (sign digits : List Char) (ds : List Nat) (text : cs = sign ++ digits)
      (signed : sign = [] ∨ sign = ['+']) (some : digits ≠ []) (values : Digits 10 digits ds)
      (number : ofDigits 10 ds = n)

variable {limit high n : Nat} {cs : List Char}

/-- Digits are read behind others if they are digits and the number stays below the limit. -/
theorem readUnsignedDigits_eq_ok_iff (fits : high < limit) :
    readUnsignedDigits limit high cs = .ok n ↔
      ∃ ds, Digits 10 cs ds ∧ behind 10 high ds = n ∧ n < limit := by
  induction cs generalizing high with
  | nil =>
    constructor
    · intro h
      cases h
      exact ⟨[], .nil, rfl, fits⟩
    · rintro ⟨ds, hds, rfl, -⟩
      cases hds
      rfl
  | cons c cs ih =>
    rw [readUnsignedDigits]
    cases hc : digitOf? 10 c with
    | none =>
      refine ⟨nofun, ?_⟩
      rintro ⟨ds, hds, -⟩
      cases hds with
      | cons value _ => cases hc.symm.trans value
    | some d =>
      dsimp only
      by_cases hfits : high * 10 + d < limit
      · rw [if_pos hfits, ih hfits]
        constructor
        · rintro ⟨ds, hds, hvalue, hlt⟩
          exact ⟨d :: ds, .cons hc hds, hvalue, hlt⟩
        · rintro ⟨ds, hds, hvalue, hlt⟩
          cases hds with
          | cons value hds =>
            obtain rfl := Option.some.inj (hc.symm.trans value)
            exact ⟨_, hds, hvalue, hlt⟩
      · rw [if_neg hfits]
        refine ⟨nofun, ?_⟩
        rintro ⟨ds, hds, rfl, hlt⟩
        cases hds with
        | @cons _ d' _ ds value hds =>
          obtain rfl := Option.some.inj (hc.symm.trans value)
          have hle : high * 10 + d ≤ behind 10 high (d :: ds) := le_behind (by decide) _ ds
          exact absurd (Nat.lt_of_le_of_lt hle hlt) hfits

/-- Characters without a plus sign are a numeral if they are digits. -/
theorem isUnsigned_iff_of_unsigned (unsigned : ∀ cs', cs ≠ '+' :: cs') :
    IsUnsigned cs n ↔ cs ≠ [] ∧ ∃ ds, Digits 10 cs ds ∧ ofDigits 10 ds = n := by
  constructor
  · rintro ⟨sign, digits, ds, rfl, rfl | rfl, some, values, number⟩
    · exact ⟨some, ds, values, number⟩
    · exact absurd rfl (unsigned digits)
  · rintro ⟨some, ds, values, number⟩
    exact ⟨[], cs, ds, rfl, .inl rfl, some, values, number⟩

/-- A plus sign is no digit, so what is behind it has to be one or more. -/
theorem isUnsigned_plus_iff :
    IsUnsigned ('+' :: cs) n ↔ cs ≠ [] ∧ ∃ ds, Digits 10 cs ds ∧ ofDigits 10 ds = n := by
  constructor
  · rintro ⟨sign, digits, ds, text, rfl | rfl, some, values, number⟩
    · cases text
      cases values with
      | cons value _ => cases value
    · cases text
      exact ⟨some, ds, values, number⟩
  · rintro ⟨some, ds, values, number⟩
    exact ⟨['+'], cs, ds, rfl, .inr rfl, some, values, number⟩

/-- No character of a numeral is blank. -/
theorem isBlank_of_isUnsigned (h : IsUnsigned cs n) : ∀ c ∈ cs, isBlank c = false := by
  obtain ⟨sign, digits, ds, rfl, signed, -, values, -⟩ := h
  have hdigits : ∀ c ∈ digits, isBlank c = false := by
    intro c hc
    obtain ⟨d, value⟩ := Option.isSome_iff_exists.mp (values.isDigitOf c hc)
    exact isBlank_of_digitOf? (digitOf?_of_le value (by decide))
  rcases signed with rfl | rfl
  · exact hdigits
  · exact List.forall_mem_cons.mpr ⟨by decide, hdigits⟩

/-- What is read is what is denoted, if it is below the limit. -/
theorem readUnsigned_eq_ok_iff (pos : 0 < limit) :
    readUnsigned limit cs = .ok n ↔ IsUnsigned cs n ∧ n < limit := by
  have hdigits : ∀ cs : List Char, cs ≠ [] → (readUnsignedDigits limit 0 cs = .ok n ↔
      (cs ≠ [] ∧ ∃ ds, Digits 10 cs ds ∧ ofDigits 10 ds = n) ∧ n < limit) := by
    intro cs some
    rw [readUnsignedDigits_eq_ok_iff pos]
    constructor
    · rintro ⟨ds, values, number, below⟩
      exact ⟨⟨some, ds, values, number⟩, below⟩
    · rintro ⟨⟨-, ds, values, number⟩, below⟩
      exact ⟨ds, values, number, below⟩
  unfold readUnsigned
  split
  · rw [isUnsigned_iff_of_unsigned (by simp)]
    exact ⟨nofun, fun h => absurd rfl h.1.1⟩
  · rw [isUnsigned_plus_iff]
    exact ⟨nofun, fun h => absurd rfl h.1.1⟩
  · next cs other =>
    rw [isUnsigned_plus_iff]
    exact hdigits cs other
  · next some _ unsigned =>
    rw [isUnsigned_iff_of_unsigned unsigned]
    exact hdigits cs some

end TransferRelay.Text

import TransferRelay.Proofs.Hex.Spelling
import Mathlib.Data.List.Forall2

/-!
# Digits and their values

`Digits radix cs ds` says that the characters `cs` are digits of a radix with the values `ds`. Their
number is positional: `ofDigits radix ds`. The decimal digits that are written for a number have
that number again (`digits_toDigits`).
-/

namespace TransferRelay.Text

/-- The characters are digits of a radix with these values. -/
abbrev Digits (radix : Nat) : List Char → List Nat → Prop :=
  List.Forall₂ fun c d => digitOf? radix c = some d

variable {radix : Nat} {cs : List Char} {ds : List Nat}

theorem Digits.filterMap (h : Digits radix cs ds) : cs.filterMap (digitOf? radix) = ds := by
  induction h with
  | nil => rfl
  | cons value _ ih => rw [List.filterMap_cons_some value, ih]

theorem Digits.isDigitOf (h : Digits radix cs ds) : ∀ c ∈ cs, isDigitOf radix c = true := by
  induction h with
  | nil => exact nofun
  | cons value _ ih =>
    exact List.forall_mem_cons.mpr ⟨by rw [Text.isDigitOf, value]; rfl, ih⟩

/-- A digit of a radix is the same digit of a greater one. -/
theorem digitOf?_of_le {radix' d : Nat} {c : Char} (value : digitOf? radix c = some d)
    (le : radix ≤ radix') : digitOf? radix' c = some d := by
  simp only [digitOf?, Option.filter_eq_some_iff, decide_eq_true_eq] at value ⊢
  exact ⟨value.1, Nat.lt_of_lt_of_le value.2 le⟩

/-! ## Numbers -/

/-- The number that digits denote behind digits of value `high`. -/
def behind (radix high : Nat) (ds : List Nat) : Nat :=
  ds.foldl (fun n d => n * radix + d) high

theorem behind_cons (high d : Nat) (ds : List Nat) :
    behind radix high (d :: ds) = behind radix (high * radix + d) ds := rfl

/-- Digits denote no less than those of them that come first. -/
theorem le_behind (pos : 0 < radix) (high : Nat) (ds : List Nat) : high ≤ behind radix high ds := by
  induction ds generalizing high with
  | nil => exact Nat.le_refl high
  | cons d ds ih =>
    calc high ≤ high * radix := Nat.le_mul_of_pos_right high pos
      _ ≤ high * radix + d := Nat.le_add_right _ d
      _ ≤ behind radix high (d :: ds) := ih _

/-! ## Decimal digits -/

/-- A decimal digit has its number as its value. -/
theorem digitOf?_of_isDigit {c : Char} (h : c.isDigit = true) :
    digitOf? 10 c = some (c.toNat - '0'.toNat) := by
  have hnine : c.toNat ≤ '9'.toNat := (Char.isDigit_iff_toNat.mp h).2
  exact Hex.forall_ascii (P := fun c => c.isDigit = true →
    digitOf? 10 c = some (c.toNat - '0'.toNat))
    (by decide +kernel) (Nat.lt_of_le_of_lt hnine (by decide)) h

theorem digits_of_isDigit (h : ∀ c ∈ cs, c.isDigit = true) (high : Nat) :
    ∃ ds, Digits 10 cs ds ∧ behind 10 high ds = Nat.ofDigitChars 10 cs high := by
  induction cs generalizing high with
  | nil => exact ⟨[], .nil, rfl⟩
  | cons c cs ih =>
    obtain ⟨hc, hcs⟩ := List.forall_mem_cons.mp h
    obtain ⟨ds, hds, hvalue⟩ := ih hcs (high * 10 + (c.toNat - '0'.toNat))
    refine ⟨_ :: ds, .cons (digitOf?_of_isDigit hc) hds, ?_⟩
    rw [behind_cons, hvalue, Nat.ofDigitChars_cons, Nat.mul_comm 10]

/-- The decimal digits of a number denote it. -/
theorem digits_toDigits (n : Nat) :
    ∃ ds, Digits 10 (Nat.toDigits 10 n) ds ∧ ofDigits 10 ds = n := by
  have hdigits : ∀ c ∈ Nat.toDigits 10 n, c.isDigit = true :=
    fun c hc => Nat.isDigit_of_mem_toDigits (by decide) (by decide) hc
  obtain ⟨ds, hds, hvalue⟩ := digits_of_isDigit hdigits 0
  exact ⟨ds, hds, hvalue.trans Nat.ofDigitChars_ten_toDigits⟩

end TransferRelay.Text

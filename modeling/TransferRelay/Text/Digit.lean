/-!
# Digits

The digits `0` to `9` and the letters after them in either case, for any radix up to 36.
-/

namespace TransferRelay.Text

/-- The lowercase digit of a number below sixteen. -/
def digitChar (n : Nat) : Char :=
  if n < 10 then Char.ofNat (48 + n) else Char.ofNat (87 + n)

/-- The value of a digit in any radix. -/
def digitValue? (c : Char) : Option Nat :=
  let n := c.toNat
  if 48 ≤ n && n ≤ 57 then some (n - 48)
  else if 97 ≤ n && n ≤ 122 then some (n - 87)
  else if 65 ≤ n && n ≤ 90 then some (n - 55)
  else none

/-- The value of a digit of a radix. -/
def digitOf? (radix : Nat) (c : Char) : Option Nat :=
  (digitValue? c).filter (· < radix)

/-- Whether a character is a digit of a radix. -/
def isDigitOf (radix : Nat) (c : Char) : Bool :=
  (digitOf? radix c).isSome

/-- The number that digits of a radix denote, the most significant first. -/
def ofDigits (radix : Nat) (ds : List Nat) : Nat :=
  ds.foldl (fun n d => n * radix + d) 0

theorem digitOf?_lt {radix : Nat} {c : Char} {d : Nat} (h : digitOf? radix c = some d) :
    d < radix := by
  simp only [digitOf?, Option.filter_eq_some_iff, decide_eq_true_eq] at h
  exact h.2

end TransferRelay.Text

import TransferRelay.Text.Blank

/-!
# Big-endian numbers

Numbers as byte strings of a fixed width, most significant byte first. `toNat_ofNat` and
`ofNat_toNat` say that the two directions undo each other within the width.
-/

namespace TransferRelay.BigEndian

/-- The number that a byte string denotes. -/
def toNat (bs : Bytes) : Nat :=
  bs.foldl (fun n b => n * 256 + b.toNat) 0

/-- The low `width` bytes of a number. -/
def ofNat : (width : Nat) → (n : Nat) → Bytes
  | 0, _ => []
  | width + 1, n => ofNat width (n / 256) ++ [UInt8.ofNat n]

@[simp]
theorem length_ofNat (width n : Nat) : (ofNat width n).length = width := by
  induction width generalizing n with
  | zero => rfl
  | succ width ih => simp [ofNat, ih]

theorem toNat_append_singleton (bs : Bytes) (b : UInt8) :
    toNat (bs ++ [b]) = toNat bs * 256 + b.toNat := by
  simp [toNat]

/-- A number that fits the width is read back. -/
theorem toNat_ofNat {width n : Nat} (h : n < Nat.pow 256 width) : toNat (ofNat width n) = n := by
  induction width generalizing n with
  | zero => simp at h; simp [ofNat, toNat, h]
  | succ width ih =>
    have hdiv : n / 256 < Nat.pow 256 width := by
      rw [Nat.div_lt_iff_lt_mul (by decide)]
      exact h
    rw [ofNat, toNat_append_singleton, ih hdiv, UInt8.toNat_ofNat']
    exact Nat.div_add_mod' n 256

/-- A byte string is the number it denotes, written at its own width. -/
theorem ofNat_toNat (bs : Bytes) : ofNat bs.length (toNat bs) = bs := by
  suffices h : ∀ rev : Bytes, ofNat rev.length (toNat rev.reverse) = rev.reverse by
    simpa using h bs.reverse
  intro rev
  induction rev with
  | nil => rfl
  | cons b rev ih =>
    have hb := b.toNat_lt
    rw [List.reverse_cons, toNat_append_singleton, List.length_cons, ofNat,
      show (toNat rev.reverse * 256 + b.toNat) / 256 = toNat rev.reverse by omega, ih]
    congr 2
    apply UInt8.toNat_inj.mp
    rw [UInt8.toNat_ofNat']
    omega

end TransferRelay.BigEndian

import TransferRelay.Abi.Buffer
import TransferRelay.Abi.Layout

/-!
# Reading what has been written

Contract data is read at positions, and what has been written stands at positions. `Stands raw p bs`
says that the bytes `bs` stand in `raw` from position `p` on. It is split along `++`, so that the
layout of a writer becomes facts about positions, and each read of `Abi.Buffer` has one lemma that
turns such a fact into its answer:

- `wordAt_eq`, `offsetAt_eq`: a word, and a number below 2^64 as an offset.
- `targetAt_eq`: an offset that stays within the data.
- `regionAt_eq`, `bytesAt_eq`: a byte string behind its length.

The other way round, `length_of_wordAt` says that what is read as a word has 32 bytes.
-/

namespace TransferRelay

namespace BigEndian

theorem ofNat_zero (width : Nat) : ofNat width 0 = List.replicate width 0 := by
  induction width with
  | zero => rfl
  | succ width ih =>
    rw [ofNat, Nat.zero_div, ih, List.replicate_succ']
    rfl

/-- A number that fits the low bytes has zeros in front of them. -/
theorem ofNat_add (high low : Nat) {n : Nat} (h : n < Nat.pow 256 low) :
    ofNat (high + low) n = List.replicate high 0 ++ ofNat low n := by
  induction low generalizing n with
  | zero =>
    have hn : n = 0 := Nat.lt_one_iff.mp h
    rw [hn, Nat.add_zero, ofNat_zero, ofNat, List.append_nil]
  | succ low ih =>
    have hdiv : n / 256 < Nat.pow 256 low := by
      rw [Nat.div_lt_iff_lt_mul (by decide)]
      exact h
    rw [← Nat.add_assoc, ofNat, ih hdiv, ofNat, List.append_assoc]

end BigEndian

namespace Abi

/-- The bytes `bs` stand in `raw` from position `p` on. -/
def Stands (raw : Bytes) (p : Nat) (bs : Bytes) : Prop :=
  ∃ before after, raw = before ++ bs ++ after ∧ before.length = p

namespace Stands

variable {raw bs as : Bytes} {p : Nat}

/-- What bytes begin with stands at the start. -/
theorem of_prefix (h : bs <+: raw) : Stands raw 0 bs := by
  obtain ⟨after, rfl⟩ := h
  exact ⟨[], after, rfl, rfl⟩

/-- Everything stands at the start. -/
theorem self (raw : Bytes) : Stands raw 0 raw :=
  of_prefix (List.prefix_refl raw)

theorem length_le (h : Stands raw p bs) : p + bs.length ≤ raw.length := by
  obtain ⟨before, after, rfl, rfl⟩ := h
  simp only [List.length_append]
  omega

/-- The first of two parts. -/
theorem left (h : Stands raw p (as ++ bs)) : Stands raw p as := by
  obtain ⟨before, after, rfl, rfl⟩ := h
  exact ⟨before, bs ++ after, by simp only [List.append_assoc], rfl⟩

/-- The second of two parts. -/
theorem right (h : Stands raw p (as ++ bs)) : Stands raw (p + as.length) bs := by
  obtain ⟨before, after, rfl, rfl⟩ := h
  exact ⟨before ++ as, after, by simp only [List.append_assoc], by rw [List.length_append]⟩

theorem take_drop (h : Stands raw p bs) : (raw.drop p).take bs.length = bs := by
  obtain ⟨before, after, rfl, rfl⟩ := h
  rw [List.append_assoc, List.drop_left, List.take_left]

end Stands

/-! ## Reads of what stands at a position -/

namespace Buffer

variable {raw bs : Bytes} {base p n : Nat}

theorem slice_eq (h : Stands raw p bs) : slice raw.toArray p bs.length = .ok bs := by
  rw [slice_toArray, if_pos h.length_le, h.take_drop]

theorem bytes_eq (h : Stands raw p bs) : bytes raw.toArray ⟨p, bs.length⟩ = bs := by
  rw [bytes_toArray, h.take_drop]

theorem wordAt_eq (h : Stands raw p bs) (hlen : bs.length = 32) :
    wordAt raw.toArray p = .ok bs := by
  have hslice := slice_eq h
  rw [hlen] at hslice
  exact hslice

/-- A number below 2^64 is read as the offset that it is. -/
theorem offsetAt_eq (h : Stands raw p (word n)) (hn : n < 0x10000000000000000) :
    offsetAt raw.toArray p = .ok n := by
  -- the reader wants the 24 high bytes to be zeros, and takes the value of the whole word
  have hzeros : word n = List.replicate 24 0 ++ BigEndian.ofNat 8 n :=
    BigEndian.ofNat_add 24 8 hn
  have hfits : ((word n).take 24).all (· == 0) = true := by
    rw [hzeros, List.take_left' (by rw [List.length_replicate])]
    rfl
  have hval : BigEndian.toNat (word n) = n :=
    BigEndian.toNat_ofNat (Nat.lt_trans hn (by decide))
  rw [offsetAt, wordAt_eq h (length_word n)]
  simp only [hfits, if_true, hval]

theorem targetAt_eq (h : Stands raw p (word n)) (hn : n < 0x10000000000000000)
    (hle : base + n ≤ raw.length) : targetAt raw.toArray base p = .ok (base + n) := by
  rw [targetAt, offsetAt_eq h hn]
  simp only [List.size_toArray, hle, if_true]

/-- A byte string behind its length. -/
theorem regionAt_eq (h : Stands raw p (dynamicBytes bs)) (hbs : bs.length < 0x10000000000000000) :
    regionAt raw.toArray p = .ok ⟨p + 32, bs.length⟩ := by
  have hbytes : Stands raw (p + 32) bs := by
    have := h.right.left
    rwa [length_word] at this
  have hle := hbytes.length_le
  rw [regionAt, offsetAt_eq h.left hbs]
  simp only [region, List.size_toArray, hle, if_true]

theorem bytesAt_eq (h : Stands raw p (dynamicBytes bs)) (hbs : bs.length < 0x10000000000000000) :
    bytesAt raw.toArray p = .ok bs := by
  have hbytes : Stands raw (p + 32) bs := by
    have := h.right.left
    rwa [length_word] at this
  rw [bytesAt, regionAt_eq h hbs]
  exact congrArg Except.ok (bytes_eq hbytes)

theorem length_of_wordAt {w : Bytes} (h : wordAt raw.toArray p = .ok w) : w.length = 32 := by
  rw [wordAt, slice_toArray] at h
  split at h
  · cases h
    rw [List.length_take, List.length_drop]
    omega
  · cases h

end Buffer

end Abi

end TransferRelay

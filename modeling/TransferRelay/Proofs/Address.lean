import TransferRelay.Address
import TransferRelay.Proofs.Transfer.Spelling

/-!
# Addresses as they are written

A text of a fixed number of bytes has their digits in either case, behind a mark or none
(`readFixedHex_eq_ok_iff`). So an address is read back from its text (`Address.parse_text`), and
from its text with the checksum (`Address.parse_checksummed`), which changes the case of digits
only.
-/

namespace TransferRelay

/-! ## Texts of a fixed number of bytes -/

/-- What is read is spelled by the digits of a text, behind any mark. -/
theorem readFixedHex_eq_ok_iff {count : Nat} {s : String} {bs : Bytes} {h : bs.length = count} :
    readFixedHex count s = .ok ⟨bs, h⟩ ↔
      ∃ mark ∈ Hex.marks, ∃ digits, s.toList = mark ++ digits ∧ Hex.Spells digits bs := by
  have hiff : readFixedHex count s = .ok ⟨bs, h⟩ ↔ Hex.Spells (Hex.stripAnyMark s.toList) bs := by
    rw [← Hex.decode_eq_ok_iff_spells, Hex.decode, readFixedHex]
    cases Hex.decodeUtf8 (Text.utf8Chars (Hex.stripAnyMark s.toList)) with
    | error fault =>
      cases fault with
      | oddLength => simp only [reduceCtorEq]
      | invalidDigit byte position =>
        simp only [reduceCtorEq, iff_false]
        split <;> simp only [reduceCtorEq, not_false_eq_true]
    | ok read =>
      by_cases hread : read.length = count
      · simp [hread]
      · simp only [hread, dite_false, reduceCtorEq, Except.ok.injEq, false_iff]
        rintro rfl
        exact hread h
  rw [hiff]
  constructor
  · intro spelled
    obtain ⟨mark, hmark, htext⟩ := Hex.exists_mark s.toList
    exact ⟨mark, hmark, _, htext, spelled⟩
  · rintro ⟨mark, hmark, digits, htext, spelled⟩
    rw [htext, Hex.stripAnyMark_append hmark spelled]
    exact spelled

/-! ## Capitals -/

namespace Hex

/-- A letter in the other case is the same digit. -/
theorem digitOf?_toUpper {c : Char} {n : Nat} (h : Text.digitOf? 16 c = some n) :
    Text.digitOf? 16 c.toUpper = some n := by
  have hall : (Text.digitOf? 16 c).isSome = true →
      Text.digitOf? 16 c.toUpper = Text.digitOf? 16 c :=
    forall_ascii (P := fun c => (Text.digitOf? 16 c).isSome = true →
      Text.digitOf? 16 c.toUpper = Text.digitOf? 16 c) (by decide +kernel) (lt_of_digitOf? h)
  rw [hall (by rw [h]; rfl), h]

/-- Digits spell the same in capitals. -/
theorem spells_toUpper {digits : List Char} {bs : Bytes} (h : Spells digits bs) :
    Spells (digits.map Char.toUpper) bs := by
  induction h with
  | nil => exact .nil
  | cons first second rest ih => exact .cons (digitOf?_toUpper first) (digitOf?_toUpper second) ih

end Hex

/-! ## Checksums -/

namespace Keccak

theorem length_bytesOfLane (w : UInt64) : (bytesOfLane w).length = 8 := by
  rw [bytesOfLane, List.length_map, List.length_range]

/-- A hash has 32 bytes. -/
theorem length_hash (message : Bytes) : (hash message).length = 32 := by
  simp [hash, List.length_flatMap, length_bytesOfLane, List.map_const']

end Keccak

namespace Address

theorem length_nibbles (bs : Bytes) : (nibbles bs).length = 2 * bs.length := by
  induction bs with
  | nil => rfl
  | cons b bs ih =>
    show (nibbles bs).length + 2 = 2 * (bs.length + 1)
    omega

theorem digitOf?_checksumDigit {c : Char} {n : Nat} (h : Text.digitOf? 16 c = some n)
    (nibble : Nat) : Text.digitOf? 16 (checksumDigit c nibble) = some n := by
  unfold checksumDigit
  split
  · exact Hex.digitOf?_toUpper h
  · exact h

/-- A checksum changes the case of digits and not what they spell. -/
theorem spells_checksum {digits : List Char} {bs : Bytes} (h : Hex.Spells digits bs) :
    ∀ {hash : List Nat}, digits.length ≤ hash.length →
      Hex.Spells (digits.zipWith checksumDigit hash) bs := by
  induction h with
  | nil => exact fun _ => .nil
  | cons first second rest ih =>
    intro hash hlen
    match hash, hlen with
    | n₁ :: n₂ :: hash, hlen =>
      refine .cons (digitOf?_checksumDigit first n₁) (digitOf?_checksumDigit second n₂) (ih ?_)
      simpa using hlen

/-- An address is read from its digits behind any mark. -/
theorem parse_of_spells {s : String} {a : Address} {mark digits : List Char}
    (text : s.toList = mark ++ digits) (marked : mark ∈ Hex.marks)
    (spelled : Hex.Spells digits a.bytes) : parse s = .ok a := by
  have hread : readFixedHex 20 s = .ok ⟨a.bytes, a.length_bytes⟩ :=
    readFixedHex_eq_ok_iff.mpr ⟨mark, marked, digits, text, spelled⟩
  rw [parse, hread]

/-- Nothing else is read as an address. -/
theorem parse_eq_ok_iff {s : String} {a : Address} :
    parse s = .ok a ↔
      ∃ mark ∈ Hex.marks, ∃ digits, s.toList = mark ++ digits ∧ Hex.Spells digits a.bytes := by
  constructor
  · intro h
    rw [parse] at h
    split at h
    · cases h
    · next bs hlength hread =>
      cases h
      exact readFixedHex_eq_ok_iff.mp hread
  · rintro ⟨mark, marked, digits, text, spelled⟩
    exact parse_of_spells text marked spelled

/-- An address is read back from its text. -/
theorem parse_text (a : Address) : parse a.text = .ok a :=
  @parse_of_spells _ _ ['0', 'x'] _ String.toList_ofList (by decide)
    (Hex.spells_encodeChars a.bytes)

/-- An address with its checksum is read as that address. -/
theorem parse_checksummed (a : Address) : parse a.checksummed = .ok a := by
  let digits := Hex.encodeChars a.bytes
  let hash := nibbles (Keccak.hash (Text.utf8Chars digits))
  have hlen : digits.length ≤ hash.length := by
    have hhash : hash.length = 64 := by rw [length_nibbles, Keccak.length_hash]
    have hdigits : digits.length = 40 := by
      simp [digits, Hex.encodeChars, List.length_flatMap, Hex.bytePair, List.map_const',
        a.length_bytes]
    omega
  exact @parse_of_spells _ _ ['0', 'x'] _ String.toList_ofList (by decide)
    (spells_checksum (Hex.spells_encodeChars a.bytes) hlen)

end Address

end TransferRelay

import TransferRelay.Node.Returns
import TransferRelay.Proofs.Recharge.Canonical

/-!
# What the contract returns is read back

Each value that the contract returns is read back from the data that is written for it
(`decodeFlag?_encodeFlag`, `decodeEntries?_encode`, `decodeWithdrawal?_encode`). A withdrawal comes
back without its flag, which is no part of the data.

Of a flag all data is known: `decodeFlag?_eq_some_iff`.
-/

namespace TransferRelay.Node

open Abi (Stands Buffer)

/-! ## Flags -/

/-- Data of a flag is one word that has zeros in front of its last byte, and the flag is whether the
last byte is other than zero. -/
theorem decodeFlag?_eq_some_iff {raw : Bytes} {flag : Bool} :
    decodeFlag? raw = some flag ↔
      ∃ last, raw = List.replicate 31 0 ++ [last] ∧ flag = (last != 0) := by
  constructor
  · intro h
    unfold decodeFlag? at h
    split at h
    · next hword =>
      obtain ⟨hlen, hzeros⟩ := hword
      have hfront : raw.take 31 = List.replicate 31 0 := by
        refine List.eq_replicate_iff.mpr ⟨?_, fun b hb => ?_⟩
        · rw [List.length_take]
          omega
        · exact eq_of_beq (List.all_eq_true.mp hzeros b hb)
      obtain ⟨last, hlast⟩ : ∃ last, raw.drop 31 = [last] :=
        List.length_eq_one_iff.mp (by rw [List.length_drop]; omega)
      refine ⟨last, ?_, ?_⟩
      · rw [← hfront, ← hlast, List.take_append_drop]
      · rw [hlast] at h
        cases h
        simp
    · cases h
  · rintro ⟨last, rfl, rfl⟩
    have hlen : (List.replicate 31 0 ++ [last]).length = 32 := rfl
    have hfront : (List.replicate 31 0 ++ [last]).take 31 = List.replicate 31 0 := rfl
    have hlast : (List.replicate 31 0 ++ [last]).drop 31 = [last] := rfl
    rw [decodeFlag?, hfront, hlast, if_pos ⟨hlen, by decide⟩]
    simp

theorem decodeFlag?_encodeFlag (flag : Bool) : decodeFlag? (encodeFlag flag) = some flag := by
  cases flag <;> rfl

/-! ## Entries -/

theorem decodeEntries?_encode {es : List RechargeEntry}
    (hlen : (Recharge.encode es).length < 0x100000000) :
    decodeEntries? (Recharge.encode es) = some es := by
  rw [decodeEntries?, Recharge.read_encode hlen]
  rfl

/-! ## Withdrawals -/

/-- The words of a withdrawal and its byte string stand where they are looked for. -/
theorem readRawWithdrawal_eq {raw target amount signatures : Bytes} (htarget : target.length = 32)
    (hamount : amount.length = 32) (h : Stands raw 0 (encodeRawWithdrawal target amount signatures))
    (hlen : raw.length < 0x10000000000000000) :
    readRawWithdrawal raw.toArray = .ok (target, amount, signatures) := by
  have hsecond := h.left.left.right
  have hoffset := h.left.right
  have hbytes := h.right
  simp only [List.length_append, htarget, hamount, Abi.length_word, Nat.zero_add]
    at hsecond hoffset hbytes
  have hle := hbytes.length_le
  have hsignatures : signatures.length < 0x10000000000000000 := by
    rw [Abi.dynamicBytes, List.length_append, Abi.length_padRight] at hle
    omega
  rw [readRawWithdrawal, Buffer.wordAt_eq h.left.left.left htarget,
    Buffer.wordAt_eq hsecond hamount, Buffer.targetAt_eq hoffset (by decide) (by omega)]
  simp only [ok_bind, Nat.zero_add]
  rw [Buffer.bytesAt_eq hbytes hsignatures]
  rfl

theorem decodeWithdrawal?_encode {r : Withdrawal}
    (hlen : (encodeWithdrawal r).length < 0x100000000) :
    decodeWithdrawal? (encodeWithdrawal r) = some { r with completed := false } := by
  have hread : readRawWithdrawal (encodeWithdrawal r).toArray =
      .ok (r.target.word, r.amount.word, r.signatures) :=
    readRawWithdrawal_eq r.target.length_word r.amount.length_word (Stands.self _)
      (Nat.lt_trans hlen (by decide))
  rw [decodeWithdrawal?, hread]
  simp only [Recharge.addressOfWord?_word, Recharge.amountOfWord?_word]
  exact if_pos rfl

end TransferRelay.Node

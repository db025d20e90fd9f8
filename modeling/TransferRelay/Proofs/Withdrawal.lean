import TransferRelay.Crypto.Keccak
import TransferRelay.Proofs.Abi.Layout
import TransferRelay.Proofs.Hex.Spelling
import TransferRelay.Proofs.Recharge.Canonical
import TransferRelay.Text.Utf8
import TransferRelay.Withdrawal

/-!
# The data of withdrawal calls

The data of a call is the selector, the first four bytes of the hash of the function's signature
(`take_hash_signature`), and the arguments. `Laid order data` says how the contract expects the
arguments of an order; `arguments` writes them so, and nothing else is so (`laid_iff`).

`ofArguments?` follows the offset to the text and compares the arguments with what is written for
the order that it has read. It finds each order again, with the text as it was, and takes nothing
else (`ofArguments?_eq_some_iff`). What it reads does not depend on what stands behind the text
(`readArguments_of_stands`), so the data of no call begins with that of another
(`eq_of_callData_prefix`).
-/

namespace TransferRelay

/-- A text is read back from its bytes. -/
theorem Text.fromUTF8?_utf8 (s : String) : String.fromUTF8? ⟨(utf8 s).toArray⟩ = some s := by
  rw [← toList_toUTF8, Array.toArray_toList]
  exact Hex.fromUTF8?_toUTF8 s

/-- One block is taken in at once. -/
theorem Keccak.absorb_of_length {s : State} {bs : Bytes} (h : bs.length = rate) :
    absorb s bs = absorbBlock s bs := by
  rw [absorb, if_neg (by omega), absorb, List.take_of_length_le (by omega),
    List.drop_of_length_le (by omega)]
  exact if_pos (by decide)

namespace WithdrawalOrder

open Abi (Stands Buffer Words Filled)

/-! ## The selector -/

/-- The signature of the function that is called. -/
def signature : String := "withdraw(string,uint256,uint256)"

theorem take_hash_signature : (Keccak.hash (Text.utf8 signature)).take 4 = selector := by
  -- with its padding the signature fills one block
  have hlength : (Text.utf8 signature ++ Keccak.padding (Text.utf8 signature).length).length =
      Keccak.rate := by decide +kernel
  rw [Keccak.hash, Keccak.absorb_of_length hlength]
  decide +kernel

/-! ## The layout of the arguments -/

/-- Arguments as the contract expects them: the offset of the text, the amount, the fee, then the
length of the text in UTF-8 and the text filled up to whole words. -/
inductive Laid (order : WithdrawalOrder) : Bytes → Prop
  | mk {numbers text : Bytes}
      (words : Words
        [0x60, order.amount.val, order.fee.val, order.destination.toUTF8.data.toList.length]
        numbers)
      (filled : Filled order.destination.toUTF8.data.toList text) : Laid order (numbers ++ text)

variable {order other : WithdrawalOrder}

theorem laid_iff {data : Bytes} (hlen : (Text.utf8 order.destination).length < Nat.pow 2 256) :
    Laid order data ↔ data = order.arguments := by
  have hnumbers : ∀ n ∈ [0x60, order.amount.val, order.fee.val,
      (Text.utf8 order.destination).length], n < Nat.pow 2 256 := by
    simp only [List.forall_mem_cons]
    exact ⟨by decide, order.amount.val_lt, order.fee.val_lt, hlen, nofun⟩
  have harguments : order.arguments =
      [0x60, order.amount.val, order.fee.val, (Text.utf8 order.destination).length].flatMap Abi.word
        ++ Abi.padRight (Text.utf8 order.destination) := by
    simp only [arguments, Abi.dynamicBytes, Amount.word, Abi.word, List.flatMap_cons,
      List.flatMap_nil, List.append_nil, List.append_assoc]
  constructor
  · rintro ⟨words, filled⟩
    rw [Text.toList_toUTF8] at words filled
    rw [harguments, (Abi.words_iff hnumbers).mp words, Abi.filled_iff.mp filled]
  · rintro rfl
    rw [harguments]
    refine .mk ?_ ?_
    · rw [Text.toList_toUTF8]
      exact (Abi.words_iff hnumbers).mpr rfl
    · rw [Text.toList_toUTF8]
      exact Abi.filled_iff.mpr rfl

/-! ## Reading the arguments -/

/-- The bytes of the text and the words of the two numbers. -/
def readArguments (buf : Buffer) : Except Abi.Fault (Bytes × Bytes × Bytes) := do
  let start ← buf.targetAt 0 0
  let amount ← buf.wordAt 32
  let fee ← buf.wordAt 64
  let destination ← buf.bytesAt start
  return (destination, amount, fee)

/-- Reads arguments that `arguments` has written. -/
def ofArguments? (data : Bytes) : Option WithdrawalOrder := do
  let (destination, amount, fee) ← (readArguments data.toArray).toOption
  let destination ← String.fromUTF8? ⟨destination.toArray⟩
  let amount ← Recharge.amountOfWord? amount
  let fee ← Recharge.amountOfWord? fee
  let order : WithdrawalOrder := ⟨destination, amount, fee⟩
  if order.arguments = data then some order else none

theorem length_callData :
    order.callData.length = 132 + (Abi.padRight (Text.utf8 order.destination)).length := by
  simp only [callData, arguments, Abi.dynamicBytes, List.length_append, Amount.length_word,
    Abi.length_word, selector, List.length_cons, List.length_nil]
  omega

theorem length_destination_le : (Text.utf8 order.destination).length ≤ order.callData.length := by
  rw [length_callData, Abi.length_padRight]
  omega

/-- The arguments of an order are found where they stand, whatever stands behind them. -/
theorem readArguments_of_stands {raw : Bytes}
    (hlen : (Text.utf8 order.destination).length < 0x10000000000000000)
    (h : Stands raw 0 order.arguments) :
    readArguments raw.toArray =
      .ok (Text.utf8 order.destination, order.amount.word, order.fee.word) := by
  have hamount := h.left.left.right
  have hfee := h.left.right
  have hdestination := h.right
  simp only [List.length_append, Amount.length_word, Abi.length_word, Nat.zero_add]
    at hamount hfee hdestination
  have hle := hdestination.length_le
  rw [readArguments, Buffer.targetAt_eq h.left.left.left (by decide) (by omega), ok_bind,
    Buffer.wordAt_eq hamount order.amount.length_word, ok_bind,
    Buffer.wordAt_eq hfee order.fee.length_word, ok_bind, Nat.zero_add,
    Buffer.bytesAt_eq hdestination hlen]
  rfl

theorem ofArguments?_arguments
    (hlen : (Text.utf8 order.destination).length < 0x10000000000000000) :
    ofArguments? order.arguments = some order := by
  rw [ofArguments?, readArguments_of_stands hlen (Stands.self _)]
  simp only [Except.toOption, Option.bind_eq_bind, Option.bind_some, Text.fromUTF8?_utf8,
    Recharge.amountOfWord?_word, if_true]

theorem eq_arguments_of_ofArguments? {data : Bytes} (h : ofArguments? data = some order) :
    data = order.arguments := by
  obtain ⟨⟨destination, amount, fee⟩, -, h⟩ := Option.bind_eq_some_iff.mp h
  obtain ⟨text, -, h⟩ := Option.bind_eq_some_iff.mp h
  obtain ⟨a, -, h⟩ := Option.bind_eq_some_iff.mp h
  obtain ⟨f, -, h⟩ := Option.bind_eq_some_iff.mp h
  dsimp only at h
  split at h
  · next hsame =>
    cases h
    exact hsame.symm
  · cases h

/-- Arguments are read as an order exactly if they are what is written for it. -/
theorem ofArguments?_eq_some_iff {data : Bytes}
    (hlen : (Text.utf8 order.destination).length < 0x10000000000000000) :
    ofArguments? data = some order ↔ data = order.arguments := by
  constructor
  · exact eq_arguments_of_ofArguments?
  · rintro rfl
    exact ofArguments?_arguments hlen

/-- An order is known from the bytes of its text and the words of its numbers. -/
theorem eq_of_parts (htext : Text.utf8 order.destination = Text.utf8 other.destination)
    (hamount : order.amount.word = other.amount.word) (hfee : order.fee.word = other.fee.word) :
    order = other := by
  have hdestination : order.destination = other.destination := by
    have hread := Text.fromUTF8?_utf8 order.destination
    rw [htext, Text.fromUTF8?_utf8] at hread
    exact (Option.some.inj hread).symm
  have hword : ∀ a b : Amount, a.word = b.word → a = b := by
    intro a b hab
    apply Amount.ext
    rw [← a.toNat_word, hab, b.toNat_word]
  obtain ⟨d, a, f⟩ := order
  obtain ⟨d', a', f'⟩ := other
  obtain rfl : d = d' := hdestination
  obtain rfl : a = a' := hword a a' hamount
  obtain rfl : f = f' := hword f f' hfee
  rfl

/-- Data that begins with the data of a call is that of no other call. -/
theorem eq_of_callData_prefix (horder : order.callData.length < 0x100000000)
    (hother : other.callData.length < 0x100000000) (h : order.callData <+: other.callData) :
    order = other := by
  have harguments : order.arguments <+: other.arguments := (List.prefix_append_right_inj _).mp h
  have hshort := Nat.lt_of_le_of_lt length_destination_le horder
  have hshort' := Nat.lt_of_le_of_lt length_destination_le hother
  -- the same arguments are read as those of the one order and of the other
  have hread : readArguments other.arguments.toArray =
      .ok (Text.utf8 order.destination, order.amount.word, order.fee.word) :=
    readArguments_of_stands (by omega) (Stands.of_prefix harguments)
  rw [readArguments_of_stands (by omega) (Stands.self _)] at hread
  obtain ⟨htext, hnumbers⟩ := Prod.mk.inj (Except.ok.inj hread)
  obtain ⟨hamount, hfee⟩ := Prod.mk.inj hnumbers
  exact eq_of_parts htext.symm hamount.symm hfee.symm

/-- **The data of a call is faithful and unambiguous.** It is the selector of the function and the
arguments as the contract expects them and nothing else; the order is read from it as it was; and
no data of another call begins with it. -/
theorem callData_faithful (hlen : order.callData.length < 0x100000000) :
    (∀ data, data = order.callData ↔
        ∃ args, data = (Keccak.hash (Text.utf8 signature)).take 4 ++ args ∧ Laid order args) ∧
      ofArguments? (order.callData.drop 4) = some order ∧
      ∀ other : WithdrawalOrder, other.callData.length < 0x100000000 →
        order.callData <+: other.callData → order = other := by
  have hdestination := Nat.lt_of_le_of_lt length_destination_le hlen
  refine ⟨?_, ?_, ?_⟩
  · intro data
    have hlaid : ∀ args, Laid order args ↔ args = order.arguments :=
      fun args => laid_iff (Nat.lt_trans hdestination (by decide))
    rw [take_hash_signature]
    constructor
    · rintro rfl
      exact ⟨order.arguments, rfl, (hlaid _).mpr rfl⟩
    · rintro ⟨args, rfl, laid⟩
      rw [(hlaid args).mp laid]
      rfl
  · have hdrop : order.callData.drop 4 = order.arguments := rfl
    rw [hdrop]
    exact (ofArguments?_eq_some_iff (Nat.lt_trans hdestination (by decide))).mpr rfl
  · intro other hother hprefix
    exact eq_of_callData_prefix hlen hother hprefix

/-- A text with blanks around it and a character of two bytes, in an order and in the one with its
amount and fee exchanged. -/
theorem callData_faithful_of_exchanged_amounts :
    let order : WithdrawalOrder := ⟨" Eé ", ⟨255, by decide⟩, ⟨256, by decide⟩⟩
    let exchanged : WithdrawalOrder := ⟨" Eé ", ⟨256, by decide⟩, ⟨255, by decide⟩⟩
    order.callData.length < 0x100000000 ∧ exchanged.callData.length < 0x100000000 ∧
      (∃ args, order.callData = (Keccak.hash (Text.utf8 signature)).take 4 ++ args ∧
        Laid order args) ∧
      ofArguments? (order.callData.drop 4) = some order ∧
      ¬ order.callData <+: exchanged.callData := by
  intro order exchanged
  have hlen : order.callData.length < 0x100000000 := by decide +kernel
  have hother : exchanged.callData.length < 0x100000000 := by decide +kernel
  obtain ⟨laid, read, unambiguous⟩ := callData_faithful hlen
  refine ⟨hlen, hother, (laid _).mp rfl, read, ?_⟩
  intro hprefix
  have hsame : order.amount.val = exchanged.amount.val :=
    congrArg (·.amount.val) (unambiguous exchanged hother hprefix)
  exact absurd hsame (by decide)

end WithdrawalOrder

end TransferRelay

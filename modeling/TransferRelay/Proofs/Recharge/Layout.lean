import Mathlib.Data.List.Forall2
import TransferRelay.Proofs.Abi.Layout
import TransferRelay.Proofs.Recharge.Canonical

/-!
# The layout of contract data of recharges

`Laid xs raw` says where the contract expects what of a list `xs` in the data `raw`: a word that
points to the array, the number of the entries, the offset of each body, and the bodies one after
the other. An offset is counted from behind the number, so it is the size of the offsets and of all
bodies in front of its own. `IsBody` says the same of one entry.

`encode` writes this layout and there is no other data in it (`laid_iff`). Its size is known from
the sizes of the byte strings (`length_encode`), and its offsets lead to the entries: `entryBehind`
looks at no entry but the one that it is asked for, and finds it (`entryBehind_eq`).
-/

namespace TransferRelay

namespace Recharge

open Abi (Stands Buffer Words Filled)

/-! ## The layout -/

/-- The body of an entry: the address behind zeros that fill up its word, the amount, the fee, the
offset of the byte string, its length and the byte string itself. -/
inductive IsBody (e : RechargeEntry) : Bytes → Prop
  | mk {numbers data : Bytes} (words : Words [e.amount.val, e.fee.val, 0x80, e.data.length] numbers)
      (filled : Filled e.data data) :
      IsBody e (List.replicate 12 0 ++ e.target.bytes ++ numbers ++ data)

/-- The numbers in front of bodies: the offset of the array, the number of the bodies, and for each
body the size of all offsets and of the bodies in front of it. -/
def headNumbers (bodies : List Bytes) : List Nat :=
  0x20 :: bodies.length ::
    (List.range bodies.length).map fun i =>
      32 * bodies.length + ((bodies.take i).map List.length).sum

/-- The data of a list: words of the numbers, then the bodies of the entries in order. -/
inductive Laid (xs : List RechargeEntry) : Bytes → Prop
  | mk {head : Bytes} {bodies : List Bytes} (entries : List.Forall₂ IsBody xs bodies)
      (words : Words (headNumbers bodies) head) : Laid xs (head ++ bodies.flatten)

/-- The body that is written for an entry. -/
abbrev bodyOf (e : RechargeEntry) : Bytes :=
  (RawEntry.ofEntry e).body

theorem encode_eq_bodies (xs : List RechargeEntry) :
    encode xs = Abi.word 0x20 ++ Abi.dynamicArray (xs.map bodyOf) := by
  rw [encode, encodeRaw, List.map_map]
  rfl

theorem encode_eq_flatMap (xs : List RechargeEntry) :
    encode xs = (headNumbers (xs.map bodyOf)).flatMap Abi.word ++ (xs.map bodyOf).flatten := by
  rw [encode_eq_bodies, Abi.dynamicArray, Abi.offsets_eq_flatMap, headNumbers, List.flatMap_cons,
    List.flatMap_cons, List.append_assoc, List.append_assoc, List.append_assoc]

/-! ## Sizes -/

theorem length_bodyOf (e : RechargeEntry) :
    (bodyOf e).length = 160 + 32 * ((e.data.length + 31) / 32) := by
  rw [RawEntry.length_body (RawEntry.fits_ofEntry e), Abi.length_padRight_eq]
  rfl

theorem length_encode_bodies (xs : List RechargeEntry) :
    (encode xs).length = 64 + 32 * xs.length + (xs.map bodyOf).flatten.length := by
  rw [encode_eq_bodies, Abi.dynamicArray]
  simp only [List.length_append, Abi.length_word, Abi.length_offsets, List.length_map]
  omega

/-- The data of a list is as long as its two first numbers and, for each entry, an offset, five
words and the words of its byte string. -/
theorem length_encode (xs : List RechargeEntry) :
    (encode xs).length = 64 + (xs.map fun e => 192 + 32 * ((e.data.length + 31) / 32)).sum := by
  have hentries : 32 * xs.length + (xs.map bodyOf).flatten.length =
      (xs.map fun e => 192 + 32 * ((e.data.length + 31) / 32)).sum := by
    induction xs with
    | nil => rfl
    | cons e xs ih =>
      simp only [List.map_cons, List.flatten_cons, List.length_append, List.length_cons,
        List.sum_cons, length_bodyOf] at ih ⊢
      omega
  rw [length_encode_bodies]
  omega

theorem length_data_le {xs : List RechargeEntry} {e : RechargeEntry} (he : e ∈ xs) :
    e.data.length ≤ (encode xs).length := by
  obtain ⟨before, after, rfl⟩ := List.append_of_mem he
  rw [length_encode]
  simp only [List.map_append, List.map_cons, List.sum_append, List.sum_cons]
  omega

/-- No number in front of the bodies is greater than the size of the data. -/
theorem le_of_mem_headNumbers {xs : List RechargeEntry} {n : Nat}
    (hn : n ∈ headNumbers (xs.map bodyOf)) : n ≤ (encode xs).length := by
  rw [length_encode_bodies]
  rw [headNumbers, List.length_map, List.mem_cons, List.mem_cons, List.mem_map] at hn
  rcases hn with rfl | rfl | ⟨i, -, rfl⟩
  · omega
  · omega
  · have hparts := congrArg (fun bodies => (bodies.map List.length).sum)
      (List.take_append_drop i (xs.map bodyOf))
    simp only [List.map_append, List.sum_append] at hparts
    rw [List.length_flatten]
    omega

/-! ## One layout for each list -/

/-- A body with a byte string that a word can measure is what is written for its entry. -/
theorem isBody_iff {e : RechargeEntry} {body : Bytes} (hdata : e.data.length < Nat.pow 2 256) :
    IsBody e body ↔ body = bodyOf e := by
  have hnumbers : ∀ n ∈ [e.amount.val, e.fee.val, 0x80, e.data.length], n < Nat.pow 2 256 := by
    simp only [List.forall_mem_cons]
    exact ⟨e.amount.val_lt, e.fee.val_lt, by decide, hdata, nofun⟩
  have hbody : bodyOf e = List.replicate 12 0 ++ e.target.bytes ++
      [e.amount.val, e.fee.val, 0x80, e.data.length].flatMap Abi.word ++ Abi.padRight e.data := by
    simp only [bodyOf, RawEntry.body, RawEntry.ofEntry, Abi.dynamicBytes, Address.word, Amount.word,
      Abi.word, List.flatMap_cons, List.flatMap_nil, List.append_nil, List.append_assoc]
  constructor
  · rintro ⟨words, filled⟩
    rw [hbody, (Abi.words_iff hnumbers).mp words, Abi.filled_iff.mp filled]
  · rintro rfl
    rw [hbody]
    exact .mk ((Abi.words_iff hnumbers).mpr rfl) (Abi.filled_iff.mpr rfl)

theorem forall₂_isBody_iff {xs : List RechargeEntry} {bodies : List Bytes}
    (hdata : ∀ e ∈ xs, e.data.length < Nat.pow 2 256) :
    List.Forall₂ IsBody xs bodies ↔ bodies = xs.map bodyOf := by
  induction xs generalizing bodies with
  | nil => rw [List.forall₂_nil_left_iff, List.map_nil]
  | cons e xs ih =>
    obtain ⟨he, hxs⟩ := List.forall_mem_cons.mp hdata
    rw [List.forall₂_cons_left_iff]
    constructor
    · rintro ⟨body, rest, first, others, rfl⟩
      rw [(isBody_iff he).mp first, (ih hxs).mp others, List.map_cons]
    · rintro rfl
      exact ⟨_, _, (isBody_iff he).mpr rfl, (ih hxs).mpr rfl, List.map_cons⟩

/-- The data of a list is laid out as the contract expects, and no other data is. -/
theorem laid_iff {xs : List RechargeEntry} {raw : Bytes}
    (hlen : (encode xs).length < Nat.pow 2 256) :
    Laid xs raw ↔ raw = encode xs := by
  have hdata : ∀ e ∈ xs, e.data.length < Nat.pow 2 256 := by
    intro e he
    exact Nat.lt_of_le_of_lt (length_data_le he) hlen
  have hnumbers : ∀ n ∈ headNumbers (xs.map bodyOf), n < Nat.pow 2 256 := by
    intro n hn
    exact Nat.lt_of_le_of_lt (le_of_mem_headNumbers hn) hlen
  rw [encode_eq_flatMap]
  constructor
  · rintro ⟨entries, words⟩
    obtain rfl := (forall₂_isBody_iff hdata).mp entries
    rw [(Abi.words_iff hnumbers).mp words]
  · rintro rfl
    exact .mk ((forall₂_isBody_iff hdata).mpr rfl) ((Abi.words_iff hnumbers).mpr rfl)

/-! ## Following the offsets -/

/-- The entry that the offset number `i` of contract data leads to. -/
def entryBehind (buf : Buffer) (i : Nat) : Except Abi.Fault (Option RechargeEntry) := do
  let array ← buf.targetAt 0 0
  let start ← buf.targetAt (array + 32) (array + 32 + 32 * i)
  let e ← placedEntryAt buf start
  return RawEntry.entry? (e.raw buf)

/-- The offset of an entry leads to it past all entries in front of it. -/
theorem entryBehind_eq {raw : Bytes} {before after : List RechargeEntry} {e : RechargeEntry}
    (hlen : (encode (before ++ e :: after)).length < 0x10000000000000000)
    (h : Stands raw 0 (encode (before ++ e :: after))) :
    entryBehind raw.toArray before.length = .ok (some e) := by
  have hbodies : (before ++ e :: after).map bodyOf =
      before.map bodyOf ++ bodyOf e :: after.map bodyOf := by
    rw [List.map_append, List.map_cons]
  have hsize := length_encode_bodies (before ++ e :: after)
  simp only [hbodies, List.flatten_append, List.flatten_cons, List.length_append] at hsize
  rw [encode_eq_bodies] at h
  have harray := h.right
  rw [Abi.length_word] at harray
  obtain ⟨hoffset, hbody⟩ := harray.item hbodies
  simp only [List.length_map, List.length_append, Nat.zero_add] at hoffset hbody
  have hle := hbody.length_le
  have hshort : (bodyOf e).length < 0x10000000000000000 := by omega
  have fits := RawEntry.fits_ofEntry e
  rw [entryBehind, Buffer.targetAt_eq h.left (by decide) (by omega), ok_bind, Nat.zero_add,
    Buffer.targetAt_eq hoffset (by omega) (by omega), ok_bind,
    placedEntryAt_eq fits hbody hshort, ok_bind, raw_placed fits hbody, eq_some_ofEntry]
  rfl

/-- **The data of a list is laid out as the contract expects.** Nothing else is in that layout, its
size is that of the words that it consists of, and the offset of each entry leads to the entry. -/
theorem encode_layout {xs : List RechargeEntry} (hlen : (encode xs).length < 0x100000000) :
    (∀ raw, Laid xs raw ↔ raw = encode xs) ∧
      (encode xs).length = 64 + (xs.map fun e => 192 + 32 * ((e.data.length + 31) / 32)).sum ∧
      ∀ i e, xs[i]? = some e → entryBehind (encode xs).toArray i = .ok (some e) := by
  refine ⟨?_, length_encode xs, ?_⟩
  · intro raw
    exact laid_iff (Nat.lt_trans hlen (by decide))
  · intro i e hi
    obtain ⟨hlt, rfl⟩ := List.getElem?_eq_some_iff.mp hi
    have hsplit : xs = xs.take i ++ xs[i] :: xs.drop (i + 1) := by
      rw [List.getElem_cons_drop, List.take_append_drop]
    have hentry := @entryBehind_eq (encode xs) (xs.take i) (xs.drop (i + 1)) xs[i]
    rw [← hsplit, List.length_take_of_le (Nat.le_of_lt hlt)] at hentry
    exact hentry (Nat.lt_trans hlen (by decide)) (Stands.self _)

/-- Two entries, of which the first has a byte string of one byte more than a word: its body has
seven words, and the second body stands as much further behind the first. -/
theorem encode_layout_of_two :
    let first : RechargeEntry :=
      ⟨⟨List.replicate 20 0xaa, rfl⟩, ⟨7, by decide⟩, ⟨1, by decide⟩, List.replicate 33 0xff⟩
    let second : RechargeEntry :=
      ⟨⟨List.replicate 20 0xbb, rfl⟩, ⟨9, by decide⟩, ⟨2, by decide⟩, []⟩
    let raw : Bytes :=
      Abi.word 32 ++ Abi.word 2 ++ Abi.word 64 ++ Abi.word (64 + 224) ++
        (List.replicate 12 0 ++ List.replicate 20 0xaa) ++ Abi.word 7 ++ Abi.word 1 ++
        Abi.word 128 ++ Abi.word 33 ++ (List.replicate 33 0xff ++ List.replicate 31 0) ++
        (List.replicate 12 0 ++ List.replicate 20 0xbb) ++ Abi.word 9 ++ Abi.word 2 ++
        Abi.word 128 ++ Abi.word 0
    raw.length < 0x100000000 ∧ Laid [first, second] raw ∧
      raw.length = 64 + (192 + 64) + (192 + 0) ∧ entryBehind raw.toArray 1 = .ok (some second) := by
  intro first second raw
  have hraw : raw = encode [first, second] := by decide +kernel
  have hlen : raw.length < 0x100000000 := by decide +kernel
  rw [hraw] at hlen ⊢
  obtain ⟨laid, length, leads⟩ := encode_layout hlen
  exact ⟨hlen, (laid _).mpr rfl, length.trans (by decide), leads 1 second rfl⟩

end Recharge

end TransferRelay

import Mathlib.Algebra.Ring.Nat
import TransferRelay.Proofs.Abi.Reading

/-!
# Words and filled byte strings

Contract data described by what it denotes. `Words ns bs` says that the bytes `bs` are big-endian
words of 32 bytes that denote the numbers `ns`, and `Filled content bs` that `bs` is `content` with
no more zeros behind it than make whole words of it.

There is one way only to be either (`words_iff`, `filled_iff`), and it is what `word` and `padRight`
write. `offsets_eq_flatMap` says which numbers the offsets of bodies are, and `Stands.item` where
in the data of an array the offset of a body stands and the body itself.
-/

namespace TransferRelay.Abi

/-- The bytes are words that denote the numbers, one after the other. -/
inductive Words : List Nat → Bytes → Prop
  | nil : Words [] []
  | cons {n : Nat} {ns : List Nat} {w bs : Bytes} (length : w.length = 32)
      (denotes : BigEndian.toNat w = n) (rest : Words ns bs) : Words (n :: ns) (w ++ bs)

/-- The bytes are a byte string and as few zeros behind it as fill up whole words. -/
inductive Filled (content : Bytes) : Bytes → Prop
  | mk {zeros : Nat} (fewest : zeros < 32) (whole : 32 ∣ content.length + zeros) :
      Filled content (content ++ List.replicate zeros 0)

theorem Words.eq_flatMap {ns : List Nat} {bs : Bytes} (h : Words ns bs) :
    bs = ns.flatMap word := by
  induction h with
  | nil => rfl
  | @cons n ns w bs length denotes rest ih =>
    have hword : word n = w := by rw [word, ← denotes, ← length, BigEndian.ofNat_toNat]
    rw [List.flatMap_cons, hword, ← ih]

theorem words_flatMap {ns : List Nat} (h : ∀ n ∈ ns, n < Nat.pow 2 256) :
    Words ns (ns.flatMap word) := by
  induction ns with
  | nil => exact .nil
  | cons n ns ih =>
    obtain ⟨hn, hns⟩ := List.forall_mem_cons.mp h
    exact .cons (length_word n) (BigEndian.toNat_ofNat hn) (ih hns)

/-- Numbers that words can hold are words in one way. -/
theorem words_iff {ns : List Nat} {bs : Bytes} (h : ∀ n ∈ ns, n < Nat.pow 2 256) :
    Words ns bs ↔ bs = ns.flatMap word := by
  constructor
  · exact Words.eq_flatMap
  · rintro rfl
    exact words_flatMap h

/-- A byte string is filled up in one way. -/
theorem filled_iff {content bs : Bytes} : Filled content bs ↔ bs = padRight content := by
  constructor
  · rintro ⟨fewest, whole⟩
    rename_i zeros
    have hzeros : zeros = fill content.length := by
      rw [fill]
      omega
    rw [hzeros, padRight]
  · rintro rfl
    have hwhole := dvd_length_padRight content
    rw [length_padRight] at hwhole
    exact .mk (Nat.mod_lt _ (by decide)) hwhole

theorem length_padRight_eq (bs : Bytes) : (padRight bs).length = 32 * ((bs.length + 31) / 32) := by
  rw [length_padRight, fill]
  omega

theorem offsets_append (start : Nat) (front back : List Bytes) :
    offsets start (front ++ back) =
      offsets start front ++ offsets (start + front.flatten.length) back := by
  induction front generalizing start with
  | nil => rfl
  | cons body front ih =>
    rw [List.cons_append, offsets, ih, offsets, List.append_assoc, List.flatten_cons,
      List.length_append, Nat.add_assoc]

/-- The offset of a body is the start and the length of all bodies in front of it. -/
theorem offsets_eq_flatMap (start : Nat) (bodies : List Bytes) :
    offsets start bodies =
      ((List.range bodies.length).map fun i =>
        start + ((bodies.take i).map List.length).sum).flatMap word := by
  induction bodies generalizing start with
  | nil => rfl
  | cons body bodies ih =>
    rw [offsets, ih, List.length_cons, List.range_succ_eq_map, List.map_cons, List.flatMap_cons,
      List.map_map]
    -- behind the first body everything is counted from its end
    have hshift : ((fun i => start + (((body :: bodies).take i).map List.length).sum) ∘ Nat.succ) =
        fun i => start + body.length + ((bodies.take i).map List.length).sum := by
      funext i
      simp only [Function.comp_apply, Nat.succ_eq_add_one, List.take_succ_cons, List.map_cons,
        List.sum_cons]
      omega
    rw [hshift]
    rfl

/-- Where the offset of a body and the body stand in an array. The offset is counted from behind the
number of the bodies. -/
theorem Stands.item {raw : Bytes} {p : Nat} {bodies front back : List Bytes} {body : Bytes}
    (hbodies : bodies = front ++ body :: back) (h : Stands raw p (dynamicArray bodies)) :
    Stands raw (p + 32 + 32 * front.length)
        (word (32 * bodies.length + front.flatten.length)) ∧
      Stands raw (p + 32 + (32 * bodies.length + front.flatten.length)) body := by
  have hoffsets := h.left.right
  have hitems := h.right
  simp only [List.length_append, length_word, length_offsets] at hoffsets hitems
  constructor
  · have hsplit := offsets_append (32 * bodies.length) front (body :: back)
    rw [← hbodies, offsets] at hsplit
    rw [hsplit] at hoffsets
    have hoffset := hoffsets.right.left
    rwa [length_offsets] at hoffset
  · have hsplit : bodies.flatten = front.flatten ++ (body ++ back.flatten) := by
      rw [hbodies, List.flatten_append, List.flatten_cons]
    rw [hsplit] at hitems
    have hposition : p + 32 + (32 * bodies.length + front.flatten.length) =
        p + (32 + 32 * bodies.length) + front.flatten.length := by omega
    rw [hposition]
    exact hitems.right.left

end TransferRelay.Abi

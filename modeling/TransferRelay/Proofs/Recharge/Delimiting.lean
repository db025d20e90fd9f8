import TransferRelay.Proofs.Recharge.Canonical

/-!
# Contract data of recharges delimits itself

The offsets and lengths in the data of a list say where the data ends. Reading follows them and
looks no further, so it finds the same entries whatever stands behind the data
(`readRaw_of_stands_encode`). Hence the data of no list begins with that of another
(`eq_of_encode_prefix`).

Only the comparison with what is written for the entries tells data with bytes behind it from data
without (`read_append`). Data that is cut short is refused too: what is left is not the data of
a list, since it would have the rest of the data behind it (`exists_read_take`).
-/

namespace TransferRelay

namespace Recharge

open Abi (Stands)

/-- Data that is refused because of its encoding. -/
def Malformed (raw : Bytes) : Prop :=
  ∃ fault, decode raw = .error fault ∧ fault.kind = .malformedEncoding

theorem malformed_of_read {raw : Bytes} {cause : Abi.Fault} (h : read raw = .error cause) :
    Malformed raw := by
  have hdecode : decode raw = .error (.malformed (.badData cause)) := by rw [decode, h]
  exact ⟨_, hdecode, kind_of_decode hdecode⟩

variable {xs ys : List RechargeEntry}

theorem map_ofEntry_injective : Function.Injective (List.map RawEntry.ofEntry) := by
  intro xs ys h
  have hentries := congrArg (List.mapM RawEntry.entry?) h
  rw [mapM_map_ofEntry, mapM_map_ofEntry] at hentries
  exact Option.some.inj hentries

/-- Data that begins with the data of a list is that of no other list. -/
theorem eq_of_encode_prefix (hxs : (encode xs).length < 0x100000000)
    (hys : (encode ys).length < 0x100000000) (h : encode xs <+: encode ys) : xs = ys := by
  -- the same data is read as the one list and as the other
  have hread : readRaw (encode ys).toArray = .ok (xs.map RawEntry.ofEntry) :=
    readRaw_of_stands_encode hxs (Stands.of_prefix h)
  rw [readRaw_of_stands_encode hys (Stands.self _)] at hread
  exact map_ofEntry_injective (Except.ok.inj hread).symm

/-- Bytes behind the data of a list are not what is written for it. -/
theorem read_append {t : Bytes} (hlen : (encode xs).length < 0x100000000) (ht : t ≠ []) :
    read (encode xs ++ t) = .error .notCanonical := by
  have hread : readRaw (encode xs ++ t).toArray = .ok (xs.map RawEntry.ofEntry) :=
    readRaw_of_stands_encode hlen (Stands.of_prefix (List.prefix_append _ _))
  have hlonger : encodeRaw (xs.map RawEntry.ofEntry) ≠ encode xs ++ t := by
    intro h
    have hself : encode xs = encode xs ++ t := h
    exact ht (List.self_eq_append_right.mp hself)
  rw [read, hread, ok_bind, if_pos hlonger]

/-- The data of a list that lacks its end is refused. -/
theorem exists_read_take {k : Nat} (hlen : (encode xs).length < 0x100000000)
    (hk : k < (encode xs).length) : ∃ cause, read ((encode xs).take k) = .error cause := by
  cases hread : read ((encode xs).take k) with
  | error cause => exact ⟨cause, rfl⟩
  | ok ys =>
    have hys : (encode xs).take k = encode ys := eq_encode_of_read hread
    have hrest : (encode xs).drop k ≠ [] := by
      intro h
      rw [List.drop_eq_nil_iff] at h
      omega
    have hshort : (encode ys).length < 0x100000000 := by
      rw [← hys, List.length_take]
      omega
    -- the whole data would be that of `ys` with the rest behind it
    have hrefused := read_append hshort hrest
    rw [← hys, List.take_append_drop, read_encode hlen] at hrefused
    cases hrefused

/-- **Contract data delimits itself.** The data of a list is malformed as soon as there is a byte
behind it or its end is missing, and it is the start of no other data. -/
theorem encode_selfDelimiting (hlen : (encode xs).length < 0x100000000) :
    (∀ t, t ≠ [] → Malformed (encode xs ++ t)) ∧
      (∀ k, k < (encode xs).length → Malformed ((encode xs).take k)) ∧
      ∀ ys, (encode ys).length < 0x100000000 → encode xs <+: encode ys → xs = ys := by
  refine ⟨?_, ?_, ?_⟩
  · intro t ht
    exact malformed_of_read (read_append hlen ht)
  · intro k hk
    obtain ⟨cause, hcause⟩ := exists_read_take hlen hk
    exact malformed_of_read hcause
  · intro ys hys hprefix
    exact eq_of_encode_prefix hlen hys hprefix

/-- Of two entries, the second without a byte string: with a word of zeros behind the data, or cut
inside the padding of the first byte string, between two words or after nothing. -/
theorem encode_selfDelimiting_of_two :
    let xs : List RechargeEntry :=
      [⟨⟨List.replicate 20 0x11, rfl⟩, ⟨7, by decide⟩, ⟨1, by decide⟩, [0x68, 0x69]⟩,
        ⟨⟨List.replicate 20 0x22, rfl⟩, ⟨0, by decide⟩, ⟨9, by decide⟩, []⟩]
    (encode xs).length < 0x100000000 ∧
      Malformed (encode xs ++ List.replicate 32 0) ∧
      Malformed ((encode xs).take 300) ∧ Malformed ((encode xs).take 448) ∧
      Malformed ((encode xs).take 0) := by
  intro xs
  have hlength : (encode xs).length = 480 := by decide +kernel
  have hlen : (encode xs).length < 0x100000000 := by
    rw [hlength]
    decide
  obtain ⟨behind, cut, -⟩ := encode_selfDelimiting hlen
  rw [hlength] at cut
  exact ⟨hlen, behind _ (by decide), cut 300 (by decide), cut 448 (by decide), cut 0 (by decide)⟩

end Recharge

end TransferRelay

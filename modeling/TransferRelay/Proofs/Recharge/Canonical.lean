import TransferRelay.Proofs.Abi.Reading
import TransferRelay.Proofs.Results
import TransferRelay.Reading

/-!
# Contract data of recharges is canonical

`Recharge.decode` accepts exactly what `Recharge.encode` writes (`decode_eq_ok_iff`), and whatever
else it is given ends in a fault of the encoding.

- What is written is read back: the offsets that `Abi.dynamicArray` writes lead the reader from one
  body to the next (`placedEntriesAt_eq`), and what it finds there are the raw entries
  (`readRaw_of_stands`).
- What is accepted has been written: the reader writes its raw entries again and compares, so all
  that is left is that raw entries of three whole words are those of the entries they denote
  (`ofEntry_of_eq_some`).
-/

namespace TransferRelay

namespace Recharge

open Abi (Stands Buffer)

/-! ## Raw entries -/

namespace RawEntry

/-- A raw entry of which the three words are words. -/
structure Fits (e : RawEntry) : Prop where
  target : e.target.length = 32
  amount : e.amount.length = 32
  fee : e.fee.length = 32

theorem fits_ofEntry (e : RechargeEntry) : (ofEntry e).Fits where
  target := e.target.length_word
  amount := e.amount.length_word
  fee := e.fee.length_word

theorem length_body {e : RawEntry} (fits : e.Fits) :
    e.body.length = 160 + (Abi.padRight e.data).length := by
  simp only [body, Abi.dynamicBytes, List.length_append, fits.target, fits.amount, fits.fee,
    Abi.length_word]
  omega

/-- Where the reader finds an entry whose body stands at `p`. -/
def placed (p : Nat) (e : RawEntry) : PlacedEntry :=
  ⟨e.target, e.amount, e.fee, ⟨p + 160, e.data.length⟩⟩

end RawEntry

/-- Where the reader finds entries whose bodies stand one after the other from `p` on. -/
def placed (p : Nat) : List RawEntry → List PlacedEntry
  | [] => []
  | e :: es => e.placed p :: placed (p + e.body.length) es

/-! ## What is written is read back -/

section Reading

variable {raw : Bytes} {p : Nat}

/-- The byte string of an entry stands behind four words of its head and its length. -/
theorem stands_data {e : RawEntry} (fits : e.Fits) (h : Stands raw p e.body) :
    Stands raw (p + 160) e.data := by
  have hdata : Stands raw _ e.data := h.right.right.left
  simp only [List.length_append, fits.target, fits.amount, fits.fee, Abi.length_word] at hdata
  exact hdata

theorem placedEntryAt_eq {e : RawEntry} (fits : e.Fits) (h : Stands raw p e.body)
    (hbody : e.body.length < 0x10000000000000000) :
    placedEntryAt raw.toArray p = .ok (e.placed p) := by
  -- the parts of a body, each behind those before it
  have hamount := h.left.left.left.right
  have hfee := h.left.left.right
  have hoffset := h.left.right
  have hbytes := h.right
  simp only [List.length_append, fits.target, fits.amount, fits.fee, Abi.length_word]
    at hamount hfee hoffset hbytes
  have hle := hbytes.length_le
  have hdata : e.data.length < 0x10000000000000000 := by
    rw [RawEntry.length_body fits, Abi.length_padRight] at hbody
    omega
  rw [placedEntryAt, Buffer.wordAt_eq h.left.left.left.left fits.target,
    Buffer.wordAt_eq hamount fits.amount, Buffer.wordAt_eq hfee fits.fee,
    Buffer.targetAt_eq hoffset (by decide) (by omega)]
  simp only [ok_bind]
  rw [Buffer.regionAt_eq hbytes hdata]
  rfl

theorem raw_placed {e : RawEntry} (fits : e.Fits) (h : Stands raw p e.body) :
    (e.placed p).raw raw.toArray = e := by
  show RawEntry.mk e.target e.amount e.fee (Buffer.bytes raw.toArray ⟨p + 160, e.data.length⟩) = e
  rw [Buffer.bytes_eq (stands_data fits h)]

/-- The offsets of bodies, counted from `base`, lead the reader through the bodies. -/
theorem placedEntriesAt_eq {base : Nat} :
    ∀ (es : List RawEntry) (start position : Nat), (∀ e ∈ es, e.Fits) →
      start + (es.map RawEntry.body).flatten.length < 0x10000000000000000 →
      Stands raw position (Abi.offsets start (es.map RawEntry.body)) →
      Stands raw (base + start) (es.map RawEntry.body).flatten →
      placedEntriesAt raw.toArray base es.length position = .ok (placed (base + start) es) := by
  intro es
  induction es with
  | nil => exact fun _ _ _ _ _ _ => rfl
  | cons e es ih =>
    intro start position fits hlen hoffsets hbodies
    -- the first offset leads to the first body, and the others are those of the bodies behind it
    have hbody : Stands raw (base + start) e.body := hbodies.left
    have hrest := hbodies.right
    have hheads := hoffsets.right
    rw [Abi.length_word] at hheads
    rw [Nat.add_assoc] at hrest
    rw [List.map_cons, List.flatten_cons, List.length_append] at hlen
    have hle := hbody.length_le
    rw [List.length_cons, placedEntriesAt,
      Buffer.targetAt_eq hoffsets.left (by omega) (by omega), ok_bind,
      placedEntryAt_eq (fits e List.mem_cons_self) hbody (by omega), ok_bind,
      ih _ _ (fun e he => fits e (List.mem_cons_of_mem _ he)) (by omega) hheads hrest,
      ← Nat.add_assoc]
    rfl

theorem map_raw_placed :
    ∀ (es : List RawEntry) (p : Nat), (∀ e ∈ es, e.Fits) →
      Stands raw p (es.map RawEntry.body).flatten →
      (placed p es).map (·.raw raw.toArray) = es := by
  intro es
  induction es with
  | nil => exact fun _ _ _ => rfl
  | cons e es ih =>
    intro p fits h
    rw [placed, List.map_cons, raw_placed (fits e List.mem_cons_self) h.left,
      ih _ (fun e he => fits e (List.mem_cons_of_mem _ he)) h.right]

/-- All byte strings together are no longer than the bodies they stand in. -/
theorem dataLength_placed_le :
    ∀ (es : List RawEntry) (p : Nat), (∀ e ∈ es, e.Fits) →
      dataLength (placed p es) ≤ (es.map RawEntry.body).flatten.length := by
  intro es
  induction es with
  | nil => exact fun _ _ => Nat.le_refl _
  | cons e es ih =>
    intro p fits
    have hrest := ih (p + e.body.length) fun e he => fits e (List.mem_cons_of_mem _ he)
    have hbody := RawEntry.length_body (fits e List.mem_cons_self)
    rw [Abi.length_padRight] at hbody
    simp only [placed, dataLength, RawEntry.placed, List.map_cons, List.flatten_cons,
      List.length_append]
    omega

/-- A list of entries takes up far more room in its data than in memory. -/
theorem mul_length_le_length_encodeRaw {es : List RawEntry} (fits : ∀ e ∈ es, e.Fits) :
    192 * es.length ≤ (encodeRaw es).length := by
  have hbodies : ∀ bodies : List RawEntry, (∀ e ∈ bodies, e.Fits) →
      160 * bodies.length ≤ (bodies.map RawEntry.body).flatten.length := by
    intro bodies
    induction bodies with
    | nil => exact fun _ => Nat.le_refl _
    | cons e bodies ih =>
      intro hfits
      have hrest := ih fun e he => hfits e (List.mem_cons_of_mem _ he)
      have hbody := RawEntry.length_body (hfits e List.mem_cons_self)
      simp only [List.map_cons, List.flatten_cons, List.length_append, List.length_cons]
      omega
  have hes := hbodies es fits
  simp only [encodeRaw, Abi.dynamicArray, List.length_append, Abi.length_offsets, List.length_map,
    Abi.length_word]
  omega

/-- Raw entries that have been written are read back, whatever stands behind them. -/
theorem readRaw_of_stands {es : List RawEntry} (fits : ∀ e ∈ es, e.Fits)
    (hlen : (encodeRaw es).length < 0x100000000) (h : Stands raw 0 (encodeRaw es)) :
    readRaw raw.toArray = .ok es := by
  have hcount := mul_length_le_length_encodeRaw fits
  have hoffset : Stands raw 0 (Abi.word 32) := h.left
  have hnumber := h.right.left.left
  have hoffsets := h.right.left.right
  have hbodies := h.right.right
  simp only [Abi.length_word, List.length_append, Abi.length_offsets, List.length_map, Nat.zero_add]
    at hnumber hoffsets hbodies
  rw [← Nat.add_assoc] at hbodies
  have hroom := hbodies.length_le
  have hbound : 32 * es.length + (es.map RawEntry.body).flatten.length < 0x10000000000000000 := by
    simp only [encodeRaw, Abi.dynamicArray, List.length_append, Abi.length_offsets,
      List.length_map, Abi.length_word] at hlen
    omega
  -- data below 2^32 bytes has too few entries for the reader to give up on their number
  have hcheck : checkLength es.length = .ok () := by
    have hfirst : ¬ Nat.pow 2 63 ≤ entryFootprint * es.length := by
      show ¬ 0x8000000000000000 ≤ 112 * es.length
      omega
    have hsecond : ¬ Nat.pow 2 47 < entryFootprint * es.length := by
      show ¬ 0x800000000000 < 112 * es.length
      omega
    rw [checkLength, if_neg hfirst, if_neg hsecond]
  have hplaced : placedEntries raw.toArray = .ok (placed (64 + 32 * es.length) es) := by
    rw [placedEntries, Buffer.targetAt_eq hoffset (by decide) (by omega), ok_bind,
      Buffer.offsetAt_eq hnumber (by omega), ok_bind, hcheck, ok_bind]
    exact placedEntriesAt_eq es _ _ fits hbound hoffsets hbodies
  -- no two byte strings overlap here, so together they fit into the data
  have hdata : ¬ raw.toArray.size < dataLength (placed (64 + 32 * es.length) es) := by
    have := dataLength_placed_le es (64 + 32 * es.length) fits
    rw [List.size_toArray]
    omega
  rw [readRaw, hplaced, ok_bind, if_neg hdata, map_raw_placed es _ fits hbodies]

end Reading

/-! ## The entries of raw entries -/

theorem addressOfWord?_word (a : Address) : addressOfWord? a.word = some a := by
  have htake : (a.word.take 12).all (· == 0) = true := by
    rw [Address.word, List.take_left' (by rw [List.length_replicate])]
    rfl
  have hdrop : a.word.drop 12 = a.bytes := by
    rw [Address.word, List.drop_left' (by rw [List.length_replicate])]
  rw [addressOfWord?, if_pos htake, dif_pos (by rw [hdrop, a.length_bytes])]
  exact congrArg some (Address.ext hdrop)

theorem amountOfWord?_word (a : Amount) : amountOfWord? a.word = some a := by
  rw [amountOfWord?, Amount.ofNat?_eq_some_iff, a.toNat_word]

theorem word_of_addressOfWord? {w : Bytes} {a : Address} (h : addressOfWord? w = some a) :
    a.word = w := by
  unfold addressOfWord? at h
  split at h
  · rename_i hzeros
    split at h
    · rename_i hlen
      cases h
      have htake : w.take 12 = List.replicate 12 0 := by
        refine List.eq_replicate_iff.mpr ⟨?_, fun b hb => ?_⟩
        · rw [List.length_drop] at hlen
          rw [List.length_take]
          omega
        · exact eq_of_beq (List.all_eq_true.mp hzeros b hb)
      show List.replicate 12 0 ++ w.drop 12 = w
      rw [← htake, List.take_append_drop]
    · cases h
  · cases h

theorem word_of_amountOfWord? {w : Bytes} {a : Amount} (hlen : w.length = 32)
    (h : amountOfWord? w = some a) : a.word = w := by
  rw [amountOfWord?, Amount.ofNat?_eq_some_iff] at h
  rw [Amount.word, h, ← hlen, BigEndian.ofNat_toNat]

theorem eq_some_ofEntry (e : RechargeEntry) : RawEntry.entry? (.ofEntry e) = some e := by
  simp only [RawEntry.entry?, RawEntry.ofEntry, addressOfWord?_word, amountOfWord?_word]

/-- A raw entry is that of the entry it denotes. -/
theorem ofEntry_of_eq_some {r : RawEntry} {e : RechargeEntry} (fits : r.Fits)
    (h : r.entry? = some e) : RawEntry.ofEntry e = r := by
  unfold RawEntry.entry? at h
  split at h
  · rename_i target amount fee htarget hamount hfee
    cases h
    -- the byte string is the same already; the words are whole, so they are those of their values
    simp only [RawEntry.ofEntry, word_of_addressOfWord? htarget,
      word_of_amountOfWord? fits.amount hamount, word_of_amountOfWord? fits.fee hfee]
  · cases h

/-! ## What is read has whole words -/

theorem fits_of_placedEntryAt {raw : Bytes} {p : Nat} {e : PlacedEntry}
    (h : placedEntryAt raw.toArray p = .ok e) : (e.raw raw.toArray).Fits := by
  obtain ⟨target, htarget, h⟩ := exists_of_bind_eq_ok h
  obtain ⟨amount, hamount, h⟩ := exists_of_bind_eq_ok h
  obtain ⟨fee, hfee, h⟩ := exists_of_bind_eq_ok h
  obtain ⟨start, -, h⟩ := exists_of_bind_eq_ok h
  obtain ⟨data, -, h⟩ := exists_of_bind_eq_ok h
  cases h
  exact ⟨Buffer.length_of_wordAt htarget, Buffer.length_of_wordAt hamount,
    Buffer.length_of_wordAt hfee⟩

theorem fits_of_placedEntriesAt {raw : Bytes} {base : Nat} :
    ∀ (count position : Nat) (es : List PlacedEntry),
      placedEntriesAt raw.toArray base count position = .ok es →
      ∀ e ∈ es, (e.raw raw.toArray).Fits := by
  intro count
  induction count with
  | zero =>
    intro position es h
    cases h
    exact fun _ he => nomatch he
  | succ count ih =>
    intro position es h
    obtain ⟨start, -, h⟩ := exists_of_bind_eq_ok h
    obtain ⟨e, he, h⟩ := exists_of_bind_eq_ok h
    obtain ⟨rest, hrest, h⟩ := exists_of_bind_eq_ok h
    cases h
    intro x hx
    rcases List.mem_cons.mp hx with rfl | hx
    · exact fits_of_placedEntryAt he
    · exact ih _ rest hrest x hx

theorem fits_of_readRaw {raw : Bytes} {es : List RawEntry} (h : readRaw raw.toArray = .ok es) :
    ∀ e ∈ es, e.Fits := by
  obtain ⟨placed, hplaced, h⟩ := exists_of_bind_eq_ok h
  obtain ⟨start, -, hplaced⟩ := exists_of_bind_eq_ok hplaced
  obtain ⟨count, -, hplaced⟩ := exists_of_bind_eq_ok hplaced
  obtain ⟨-, -, hplaced⟩ := exists_of_bind_eq_ok hplaced
  split at h
  · cases h
  · cases h
    intro e he
    obtain ⟨p, hp, rfl⟩ := List.mem_map.mp he
    exact fits_of_placedEntriesAt _ _ _ hplaced p hp

/-! ## Reading accepts exactly what is written -/

theorem mapM_map_ofEntry (xs : List RechargeEntry) :
    (xs.map RawEntry.ofEntry).mapM RawEntry.entry? = some xs := by
  induction xs with
  | nil => rfl
  | cons x xs ih => rw [List.map_cons, List.mapM_cons, eq_some_ofEntry, ih]; rfl

theorem map_ofEntry_of_mapM {es : List RawEntry} {xs : List RechargeEntry}
    (fits : ∀ e ∈ es, e.Fits) (h : es.mapM RawEntry.entry? = some xs) :
    xs.map RawEntry.ofEntry = es := by
  induction es generalizing xs with
  | nil => cases h; rfl
  | cons e es ih =>
    rw [List.mapM_cons] at h
    obtain ⟨x, hx, h⟩ := Option.bind_eq_some_iff.mp h
    obtain ⟨rest, hrest, h⟩ := Option.bind_eq_some_iff.mp h
    cases h
    rw [List.map_cons, ofEntry_of_eq_some (fits e List.mem_cons_self) hx,
      ih (fun e he => fits e (List.mem_cons_of_mem _ he)) hrest]

theorem fits_map_ofEntry (xs : List RechargeEntry) : ∀ e ∈ xs.map RawEntry.ofEntry, e.Fits := by
  intro e he
  obtain ⟨x, -, rfl⟩ := List.mem_map.mp he
  exact RawEntry.fits_ofEntry x

/-- The entries of a list are read where its data stands, whatever stands behind it. -/
theorem readRaw_of_stands_encode {raw : Bytes} {xs : List RechargeEntry}
    (hlen : (encode xs).length < 0x100000000) (h : Stands raw 0 (encode xs)) :
    readRaw raw.toArray = .ok (xs.map RawEntry.ofEntry) :=
  readRaw_of_stands (fits_map_ofEntry xs) hlen h

theorem read_encode {xs : List RechargeEntry} (hlen : (encode xs).length < 0x100000000) :
    read (encode xs) = .ok xs := by
  have hread : readRaw (encode xs).toArray = .ok (xs.map RawEntry.ofEntry) :=
    readRaw_of_stands_encode hlen (Stands.self _)
  have hsame : ¬ encodeRaw (xs.map RawEntry.ofEntry) ≠ encode xs := fun h => h rfl
  rw [read, hread, ok_bind, if_neg hsame, mapM_map_ofEntry]

theorem eq_encode_of_read {raw : Bytes} {xs : List RechargeEntry} (h : read raw = .ok xs) :
    raw = encode xs := by
  obtain ⟨es, hread, h⟩ := exists_of_bind_eq_ok h
  split at h
  · cases h
  · rename_i hsame
    split at h
    · rename_i entries hentries
      cases h
      rw [encode, map_ofEntry_of_mapM (fits_of_readRaw hread) hentries]
      exact (Decidable.not_not.mp hsame).symm
    · cases h

/-! ## The data of a request -/

theorem decode_of_read {raw : Bytes} {xs : List RechargeEntry} (h : read raw = .ok xs) :
    decode raw = .ok xs := by
  rw [decode, h]

theorem decode_encode {xs : List RechargeEntry} (hlen : (encode xs).length < 0x100000000) :
    decode (encode xs) = .ok xs :=
  decode_of_read (read_encode hlen)

theorem eq_encode_of_decode {raw : Bytes} {xs : List RechargeEntry} (h : decode raw = .ok xs) :
    raw = encode xs := by
  rw [decode] at h
  split at h
  · next entries hread =>
    cases h
    exact eq_encode_of_read hread
  · cases h

/-- Data that is not read fails a request because of its encoding. -/
theorem kind_of_decode {raw : Bytes} {fault : Fault} (h : decode raw = .error fault) :
    fault.kind = .malformedEncoding := by
  rw [decode] at h
  split at h
  · cases h
  · cases h
    rfl

/-- **The codec is strict.** Data of less than 2^32 bytes is read as a list of entries exactly if it
is what is written for that list, and data that is written for no list is malformed. -/
theorem decode_eq_ok_iff {raw : Bytes} (hlen : raw.length < 0x100000000) :
    (∀ xs, decode raw = .ok xs ↔ raw = encode xs) ∧
      ((∀ xs, raw ≠ encode xs) →
        ∃ fault, decode raw = .error fault ∧ fault.kind = .malformedEncoding) := by
  refine ⟨fun xs => ⟨eq_encode_of_decode, ?_⟩, fun hnone => ?_⟩
  · rintro rfl
    exact decode_encode hlen
  · cases hdecode : decode raw with
    | ok xs => exact absurd (eq_encode_of_decode hdecode) (hnone xs)
    | error fault => exact ⟨fault, rfl, kind_of_decode hdecode⟩

/-- One entry with a byte string that is no whole word, written out. -/
theorem decode_memo :
    let entry : RechargeEntry :=
      ⟨⟨List.replicate 20 0xaa, rfl⟩, ⟨7, by decide⟩, ⟨1, by decide⟩, [0x68, 0x69]⟩
    let raw : Bytes :=
      Abi.word 32 ++ Abi.word 1 ++ Abi.word 32 ++
        (List.replicate 12 0 ++ List.replicate 20 0xaa) ++ Abi.word 7 ++ Abi.word 1 ++
        Abi.word 128 ++ Abi.word 2 ++ ([0x68, 0x69] ++ List.replicate 30 0)
    raw.length < 0x100000000 ∧ decode raw = .ok [entry] := by
  refine ⟨by decide +kernel, ?_⟩
  exact ((decode_eq_ok_iff (by decide +kernel)).1 _).mpr (by decide +kernel)

end Recharge

end TransferRelay

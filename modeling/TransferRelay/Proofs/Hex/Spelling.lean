import TransferRelay.Hex

/-!
# Spellings in hexadecimal

`Spells cs bs` says that the characters `cs` are the digits of the bytes `bs`, two a byte and each
in either case. `Hex.decode` works on the bytes of a text; `decode_eq_ok_iff_spells` says that it
reads exactly the spellings all the same, since no character outside ASCII has a digit among its
bytes.

`Denotes` adds the mark `0x` that byte strings in parameters may have.

Two spellings are of the same bytes exactly if their digits agree up to the case of letters
(`eq_iff_map_toLower`).
-/

namespace TransferRelay.Hex

/-- The characters are the digits of the bytes, in either case. -/
inductive Spells : List Char → Bytes → Prop
  | nil : Spells [] []
  | cons {c₁ c₂ : Char} {high low : Nat} {cs : List Char} {bs : Bytes}
      (first : Text.digitOf? 16 c₁ = some high) (second : Text.digitOf? 16 c₂ = some low)
      (rest : Spells cs bs) : Spells (c₁ :: c₂ :: cs) (UInt8.ofNat (high * 16 + low) :: bs)

/-- The text is the digits of the bytes, after the mark `0x` or without it. -/
inductive Denotes (s : String) (bs : Bytes) : Prop
  | bare (digits : Spells s.toList bs)
  | marked {cs : List Char} (mark : s.toList = '0' :: 'x' :: cs) (digits : Spells cs bs)

/-! ## Characters and their bytes -/

/-- A text is read back from its bytes. -/
theorem fromUTF8?_toUTF8 (s : String) : String.fromUTF8? s.toUTF8 = some s := by
  unfold String.fromUTF8?
  rw [String.toUTF8_eq_toByteArray, dif_pos s.isValidUTF8]
  rfl

/-- The bytes of a character outside ASCII are none of ASCII. -/
theorem le_toNat_of_mem_utf8EncodeChar {c : Char} {b : UInt8} (hc : 128 ≤ c.toNat)
    (hb : b ∈ String.utf8EncodeChar c) : 128 ≤ b.toNat := by
  have hv : ¬ c.val.toNat ≤ 0x7f := by
    show ¬ c.toNat ≤ 127
    omega
  simp only [String.utf8EncodeChar, if_neg hv] at hb
  split at hb
  · simp only [List.mem_cons, List.not_mem_nil, or_false] at hb
    rcases hb with rfl | rfl <;> rw [UInt8.toNat_ofNat'] <;> omega
  · split at hb
    · simp only [List.mem_cons, List.not_mem_nil, or_false] at hb
      rcases hb with rfl | rfl | rfl <;> rw [UInt8.toNat_ofNat'] <;> omega
    · simp only [List.mem_cons, List.not_mem_nil, or_false] at hb
      rcases hb with rfl | rfl | rfl | rfl <;> rw [UInt8.toNat_ofNat'] <;> omega

theorem digit?_eq_none {b : UInt8} (hb : 128 ≤ b.toNat) : digit? b = none := by
  have h₁ : ¬ b.toNat ≤ 57 := by omega
  have h₂ : ¬ b.toNat ≤ 102 := by omega
  have h₃ : ¬ b.toNat ≤ 70 := by omega
  simp [digit?, h₁, h₂, h₃]

theorem utf8EncodeChar_of_lt {c : Char} (hc : c.toNat < 128) :
    String.utf8EncodeChar c = [UInt8.ofNat c.toNat] := by
  have hv : c.val.toNat ≤ 0x7f := by
    show c.toNat ≤ 127
    omega
  rw [String.utf8EncodeChar, if_pos hv]
  rfl

/-- What holds of the characters of ASCII by their numbers holds of each. -/
theorem forall_ascii {P : Char → Prop} (h : ∀ m : Fin 128, P (Char.ofNat m)) {c : Char}
    (hc : c.toNat < 128) : P c := by
  have hP := h ⟨c.toNat, hc⟩
  rwa [Char.ofNat_toNat] at hP

/-- Of ASCII, a byte is a digit as its character is. -/
theorem digit?_ofNat_toNat {c : Char} (hc : c.toNat < 128) :
    digit? (UInt8.ofNat c.toNat) = Text.digitOf? 16 c :=
  forall_ascii (P := fun c => digit? (UInt8.ofNat c.toNat) = Text.digitOf? 16 c)
    (by decide +kernel) hc

theorem lt_of_digitOf? {c : Char} {n : Nat} (h : Text.digitOf? 16 c = some n) : c.toNat < 128 := by
  by_cases hc : c.toNat < 128
  · exact hc
  · have hnone : Text.digitValue? c = none := by
      have h₁ : ¬ c.toNat ≤ 57 := by omega
      have h₂ : ¬ c.toNat ≤ 122 := by omega
      have h₃ : ¬ c.toNat ≤ 90 := by omega
      simp [Text.digitValue?, h₁, h₂, h₃]
    rw [Text.digitOf?, hnone] at h
    cases h

/-- A digit has one byte, which is the digit. -/
theorem utf8Chars_cons_digit {c : Char} {n : Nat} (h : Text.digitOf? 16 c = some n)
    (cs : List Char) :
    ∃ b, Text.utf8Chars (c :: cs) = b :: Text.utf8Chars cs ∧ digit? b = some n := by
  have hc := lt_of_digitOf? h
  refine ⟨UInt8.ofNat c.toNat, ?_, (digit?_ofNat_toNat hc).trans h⟩
  rw [Text.utf8Chars, List.flatMap_cons, utf8EncodeChar_of_lt hc]
  rfl

/-- The first byte of a text that is a digit is the first character. -/
theorem exists_of_utf8Chars_cons {c : Char} {cs : List Char} {b : UInt8} {rest : Bytes} {n : Nat}
    (hcs : Text.utf8Chars (c :: cs) = b :: rest) (hb : digit? b = some n) :
    Text.digitOf? 16 c = some n ∧ rest = Text.utf8Chars cs := by
  rw [Text.utf8Chars, List.flatMap_cons] at hcs
  by_cases hc : c.toNat < 128
  · rw [utf8EncodeChar_of_lt hc] at hcs
    obtain ⟨rfl, rfl⟩ := List.cons.inj hcs
    exact ⟨(digit?_ofNat_toNat hc).symm.trans hb, rfl⟩
  · -- outside ASCII the first byte is no digit
    have hmem : b ∈ String.utf8EncodeChar c := by
      cases hbytes : String.utf8EncodeChar c with
      | nil => exact absurd hbytes String.utf8EncodeChar_ne_nil
      | cons first more =>
        rw [hbytes] at hcs
        rw [(List.cons.inj hcs).1]
        exact List.mem_cons_self
    rw [digit?_eq_none (le_toNat_of_mem_utf8EncodeChar (Nat.le_of_not_lt hc) hmem)] at hb
    cases hb

/-! ## Reading spellings -/

theorem digitAt_eq_ok_iff {b : UInt8} {position n : Nat} :
    digitAt b position = .ok n ↔ digit? b = some n := by
  unfold digitAt
  cases digit? b with
  | none => exact ⟨(nomatch ·), (nomatch ·)⟩
  | some m =>
    constructor
    · intro h
      cases h
      rfl
    · intro h
      cases h
      rfl

theorem length_utf8Chars_of_spells {cs : List Char} {bs : Bytes} (h : Spells cs bs) :
    (Text.utf8Chars cs).length = 2 * bs.length := by
  induction h with
  | nil => rfl
  | cons first second rest ih =>
    obtain ⟨b₁, h₁, -⟩ := utf8Chars_cons_digit first _
    obtain ⟨b₂, h₂, -⟩ := utf8Chars_cons_digit second _
    rw [h₁, h₂]
    simp only [List.length_cons, ih]
    omega

theorem readPairs_of_spells {cs : List Char} {bs : Bytes} (h : Spells cs bs) (position : Nat)
    (done : Bytes) : readPairs position done (Text.utf8Chars cs) = .ok (done.reverse ++ bs) := by
  induction h generalizing position done with
  | nil => rw [List.append_nil]; rfl
  | cons first second rest ih =>
    obtain ⟨b₁, h₁, hdigit₁⟩ := utf8Chars_cons_digit first _
    obtain ⟨b₂, h₂, hdigit₂⟩ := utf8Chars_cons_digit second _
    rw [h₁, h₂, readPairs, digitAt_eq_ok_iff.mpr hdigit₁]
    simp only [digitAt_eq_ok_iff.mpr hdigit₂, ih, List.reverse_cons, List.append_assoc,
      List.singleton_append]

/-- What is read pair by pair is spelled by the characters. -/
theorem spells_of_readPairs :
    ∀ (cs : List Char) (position : Nat) (done bs : Bytes), (Text.utf8Chars cs).length % 2 ≠ 1 →
      readPairs position done (Text.utf8Chars cs) = .ok bs →
      ∃ rest, Spells cs rest ∧ bs = done.reverse ++ rest
  | [], position, done, bs, _, h => by
    cases h
    exact ⟨[], .nil, (List.append_nil _).symm⟩
  | c :: cs, position, done, bs, heven, h => by
    cases hbytes : Text.utf8Chars (c :: cs) with
    | nil =>
      rw [Text.utf8Chars, List.flatMap_cons] at hbytes
      exact absurd (List.append_eq_nil_iff.mp hbytes).1 String.utf8EncodeChar_ne_nil
    | cons b₁ rest₁ =>
      rw [hbytes] at h heven
      cases rest₁ with
      | nil => exact absurd rfl heven
      | cons b₂ rest₂ =>
        rw [readPairs] at h
        split at h
        · cases h
        · rename_i high hhigh
          split at h
          · cases h
          · rename_i low hlow
            -- two bytes that are digits are two characters, and an even number is left
            obtain ⟨hc, hcs⟩ := exists_of_utf8Chars_cons hbytes (digitAt_eq_ok_iff.mp hhigh)
            cases cs with
            | nil => cases hcs
            | cons c' cs =>
              obtain ⟨hc', rfl⟩ := exists_of_utf8Chars_cons hcs.symm (digitAt_eq_ok_iff.mp hlow)
              have hrest : (Text.utf8Chars cs).length % 2 ≠ 1 := by
                simp only [List.length_cons] at heven
                omega
              obtain ⟨more, hmore, rfl⟩ := spells_of_readPairs cs _ _ _ hrest h
              exact ⟨_, .cons hc hc' hmore, by simp⟩

/-- Reading accepts exactly the spellings of bytes. -/
theorem decode_eq_ok_iff_spells {cs : List Char} {bs : Bytes} :
    decode cs = .ok bs ↔ Spells cs bs := by
  constructor
  · intro h
    rw [decode, decodeUtf8] at h
    split at h
    · cases h
    · rename_i heven
      obtain ⟨rest, hrest, rfl⟩ := spells_of_readPairs cs 0 [] bs heven h
      exact hrest
  · intro h
    have hlen : 2 * bs.length % 2 ≠ 1 := by omega
    rw [decode, decodeUtf8, length_utf8Chars_of_spells h, if_neg hlen, readPairs_of_spells h]
    rfl

/-! ## The mark -/

/-- A spelling does not begin with the mark. -/
theorem stripMark_of_spells {cs : List Char} {bs : Bytes} (h : Spells cs bs) :
    stripMark cs = cs := by
  cases h with
  | nil => rfl
  | cons first second rest =>
    unfold stripMark
    split
    · -- the second digit would be the letter x
      rename_i heq
      obtain ⟨-, heq⟩ := List.cons.inj heq
      obtain ⟨rfl, -⟩ := List.cons.inj heq
      cases second
    · rfl

/-- Bytes are written as one of their spellings. -/
theorem spells_encodeChars (bs : Bytes) : Spells (encodeChars bs) bs :=
  decode_eq_ok_iff_spells.mp (decode_encodeChars bs)

/-! ## The digits of a spelling -/

theorem Spells.length {cs : List Char} {bs : Bytes} (h : Spells cs bs) :
    cs.length = 2 * bs.length := by
  induction h with
  | nil => rfl
  | cons first second rest ih =>
    simp only [List.length_cons, ih]
    omega

theorem Spells.isDigitOf {cs : List Char} {bs : Bytes} (h : Spells cs bs) :
    ∀ c ∈ cs, Text.isDigitOf 16 c = true := by
  induction h with
  | nil => exact nofun
  | cons first second rest ih =>
    refine List.forall_mem_cons.mpr ⟨?_, List.forall_mem_cons.mpr ⟨?_, ih⟩⟩
    · rw [Text.isDigitOf, first]
      rfl
    · rw [Text.isDigitOf, second]
      rfl

/-- Digits in pairs spell bytes. -/
theorem exists_spells : ∀ {count : Nat} {cs : List Char}, cs.length = 2 * count →
    (∀ c ∈ cs, Text.isDigitOf 16 c = true) → ∃ bs, bs.length = count ∧ Spells cs bs
  | 0, [], _, _ => ⟨[], rfl, .nil⟩
  | count + 1, c₁ :: c₂ :: cs, hlen, hdigits => by
    obtain ⟨h₁, hrest⟩ := List.forall_mem_cons.mp hdigits
    obtain ⟨h₂, hcs⟩ := List.forall_mem_cons.mp hrest
    obtain ⟨high, hhigh⟩ := Option.isSome_iff_exists.mp h₁
    obtain ⟨low, hlow⟩ := Option.isSome_iff_exists.mp h₂
    have hcount : cs.length = 2 * count := by
      simp only [List.length_cons] at hlen
      omega
    obtain ⟨bs, hbs, spelled⟩ := exists_spells hcount hcs
    refine ⟨_, ?_, .cons hhigh hlow spelled⟩
    rw [List.length_cons, hbs]
  | count + 1, [_], hlen, _ => by
    simp only [List.length_cons, List.length_nil] at hlen
    omega

theorem toLower_of_digitOf? {c : Char} {n : Nat} (h : Text.digitOf? 16 c = some n) :
    c.toLower = Text.digitChar n := by
  have hall : ∀ m, Text.digitOf? 16 c = some m → c.toLower = Text.digitChar m :=
    forall_ascii (P := fun c => ∀ m, Text.digitOf? 16 c = some m → c.toLower = Text.digitChar m)
      (by decide +kernel) (lt_of_digitOf? h)
  exact hall n h

/-- In small letters, digits are what is written for the bytes that they spell. -/
theorem map_toLower_of_spells {cs : List Char} {bs : Bytes} (h : Spells cs bs) :
    cs.map Char.toLower = encodeChars bs := by
  induction h with
  | nil => rfl
  | @cons c₁ c₂ high low cs bs first second rest ih =>
    have hhigh := Text.digitOf?_lt first
    have hlow := Text.digitOf?_lt second
    have hbyte : (UInt8.ofNat (high * 16 + low)).toNat = high * 16 + low := by
      rw [UInt8.toNat_ofNat']
      omega
    have hpair : bytePair (UInt8.ofNat (high * 16 + low)) =
        [Text.digitChar high, Text.digitChar low] := by
      rw [bytePair, hbyte, show (high * 16 + low) / 16 = high by omega,
        show (high * 16 + low) % 16 = low by omega]
    have hwritten : encodeChars (UInt8.ofNat (high * 16 + low) :: bs) =
        Text.digitChar high :: Text.digitChar low :: encodeChars bs := by
      rw [encodeChars, List.flatMap_cons, hpair]
      rfl
    rw [List.map_cons, List.map_cons, ih, toLower_of_digitOf? first, toLower_of_digitOf? second,
      hwritten]

/-- Two spellings are of the same bytes if they differ in the case of letters only. -/
theorem eq_iff_map_toLower {cs cs' : List Char} {bs bs' : Bytes} (h : Spells cs bs)
    (h' : Spells cs' bs') : bs = bs' ↔ cs.map Char.toLower = cs'.map Char.toLower := by
  rw [map_toLower_of_spells h, map_toLower_of_spells h']
  constructor
  · rintro rfl
    rfl
  · intro hwritten
    have hread := decode_encodeChars bs
    rw [hwritten, decode_encodeChars] at hread
    exact (Except.ok.inj hread).symm

/-! ## The number of bytes read -/

theorem length_of_readPairs {position : Nat} {done text bs : Bytes} (heven : text.length % 2 ≠ 1)
    (h : readPairs position done text = .ok bs) :
    2 * bs.length = 2 * done.length + text.length := by
  induction position, done, text using readPairs.induct with
  | case1 position done high low rest fault hfault =>
    simp only [readPairs, hfault, reduceCtorEq] at h
  | case2 position done high low rest n hn fault hfault =>
    simp only [readPairs, hn, hfault, reduceCtorEq] at h
  | case3 position done high low rest n hn m hm ih =>
    simp only [readPairs, hn, hm] at h
    simp only [List.length_cons] at heven
    have hrest := ih (by omega) h
    simp only [List.length_cons] at hrest ⊢
    omega
  | case4 text position done hshort =>
    -- fewer than two bytes, and an even number of them, are none
    cases text with
    | nil =>
      cases h
      rw [List.length_reverse]
      rfl
    | cons first rest =>
      cases rest with
      | nil => exact absurd rfl heven
      | cons second rest => exact absurd rfl (hshort first second rest)

/-- Reading gives one byte for two of the text. -/
theorem length_of_decodeUtf8 {text bs : Bytes} (h : decodeUtf8 text = .ok bs) :
    text.length = 2 * bs.length := by
  rw [decodeUtf8] at h
  split at h
  · cases h
  · next heven =>
    have hlength := length_of_readPairs heven h
    rw [List.length_nil] at hlength
    omega

/-! ## Marked spellings -/

theorem denotes_encodeMarked (bs : Bytes) : Denotes (encodeMarked bs) bs :=
  .marked (String.toList_ofList ..) (spells_encodeChars bs)

theorem decode_stripMark_eq_ok_iff {s : String} {bs : Bytes} :
    decode (stripMark s.toList) = .ok bs ↔ Denotes s bs := by
  rw [decode_eq_ok_iff_spells]
  constructor
  · intro h
    by_cases hmark : ∃ cs, s.toList = '0' :: 'x' :: cs
    · obtain ⟨cs, hcs⟩ := hmark
      rw [hcs] at h
      exact .marked hcs h
    · have hbare : stripMark s.toList = s.toList := by
        unfold stripMark
        split
        · rename_i cs hcs
          exact absurd ⟨cs, hcs⟩ hmark
        · rfl
      rw [hbare] at h
      exact .bare h
  · rintro (h | ⟨hcs, h⟩)
    · rwa [stripMark_of_spells h]
    · rw [hcs]
      exact h

end TransferRelay.Hex

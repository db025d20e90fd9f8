import TransferRelay.Text.Blank

/-!
# Text in bytes that may be no UTF-8

`Text.lossy` reads bytes as UTF-8 and puts one replacement character for each stretch that is none:
the longest start of a character that breaks off, or a single byte with which no character begins.
What is written in UTF-8 is read as it is (`lossy_utf8Chars`).
-/

namespace TransferRelay.Text

/-- The character that stands for bytes that are no UTF-8. -/
def replacement : Char :=
  Char.ofNat 0xFFFD

/-- The character at the front of bytes. -/
def charAtFront? (bs : Bytes) : Option Char :=
  (bs.take 4).toByteArray.utf8DecodeChar? 0

/-- What goes on behind the first byte of a character: the least and the greatest second byte, and
how many bytes come after it. The bounds keep out what has a shorter form, surrogates and what is
beyond the last character. -/
def secondByte? (head : UInt8) : Option (UInt8 × UInt8 × Nat) :=
  if 0xC2 ≤ head && head ≤ 0xDF then some (0x80, 0xBF, 0)
  else if head = 0xE0 then some (0xA0, 0xBF, 1)
  else if head = 0xED then some (0x80, 0x9F, 1)
  else if 0xE1 ≤ head && head ≤ 0xEF then some (0x80, 0xBF, 1)
  else if head = 0xF0 then some (0x90, 0xBF, 2)
  else if 0xF1 ≤ head && head ≤ 0xF3 then some (0x80, 0xBF, 2)
  else if head = 0xF4 then some (0x80, 0x8F, 2)
  else none

/-- Whether a byte stands inside a character. -/
def isInner (b : UInt8) : Bool :=
  0x80 ≤ b && b ≤ 0xBF

/-- How many bytes behind a first byte still belong to a character. -/
def goesOn (head : UInt8) : Bytes → Nat
  | [] => 0
  | b :: rest =>
    match secondByte? head with
    | some (least, greatest, more) =>
      if least ≤ b && b ≤ greatest then 1 + ((rest.take more).takeWhile isInner).length else 0
    | none => 0

/-- The characters of bytes, of which the first are covered by the character in front. -/
def lossyChars : (covered : Nat) → Bytes → List Char
  | _, [] => []
  | covered + 1, _ :: rest => lossyChars covered rest
  | 0, b :: rest =>
    match charAtFront? (b :: rest) with
    | some c => c :: lossyChars (c.utf8Size - 1) rest
    | none => replacement :: lossyChars (goesOn b rest) rest

/-- Bytes without the mark with which a text in UTF-8 may begin. -/
def dropMark : Bytes → Bytes
  | 0xEF :: 0xBB :: 0xBF :: rest => rest
  | bs => bs

/-- The text of bytes, with replacement characters for what is no UTF-8. -/
def lossy (bs : Bytes) : String :=
  String.ofList (lossyChars 0 bs)

/-! ## Bytes of a text -/

/-- The bytes of a text are its UTF-8 form. -/
theorem toList_toUTF8 (s : String) : s.toUTF8.data.toList = utf8 s := by
  have hbytes : s.toUTF8 = s.toList.utf8Encode := by
    rw [String.toUTF8_eq_toByteArray, ← String.toByteArray_ofList, String.ofList_toList]
  rw [hbytes, List.utf8Encode, List.data_toByteArray, List.toList_toArray]
  rfl

theorem charAtFront?_utf8EncodeChar (c : Char) (rest : Bytes) :
    charAtFront? (String.utf8EncodeChar c ++ rest) = some c := by
  have hsize : (String.utf8EncodeChar c).length ≤ 4 := by
    rw [String.length_utf8EncodeChar]
    exact c.utf8Size_le_four
  rw [charAtFront?, List.take_append, List.take_of_length_le hsize, List.toByteArray_append]
  exact ByteArray.utf8DecodeChar?_utf8EncodeChar_append

theorem lossyChars_append (bs rest : Bytes) :
    lossyChars bs.length (bs ++ rest) = lossyChars 0 rest := by
  induction bs with
  | nil => rfl
  | cons b bs ih => exact ih

theorem lossyChars_utf8EncodeChar (c : Char) (rest : Bytes) :
    lossyChars 0 (String.utf8EncodeChar c ++ rest) = c :: lossyChars 0 rest := by
  have hlength := String.length_utf8EncodeChar c
  have hfront := charAtFront?_utf8EncodeChar c rest
  cases hbytes : String.utf8EncodeChar c with
  | nil =>
    rw [hbytes] at hlength
    exact absurd hlength.symm (Nat.ne_of_gt c.utf8Size_pos)
  | cons b bs =>
    rw [hbytes] at hlength hfront
    have hcovered : c.utf8Size - 1 = bs.length := by
      rw [← hlength, List.length_cons, Nat.add_sub_cancel]
    rw [List.cons_append] at hfront ⊢
    rw [lossyChars, hfront]
    show c :: lossyChars (c.utf8Size - 1) (bs ++ rest) = _
    rw [hcovered, lossyChars_append]

/-- The mark is a character of its own, with which no other text begins. -/
theorem dropMark_utf8Chars {cs : List Char} (unmarked : cs.head? ≠ some '\uFEFF') :
    dropMark (utf8Chars cs) = utf8Chars cs := by
  unfold dropMark
  split
  · next rest hmark =>
    have hfront : charAtFront? (utf8Chars cs) = some '\uFEFF' :=
      hmark ▸ charAtFront?_utf8EncodeChar '\uFEFF' rest
    cases cs with
    | nil => cases hmark
    | cons c cs =>
      rw [utf8Chars, List.flatMap_cons, charAtFront?_utf8EncodeChar] at hfront
      exact absurd hfront unmarked
  · rfl

/-- What is written in UTF-8 is read as it is. -/
theorem lossy_utf8Chars (cs : List Char) : lossy (utf8Chars cs) = String.ofList cs := by
  refine congrArg String.ofList ?_
  induction cs with
  | nil => rfl
  | cons c cs ih => rw [utf8Chars, List.flatMap_cons, lossyChars_utf8EncodeChar, ← utf8Chars, ih]

/-- Three bytes of an emoji that breaks off, a surrogate, and a byte that begins no character. -/
example : lossy [0x61, 0xF0, 0x9F, 0x98, 0x62, 0xED, 0xA0, 0x80, 0xFF, 0xC3, 0xA9] =
    "a\uFFFDb\uFFFD\uFFFD\uFFFD\uFFFDé" := by
  decide +kernel

end TransferRelay.Text

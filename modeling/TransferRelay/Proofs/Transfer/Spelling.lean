import TransferRelay.Proofs.Hex.Spelling
import TransferRelay.Reading

/-!
# Spellings of identifiers

`TransferId.Spelling s tx` says that the text `s` is a spelling of the identifier `tx`: blanks, a
mark `0x` or `0X` or none, the 64 digits of its bytes in either case, blanks. Reading takes every
spelling of an identifier as that identifier (`parse_of_spelling`), so nothing that is read behind
it can tell two spellings apart.

Reading takes nothing else (`parse_eq_ok_iff`). A text that is no spelling has a number of bytes
other than 64 behind its mark, or it has a byte that is no digit, and it fails a request as wrong
input (`parse_eq_error_iff`).
-/

namespace TransferRelay

/-! ## Blanks -/

namespace Text

theorem dropWhile_isBlank_append {before cs : List Char} (h : ∀ c ∈ before, isBlank c = true) :
    (before ++ cs).dropWhile isBlank = cs.dropWhile isBlank := by
  induction before with
  | nil => rfl
  | cons c before ih =>
    have hc : isBlank c = true := h c List.mem_cons_self
    rw [List.cons_append, List.dropWhile_cons_of_pos hc]
    exact ih fun c' hc' => h c' (List.mem_cons_of_mem c hc')

theorem dropWhile_isBlank_of_forall {cs : List Char} (h : ∀ c ∈ cs, isBlank c = false) :
    cs.dropWhile isBlank = cs := by
  cases cs with
  | nil => rfl
  | cons c cs =>
    have hc : ¬ isBlank c = true := by
      rw [h c List.mem_cons_self]
      exact Bool.false_ne_true
    exact List.dropWhile_cons_of_neg hc

/-- Of blanks around characters that are none, trimming leaves those characters. -/
theorem trimChars_append {before inner after : List Char}
    (hbefore : ∀ c ∈ before, isBlank c = true) (hinner : ∀ c ∈ inner, isBlank c = false)
    (hafter : ∀ c ∈ after, isBlank c = true) : trimChars (before ++ inner ++ after) = inner := by
  have hback : ∀ cs : List Char, (∀ c ∈ cs, isBlank c = false) →
      ((cs ++ after).reverse.dropWhile isBlank).reverse = cs := by
    intro cs hcs
    have hrev : ∀ c ∈ after.reverse, isBlank c = true :=
      fun c hc => hafter c (List.mem_reverse.mp hc)
    have hcs' : ∀ c ∈ cs.reverse, isBlank c = false :=
      fun c hc => hcs c (List.mem_reverse.mp hc)
    rw [List.reverse_append, dropWhile_isBlank_append hrev, dropWhile_isBlank_of_forall hcs',
      List.reverse_reverse]
  rw [trimChars, List.append_assoc, dropWhile_isBlank_append hbefore]
  cases inner with
  | nil =>
    -- nothing but blanks is left, and the first pass takes them all
    have hall : (after ++ []).dropWhile isBlank = [].dropWhile isBlank :=
      dropWhile_isBlank_append hafter
    rw [List.append_nil] at hall
    rw [List.nil_append, hall]
    rfl
  | cons c inner =>
    have hc : ¬ isBlank c = true := by
      rw [hinner c List.mem_cons_self]
      exact Bool.false_ne_true
    rw [List.cons_append, List.dropWhile_cons_of_neg hc, ← List.cons_append]
    exact hback (c :: inner) hinner

/-- Trimming takes nothing but blanks. -/
theorem exists_trimChars (cs : List Char) :
    ∃ before after, cs = before ++ trimChars cs ++ after ∧
      (∀ c ∈ before, isBlank c = true) ∧ ∀ c ∈ after, isBlank c = true := by
  have hfront : cs.takeWhile isBlank ++ cs.dropWhile isBlank = cs :=
    List.takeWhile_append_dropWhile
  have hback : (cs.dropWhile isBlank).reverse.takeWhile isBlank ++
      (cs.dropWhile isBlank).reverse.dropWhile isBlank = (cs.dropWhile isBlank).reverse :=
    List.takeWhile_append_dropWhile
  refine ⟨cs.takeWhile isBlank, ((cs.dropWhile isBlank).reverse.takeWhile isBlank).reverse,
    ?_, ?_, ?_⟩
  · rw [trimChars, List.append_assoc, ← List.reverse_append, hback, List.reverse_reverse, hfront]
  · exact List.all_eq_true.mp List.all_takeWhile
  · intro c hc
    exact List.all_eq_true.mp List.all_takeWhile c (List.mem_reverse.mp hc)

/-- A text is blanks around characters of which something holds. -/
def Padded (P : List Char → Prop) (s : String) : Prop :=
  ∃ before inner after, s.toList = before ++ inner ++ after ∧
    (∀ c ∈ before, isBlank c = true) ∧ P inner ∧ ∀ c ∈ after, isBlank c = true

/-- What blanks are around is what trimming leaves, if no blank is in it. -/
theorem padded_iff {P : List Char → Prop} (solid : ∀ cs, P cs → ∀ c ∈ cs, isBlank c = false)
    {s : String} : Padded P s ↔ P (trimChars s.toList) := by
  constructor
  · rintro ⟨before, inner, after, text, blankBefore, holds, blankAfter⟩
    rw [text, trimChars_append blankBefore (solid inner holds) blankAfter]
    exact holds
  · intro holds
    obtain ⟨before, after, text, blankBefore, blankAfter⟩ := exists_trimChars s.toList
    exact ⟨before, _, after, text, blankBefore, holds, blankAfter⟩

/-- No digit is blank. -/
theorem isBlank_of_digitOf? {c : Char} {n : Nat} (h : digitOf? 16 c = some n) :
    isBlank c = false := by
  have hall : (digitOf? 16 c).isSome = true → isBlank c = false :=
    Hex.forall_ascii (P := fun c => (digitOf? 16 c).isSome = true → isBlank c = false)
      (by decide +kernel) (Hex.lt_of_digitOf? h)
  exact hall (by rw [h]; rfl)

end Text

/-! ## Digits behind a mark -/

namespace Hex

theorem isBlank_of_spells {cs : List Char} {bs : Bytes} (h : Spells cs bs) :
    ∀ c ∈ cs, Text.isBlank c = false := by
  induction h with
  | nil => exact nofun
  | cons first second rest ih =>
    exact List.forall_mem_cons.mpr ⟨Text.isBlank_of_digitOf? first,
      List.forall_mem_cons.mpr ⟨Text.isBlank_of_digitOf? second, ih⟩⟩

/-- The marks that may stand before the digits, none among them. -/
def marks : List (List Char) :=
  [[], ['0', 'x'], ['0', 'X']]

theorem exists_mark (cs : List Char) : ∃ mark ∈ marks, cs = mark ++ stripAnyMark cs := by
  unfold stripAnyMark
  split
  · exact ⟨['0', 'x'], by decide, rfl⟩
  · exact ⟨['0', 'X'], by decide, rfl⟩
  · exact ⟨[], by decide, rfl⟩

/-- A spelling does not begin with a mark. -/
theorem stripAnyMark_of_spells {cs : List Char} {bs : Bytes} (h : Spells cs bs) :
    stripAnyMark cs = cs := by
  cases h with
  | nil => rfl
  | cons first second rest =>
    unfold stripAnyMark
    -- the second digit would be a letter that is no digit
    split
    · rename_i heq
      obtain ⟨-, heq⟩ := List.cons.inj heq
      obtain ⟨rfl, -⟩ := List.cons.inj heq
      cases second
    · rename_i heq
      obtain ⟨-, heq⟩ := List.cons.inj heq
      obtain ⟨rfl, -⟩ := List.cons.inj heq
      cases second
    · rfl

theorem stripAnyMark_append {mark cs : List Char} {bs : Bytes} (hmark : mark ∈ marks)
    (h : Spells cs bs) : stripAnyMark (mark ++ cs) = cs := by
  simp only [marks, List.mem_cons, List.not_mem_nil, or_false] at hmark
  rcases hmark with rfl | rfl | rfl
  · exact stripAnyMark_of_spells h
  · rfl
  · rfl

theorem isBlank_of_mem_mark {mark : List Char} (hmark : mark ∈ marks) :
    ∀ c ∈ mark, Text.isBlank c = false := by
  intro c hc
  simp only [marks, List.mem_cons, List.not_mem_nil, or_false] at hmark
  rcases hmark with rfl | rfl | rfl <;>
    simp only [List.mem_cons, List.not_mem_nil, or_false] at hc
  · rcases hc with rfl | rfl <;> decide
  · rcases hc with rfl | rfl <;> decide

/-- Trimming leaves the digits of bytes with their mark. -/
theorem trimChars_of_spells {before mark digits after : List Char} {bs : Bytes}
    (blankBefore : ∀ c ∈ before, Text.isBlank c = true) (marked : mark ∈ marks)
    (spelled : Spells digits bs) (blankAfter : ∀ c ∈ after, Text.isBlank c = true) :
    Text.trimChars (before ++ (mark ++ digits) ++ after) = mark ++ digits := by
  refine Text.trimChars_append blankBefore ?_ blankAfter
  intro c hc
  rcases List.mem_append.mp hc with hc | hc
  · exact isBlank_of_mem_mark marked c hc
  · exact isBlank_of_spells spelled c hc

end Hex

/-! ## Identifiers -/

namespace TransferId

/-- A text is a spelling of an identifier: the digits of its bytes in either case, behind a mark or
none, with blanks around. -/
inductive Spelling (s : String) (tx : TransferId) : Prop
  | mk (before mark digits after : List Char)
      (text : s.toList = before ++ (mark ++ digits) ++ after)
      (blankBefore : ∀ c ∈ before, Text.isBlank c = true) (marked : mark ∈ Hex.marks)
      (spelled : Hex.Spells digits tx.bytes) (blankAfter : ∀ c ∈ after, Text.isBlank c = true)

/-- Every spelling of an identifier is read as that identifier. -/
theorem read_of_spelling {s : String} {tx : TransferId} (h : Spelling s tx) : read s = .ok tx := by
  obtain ⟨before, mark, digits, after, text, blankBefore, marked, spelled, blankAfter⟩ := h
  have htrim := Hex.trimChars_of_spells blankBefore marked spelled blankAfter
  have hdecode : Hex.decodeUtf8 (Text.utf8Chars digits) = .ok tx.bytes :=
    Hex.decode_eq_ok_iff_spells.mpr spelled
  unfold read
  rw [text, htrim, Hex.stripAnyMark_append marked spelled]
  simp only [hdecode]
  exact dif_pos tx.length_bytes

/-- An identifier is written as one of its spellings. -/
theorem spelling_text (tx : TransferId) : Spelling tx.text tx :=
  ⟨[], ['0', 'x'], Hex.encodeChars tx.bytes, [], by simp [text, Hex.encodeMarked], nofun,
    by simp [Hex.marks], Hex.spells_encodeChars tx.bytes, nofun⟩

/-- Two texts that are the same or spell the same identifier. -/
def SameSpelled (s s' : String) : Prop :=
  s = s' ∨ ∃ tx, Spelling s tx ∧ Spelling s' tx

/-! ## Nothing but spellings is read -/

/-- The bytes of a text without the blanks around it and without its mark. -/
def unmarked (s : String) : Bytes :=
  Text.utf8Chars (Hex.stripAnyMark (Text.trimChars s.toList))

/-- A text whose bytes are digits is a spelling of what they spell. -/
theorem spelling_of_decodeUtf8 {s : String} {tx : TransferId}
    (h : Hex.decodeUtf8 (unmarked s) = .ok tx.bytes) : Spelling s tx := by
  obtain ⟨before, after, text, blankBefore, blankAfter⟩ := Text.exists_trimChars s.toList
  obtain ⟨mark, marked, inner⟩ := Hex.exists_mark (Text.trimChars s.toList)
  rw [inner] at text
  exact ⟨before, mark, _, after, text, blankBefore, marked, Hex.decode_eq_ok_iff_spells.mp h,
    blankAfter⟩

theorem spelling_of_read {s : String} {tx : TransferId} (h : read s = .ok tx) : Spelling s tx := by
  rw [read] at h
  split at h
  · split at h <;> cases h
  · next bs hbs =>
    split at h
    · cases h
      exact spelling_of_decodeUtf8 hbs
    · cases h

/-- What is wrong with a text. The number of its bytes is judged before the bytes are. -/
inductive Wrong (s : String) : Fault → Prop
  | length (other : (unmarked s).length ≠ 64) : Wrong s (.wrongLength (unmarked s).length)
  | digits {cause : Hex.Fault} (length : (unmarked s).length = 64)
      (fault : Hex.decodeUtf8 (unmarked s) = .error cause) : Wrong s (.badHex cause)

theorem wrong_of_read {s : String} {cause : Fault} (h : read s = .error cause) :
    Wrong s cause := by
  rw [read] at h
  split at h
  · next fault hfault =>
    split at h
    · next hlength =>
      cases h
      exact .digits hlength hfault
    · next hlength =>
      cases h
      exact .length hlength
  · next bs hbs =>
    have hbytes : (unmarked s).length = 2 * bs.length := Hex.length_of_decodeUtf8 hbs
    split at h
    · cases h
    · next hlength =>
      cases h
      have hother : (unmarked s).length ≠ 64 := by omega
      exact .length hother

theorem Wrong.read_eq {s : String} {cause : Fault} (h : Wrong s cause) :
    read s = .error cause := by
  rw [read]
  split
  · next fault hfault =>
    cases h with
    | length other => exact if_neg other
    | digits length fault =>
      cases hfault.symm.trans fault
      exact if_pos length
  · next bs hbs =>
    have hbytes : (unmarked s).length = 2 * bs.length := Hex.length_of_decodeUtf8 hbs
    cases h with
    | length other =>
      have hlength : bs.length ≠ 32 := by omega
      exact dif_neg hlength
    | digits length fault => cases hbs.symm.trans fault

/-! ## The identifier of a request -/

/-- A request takes exactly the spellings. -/
theorem parse_eq_ok_iff {s : String} {tx : TransferId} : parse s = .ok tx ↔ Spelling s tx := by
  constructor
  · intro h
    rw [parse] at h
    split at h
    · next tx' hread =>
      cases h
      exact spelling_of_read hread
    · cases h
  · intro h
    rw [parse, read_of_spelling h]

/-- A text fails a request for what is wrong with it. -/
theorem parse_eq_error_iff {s : String} {fault : TransferRelay.Fault} :
    parse s = .error fault ↔ ∃ cause, Wrong s cause ∧ fault = .input (.badTx cause) := by
  constructor
  · intro h
    rw [parse] at h
    split at h
    · cases h
    · next cause hread =>
      cases h
      exact ⟨cause, wrong_of_read hread, rfl⟩
  · rintro ⟨cause, wrong, rfl⟩
    rw [parse, wrong.read_eq]

/-- What fails a request as its identifier is wrong input. -/
theorem kind_of_parse {s : String} {fault : TransferRelay.Fault} (h : parse s = .error fault) :
    fault.kind = .invalidInput := by
  obtain ⟨cause, -, rfl⟩ := parse_eq_error_iff.mp h
  rfl

/-- Every spelling of an identifier is taken for that identifier. -/
theorem parse_of_spelling {s : String} {tx : TransferId} (h : Spelling s tx) :
    parse s = .ok tx :=
  parse_eq_ok_iff.mpr h

/-- What is written for an identifier is read back. -/
theorem parse_text (tx : TransferId) : parse tx.text = .ok tx :=
  parse_of_spelling (spelling_text tx)

/-- Whether the texts are identifiers or not, they are read alike. -/
theorem parse_of_sameSpelled {s s' : String} (h : SameSpelled s s') : parse s = parse s' := by
  rcases h with rfl | ⟨tx, hs, hs'⟩
  · rfl
  · rw [parse_of_spelling hs, parse_of_spelling hs']

/-! ## The digits of a text -/

/-- A text has the digits of an identifier: it is 64 of them behind a mark or none, with blanks
around. -/
inductive HasDigits (s : String) (digits : List Char) : Prop
  | mk (before mark after : List Char) (text : s.toList = before ++ (mark ++ digits) ++ after)
      (blankBefore : ∀ c ∈ before, Text.isBlank c = true) (marked : mark ∈ Hex.marks)
      (hex : ∀ c ∈ digits, Text.isDigitOf 16 c = true) (count : digits.length = 64)
      (blankAfter : ∀ c ∈ after, Text.isBlank c = true)

theorem HasDigits.spelling {s : String} {digits : List Char} {tx : TransferId}
    (h : HasDigits s digits) (spelled : Hex.Spells digits tx.bytes) : Spelling s tx := by
  obtain ⟨before, mark, after, text, blankBefore, marked, -, -, blankAfter⟩ := h
  exact ⟨before, mark, digits, after, text, blankBefore, marked, spelled, blankAfter⟩

/-- A spelling of an identifier has digits that spell its bytes. -/
theorem spelling_iff {s : String} {tx : TransferId} :
    Spelling s tx ↔ ∃ digits, HasDigits s digits ∧ Hex.Spells digits tx.bytes := by
  constructor
  · rintro ⟨before, mark, digits, after, text, blankBefore, marked, spelled, blankAfter⟩
    have hcount : digits.length = 64 := by
      rw [spelled.length, tx.length_bytes]
    exact ⟨digits, ⟨before, mark, after, text, blankBefore, marked, spelled.isDigitOf, hcount,
      blankAfter⟩, spelled⟩
  · rintro ⟨digits, hdigits, spelled⟩
    exact hdigits.spelling spelled

/-- A text that has digits is read, and its digits spell what is read. -/
theorem HasDigits.exists_parse {s : String} {digits : List Char} (h : HasDigits s digits) :
    ∃ tx : TransferId, parse s = .ok tx ∧ Hex.Spells digits tx.bytes := by
  obtain ⟨before, mark, after, text, blankBefore, marked, hex, count, blankAfter⟩ := id h
  have hpairs : digits.length = 2 * 32 := count
  obtain ⟨bs, hlength, spelled⟩ := Hex.exists_spells hpairs hex
  exact ⟨⟨bs, hlength⟩, parse_of_spelling (h.spelling spelled), spelled⟩

/-- Two texts that have digits are read as one identifier exactly if the digits agree up to the case
of letters. -/
theorem exists_parse_parse_iff {s s' : String} {digits digits' : List Char}
    (h : HasDigits s digits) (h' : HasDigits s' digits') :
    (∃ tx, parse s = .ok tx ∧ parse s' = .ok tx) ↔
      digits.map Char.toLower = digits'.map Char.toLower := by
  obtain ⟨tx, hread, spelled⟩ := h.exists_parse
  obtain ⟨tx', hread', spelled'⟩ := h'.exists_parse
  rw [← Hex.eq_iff_map_toLower spelled spelled']
  constructor
  · rintro ⟨both, hboth, hboth'⟩
    obtain rfl : tx = both := Except.ok.inj (hread.symm.trans hboth)
    obtain rfl : tx' = tx := Except.ok.inj (hread'.symm.trans hboth')
    rfl
  · intro hbytes
    obtain rfl : tx = tx' := TransferId.ext hbytes
    exact ⟨tx, hread, hread'⟩

/-- **Reading accepts exactly the spellings of identifiers.** A text that is none is refused as
wrong input, for the number of its bytes or for one of them; 64 bytes are never read as another
number of bytes than 32. What is written for an identifier is read back, and texts are read as one
identifier exactly if their digits agree up to the case of letters. -/
theorem parse_spellings (s : String) :
    (∀ tx, parse s = .ok tx ↔ ∃ digits, HasDigits s digits ∧ Hex.Spells digits tx.bytes) ∧
      ((¬ ∃ digits, HasDigits s digits) →
        ∃ fault cause, parse s = .error fault ∧ fault.kind = .invalidInput ∧ Wrong s cause ∧
          fault = .input (.badTx cause)) ∧
      ((unmarked s).length = 64 →
        ∀ bs, Hex.decodeUtf8 (unmarked s) = .ok bs → bs.length = 32) ∧
      (∀ tx : TransferId, parse tx.text = .ok tx) ∧
      ∀ s' digits digits', HasDigits s digits → HasDigits s' digits' →
        ((∃ tx, parse s = .ok tx ∧ parse s' = .ok tx) ↔
          digits.map Char.toLower = digits'.map Char.toLower) := by
  refine ⟨?_, ?_, ?_, parse_text, ?_⟩
  · intro tx
    rw [parse_eq_ok_iff, spelling_iff]
  · intro hnone
    cases hparse : parse s with
    | error fault =>
      obtain ⟨cause, wrong, hfault⟩ := parse_eq_error_iff.mp hparse
      exact ⟨fault, cause, rfl, kind_of_parse hparse, wrong, hfault⟩
    | ok tx =>
      obtain ⟨digits, hdigits, -⟩ := spelling_iff.mp (parse_eq_ok_iff.mp hparse)
      exact absurd ⟨digits, hdigits⟩ hnone
  · intro hlength bs hbs
    have hbytes := Hex.length_of_decodeUtf8 hbs
    omega
  · intro s' digits digits' h h'
    exact exists_parse_parse_iff h h'

/-- One hash in capitals behind a mark, with an ideographic space and a line end around it, and in
small letters; and 64 bytes of characters that are no digits. -/
theorem parse_spellings_of_one_hash :
    let zeros := List.replicate 56 '0'
    let s := String.ofList (['\u3000', '0', 'X', 'D', 'E', 'A', 'D', 'B', 'E', 'E', 'F'] ++ zeros ++
      ['\n'])
    let s' := String.ofList (['d', 'e', 'a', 'd', 'b', 'e', 'e', 'f'] ++ zeros)
    let accented := String.ofList (List.replicate 32 'é')
    (∃ tx, parse s = .ok tx ∧ parse s' = .ok tx) ∧
      (unmarked accented).length = 64 ∧
      ∃ fault, parse accented = .error fault ∧ fault.kind = .invalidInput := by
  intro zeros s s' accented
  have digits : HasDigits s (['D', 'E', 'A', 'D', 'B', 'E', 'E', 'F'] ++ zeros) :=
    ⟨['\u3000'], ['0', 'X'], ['\n'], String.toList_ofList, List.all_eq_true.mp (by decide),
      by decide, List.all_eq_true.mp (by decide), rfl, List.all_eq_true.mp (by decide)⟩
  have digits' : HasDigits s' (['d', 'e', 'a', 'd', 'b', 'e', 'e', 'f'] ++ zeros) :=
    ⟨[], [], [], String.toList_ofList, nofun, by decide, List.all_eq_true.mp (by decide), rfl,
      nofun⟩
  have none : ¬ ∃ digits, HasDigits accented digits := by
    rintro ⟨digits, before, mark, after, text, -, -, -, count, -⟩
    have hlength := congrArg List.length text
    rw [String.toList_ofList, List.length_replicate, List.length_append, List.length_append,
      List.length_append] at hlength
    omega
  obtain ⟨-, refused, -, -, -⟩ := parse_spellings accented
  obtain ⟨-, -, -, -, alike⟩ := parse_spellings s
  obtain ⟨fault, -, hfault, hkind, -, -⟩ := refused none
  exact ⟨(alike s' _ _ digits digits').mpr (by decide), by decide, fault, hfault, hkind⟩

end TransferId

end TransferRelay

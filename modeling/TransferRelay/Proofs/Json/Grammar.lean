import TransferRelay.Json.Reader
import TransferRelay.Json.Text
import TransferRelay.Proofs.Text.Digits

/-!
# The grammar of JSON

`Spells depth cs value` says which texts stand for a value, apart from how they are read: numbers by
their digits, strings with their escapes, arrays and objects with gaps between all tokens, at most
`depth` of them inside each other. The last of the members with one name counts. An object whose one
member announces a value held as text stands for that value.
-/

namespace TransferRelay.Json

/-! ## Strings -/

/-- A character that stands for itself in a string. -/
def IsPlain (c : Char) : Prop :=
  c ≠ '"' ∧ c ≠ '\\' ∧ ¬c.toNat < 0x20

/-- Four hexadecimal digits and their number. -/
inductive FourDigits (cs : List Char) (n : Nat) : Prop
  | mk {ds : List Nat} (digits : Text.Digits 16 cs ds) (four : cs.length = 4)
      (value : n = Text.ofDigits 16 ds)

/-- What stands for one character in a string. -/
inductive CharText : List Char → Char → Prop
  | plain {c : Char} (plain : IsPlain c) : CharText [c] c
  | letter {c e : Char} (escaped : QuotedString.escaped? c = some e) : CharText ['\\', c] e
  | number {cs : List Char} {n : Nat} (digits : FourDigits cs n)
      (noHigh : QuotedString.isHighHalf n = false) (noLow : QuotedString.isLowHalf n = false) :
      CharText ('\\' :: 'u' :: cs) (Char.ofNat n)
  | pair {cs cs' : List Char} {high low : Nat} (first : FourDigits cs high)
      (isHigh : QuotedString.isHighHalf high = true) (second : FourDigits cs' low)
      (isLow : QuotedString.isLowHalf low = true) :
      CharText ('\\' :: 'u' :: cs ++ '\\' :: 'u' :: cs')
        (Char.ofNat (0x10000 + (high - 0xD800) * 0x400 + (low - 0xDC00)))

/-- What stands for characters in a string. -/
inductive CharsText : List Char → List Char → Prop
  | nil : CharsText [] []
  | cons {c : Char} {cs cs' s : List Char} (first : CharText cs c) (rest : CharsText cs' s) :
      CharsText (cs ++ cs') (c :: s)

/-- A string in quotation marks. -/
inductive StringText : List Char → String → Prop
  | mk {inner : List Char} {s : String} (chars : CharsText inner s.toList) :
      StringText ('"' :: inner ++ ['"']) s

theorem digitOf?_digitChar {m : Nat} (h : m < 16) :
    Text.digitOf? 16 (Text.digitChar m) = some m := by
  have hall : ∀ m : Fin 16, Text.digitOf? 16 (Text.digitChar m) = some m.val := by decide
  exact hall ⟨m, h⟩

/-- What is written for a character in a string stands for it. -/
theorem charText_escape (c : Char) : CharText (escape c) c := by
  unfold escape
  split_ifs with quote backslash _ _ _ _ _ control
  any_goals
    subst c
    exact .letter rfl
  · have hdigits : Text.Digits 16
        ['0', '0', Text.digitChar (c.toNat / 16), Text.digitChar (c.toNat % 16)]
        [0, 0, c.toNat / 16, c.toNat % 16] :=
      .cons rfl (.cons rfl (.cons (digitOf?_digitChar (by omega))
        (.cons (digitOf?_digitChar (by omega)) .nil)))
    have hvalue : c.toNat = Text.ofDigits 16 [0, 0, c.toNat / 16, c.toNat % 16] := by
      show c.toNat = ((0 * 16 + 0) * 16 + 0 + c.toNat / 16) * 16 + c.toNat % 16
      omega
    have hhigh : QuotedString.isHighHalf c.toNat = false := by
      simp [QuotedString.isHighHalf]
      omega
    have hlow : QuotedString.isLowHalf c.toNat = false := by
      simp [QuotedString.isLowHalf]
      omega
    have hchar := CharText.number ⟨hdigits, rfl, hvalue⟩ hhigh hlow
    rwa [Char.ofNat_toNat] at hchar
  · exact .plain ⟨quote, backslash, control⟩

/-- What is written for a string stands for it. -/
theorem stringText_quoted (s : String) : StringText (quoted s) s := by
  refine .mk ?_
  induction s.toList with
  | nil => exact .nil
  | cons c cs ih => exact .cons (charText_escape c) ih

/-! ## Numbers -/

/-- A minus or nothing. -/
inductive SignText : Bool → List Char → Prop
  | none : SignText false []
  | minus : SignText true ['-']

/-- Digits before the point. The first of several is not zero. -/
inductive IntegerText : List Nat → List Char → Prop
  | zero : IntegerText [0] ['0']
  | digits {c : Char} {cs : List Char} {d : Nat} {ds : List Nat}
      (first : Text.digitOf? 10 c = some d) (lead : d ≠ 0) (rest : Text.Digits 10 cs ds) :
      IntegerText (d :: ds) (c :: cs)

/-- A point and digits behind it, or nothing. -/
inductive FractionText : List Nat → List Char → Prop
  | none : FractionText [] []
  | digits {cs : List Char} {ds : List Nat} (digits : Text.Digits 10 cs ds) (nonempty : ds ≠ []) :
      FractionText ds ('.' :: cs)

/-- A sign of an exponent, which may be left out. -/
inductive ExponentSign : Bool → List Char → Prop
  | none : ExponentSign false []
  | plus : ExponentSign false ['+']
  | minus : ExponentSign true ['-']

/-- An exponent behind its mark, or nothing. Beyond the greatest exponent all are one, and stand
only where they do not make a number too large. -/
inductive ExponentText (n : Numeral) : List Char → Prop
  | none (sign : n.exponentNegative = false) (absent : n.exponent = none) : ExponentText n []
  | digits {mark : Char} {sign cs : List Char} {ds : List Nat} (marked : mark = 'e' ∨ mark = 'E')
      (signed : ExponentSign n.exponentNegative sign) (digits : Text.Digits 10 cs ds)
      (nonempty : ds ≠ [])
      (held : Text.ofDigits 10 ds ≤ Numeral.maxExponent ∨ n.exponentNegative = true ∨
        n.isZero = true)
      (value : n.exponent = some (min (Text.ofDigits 10 ds) (Numeral.maxExponent + 1))) :
      ExponentText n (mark :: sign ++ cs)

/-- A numeral with all its parts. -/
inductive NumeralText (n : Numeral) : List Char → Prop
  | mk {cs₁ cs₂ cs₃ cs₄ : List Char} (sign : SignText n.negative cs₁)
      (integer : IntegerText n.integer cs₂) (fraction : FractionText n.fraction cs₃)
      (exponent : ExponentText n cs₄) : NumeralText n (cs₁ ++ (cs₂ ++ (cs₃ ++ cs₄)))

/-! ## Values -/

/-- Characters that may stand between tokens. -/
def IsGap (cs : List Char) : Prop :=
  ∀ c ∈ cs, Reader.isGap c = true

/-- A token with gaps around it. -/
inductive InGaps (token : List Char) : List Char → Prop
  | token : InGaps token token
  | before {c : Char} {cs : List Char} (gap : Reader.isGap c = true) (rest : InGaps token cs) :
      InGaps token (c :: cs)
  | behind {c : Char} {cs : List Char} (rest : InGaps token cs) (gap : Reader.isGap c = true) :
      InGaps token (cs ++ [c])

theorem InGaps.exists_append {token cs : List Char} (h : InGaps token cs) :
    ∃ front back, IsGap front ∧ IsGap back ∧ cs = front ++ (token ++ back) := by
  induction h with
  | token => exact ⟨[], [], nofun, nofun, by simp⟩
  | before gap _ ih =>
    obtain ⟨front, back, hfront, hback, rfl⟩ := ih
    exact ⟨_ :: front, back, List.forall_mem_cons.mpr ⟨gap, hfront⟩, hback, rfl⟩
  | @behind c _ _ gap ih =>
    obtain ⟨front, back, hfront, hback, rfl⟩ := ih
    have hlast : IsGap [c] := List.forall_mem_singleton.mpr gap
    exact ⟨front, back ++ [c], hfront, List.forall_mem_append.mpr ⟨hback, hlast⟩, by simp⟩

/-- The names of values. -/
inductive LiteralText : List Char → Json → Prop
  | null : LiteralText ['n', 'u', 'l', 'l'] .null
  | true : LiteralText ['t', 'r', 'u', 'e'] (.bool true)
  | false : LiteralText ['f', 'a', 'l', 's', 'e'] (.bool false)

/-- A value as it is written. -/
structure Written where
  text : List Char
  value : Json

/-- A member of an object as it is written, with its name in `label`. -/
structure WrittenMember extends Written where
  name : String
  label : List Char

namespace WrittenMember

/-- The label and the value with a colon between them. -/
def chars (m : WrittenMember) : List Char :=
  m.label ++ ':' :: m.text

/-- The name and the value. -/
def pair (m : WrittenMember) : String × Json :=
  (m.name, m.value)

/-- The label of a member is its name in quotation marks. -/
def Labelled (m : WrittenMember) : Prop :=
  ∃ token, InGaps token m.label ∧ StringText token m.name

end WrittenMember

/-- The text of an array with these items. -/
def arrayText (items : List Written) : List Char :=
  '[' :: [','].intercalate (items.map Written.text) ++ [']']

/-- The text of an object with these members. -/
def objectText (members : List WrittenMember) : List Char :=
  '\x7b' :: [','].intercalate (members.map WrittenMember.chars) ++ ['\x7d']

/-- A text spells a value, with at most so many arrays and objects inside each other. -/
inductive Spells : (depth : Nat) → List Char → Json → Prop
  | literal {depth : Nat} {cs : List Char} {value : Json} (literal : LiteralText cs value) :
      Spells depth cs value
  | number {depth : Nat} {cs : List Char} {numeral : Numeral} {n : Number}
      (parts : NumeralText numeral cs) (value : Number.ofNumeral? numeral = some n) :
      Spells depth cs (.num n)
  | string {depth : Nat} {cs : List Char} {s : String} (string : StringText cs s) :
      Spells depth cs (.str s)
  | noItems {depth : Nat} {cs : List Char} (gap : IsGap cs) :
      Spells (depth + 1) ('[' :: cs ++ [']']) (.arr [])
  | items {depth : Nat} {items : List Written} (nonempty : items ≠ [])
      (each : ∀ item ∈ items, Spells depth item.text item.value) :
      Spells (depth + 1) (arrayText items) (.arr (items.map Written.value))
  | noMembers {depth : Nat} {cs : List Char} (gap : IsGap cs) :
      Spells (depth + 1) ('\x7b' :: cs ++ ['\x7d']) (.obj [])
  | members {depth : Nat} {first : WrittenMember} {rest : List WrittenMember}
      (plain : first.name ≠ embeddedName) (labelled : ∀ m ∈ first :: rest, m.Labelled)
      (each : ∀ m ∈ first :: rest, Spells depth m.text m.value) :
      Spells (depth + 1) (objectText (first :: rest))
        (.object ((first :: rest).map WrittenMember.pair))
  | embedded {depth : Nat} {m : WrittenMember} {token : List Char} {s : String} {value : Json}
      (announced : m.name = embeddedName) (labelled : m.Labelled) (gaps : InGaps token m.text)
      (string : StringText token s) (held : Spells maxDepth s.toList value) :
      Spells (depth + 1) (objectText [m]) value
  | gaps {depth : Nat} {token cs : List Char} {value : Json} (gaps : InGaps token cs)
      (spelled : Spells depth token value) : Spells depth cs value

/-- What is inside so many arrays and objects is inside more of them as well. -/
theorem Spells.mono {depth depth' : Nat} {cs : List Char} {value : Json} (h : Spells depth cs value)
    (hle : depth ≤ depth') : Spells depth' cs value := by
  induction h generalizing depth' with
  | literal literal => exact .literal literal
  | number parts value => exact .number parts value
  | string string => exact .string string
  | gaps gaps _ ih => exact .gaps gaps (ih hle)
  | noItems gap =>
    obtain ⟨depth', rfl⟩ := Nat.exists_eq_add_of_lt hle
    exact .noItems gap
  | items nonempty _ ih =>
    obtain ⟨depth', rfl⟩ := Nat.exists_eq_add_of_lt hle
    exact .items nonempty fun item hitem => ih item hitem (Nat.le_add_right _ _)
  | noMembers gap =>
    obtain ⟨depth', rfl⟩ := Nat.exists_eq_add_of_lt hle
    exact .noMembers gap
  | members plain labelled _ ih =>
    obtain ⟨depth', rfl⟩ := Nat.exists_eq_add_of_lt hle
    exact .members plain labelled fun m hm => ih m hm (Nat.le_add_right _ _)
  | embedded announced labelled gaps string held _ =>
    obtain ⟨depth', rfl⟩ := Nat.exists_eq_add_of_lt hle
    exact .embedded announced labelled gaps string held

end TransferRelay.Json

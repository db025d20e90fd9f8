import TransferRelay.Text.Split

/-!
# Labels in ASCII

A label with characters beyond ASCII is written in ASCII as its ASCII characters, a hyphen, and then
the other characters in the order of their code points. Each of these is a number in digits of base
36, the least digit first: how far the pair of code point and place in the label moves on from the
one before. The digit that ends a number is one below a threshold that adapts to the numbers read.
-/

namespace TransferRelay.DomainName.Punycode

/-- The value of a digit: the letters in either case and then the figures. -/
def digit? (c : Char) : Option Nat :=
  let n := c.toNat
  if 0x61 ≤ n && n ≤ 0x7A then some (n - 0x61)
  else if 0x41 ≤ n && n ≤ 0x5A then some (n - 0x41)
  else if 0x30 ≤ n && n ≤ 0x39 then some (n - 0x30 + 26)
  else none

/-- The threshold at a place, which goes up by 36 from digit to digit. -/
def threshold (bias place : Nat) : Nat :=
  if place ≤ bias then 1 else if bias + 26 ≤ place then 26 else place - bias

/-- Numbers stay below this limit. -/
def limit : Nat := Nat.pow 2 32

/-- Reads a number: its sum with `total`, and the text behind it. -/
def number? (bias place weight total : Nat) : List Char → Option (Nat × List Char)
  | [] => none
  | c :: cs =>
    match digit? c with
    | none => none
    | some d =>
      let total := total + d * weight
      let t := threshold bias place
      if limit ≤ total then none
      else if d < t then some (total, cs)
      else if limit ≤ weight * (36 - t) then none
      else number? bias (place + 36) (weight * (36 - t)) total cs

theorem length_of_number? {bias place weight total : Nat} {cs : List Char} {r : Nat × List Char}
    (h : number? bias place weight total cs = some r) : r.2.length < cs.length := by
  induction cs generalizing place weight total with
  | nil => simp [number?] at h
  | cons c cs ih =>
    simp only [number?] at h
    split at h
    · simp at h
    · split at h
      · simp at h
      · split at h
        · cases h
          simp
        · split at h
          · simp at h
          · have := ih h
            simp only [List.length_cons]
            omega

/-- Divides by 35 until a number is small, and counts 36 for each division. -/
def shrink (n count : Nat) : Nat × Nat :=
  if 455 < n then shrink (n / 35) (count + 36) else (n, count)
termination_by n
decreasing_by exact Nat.div_lt_self (by omega) (by omega)

/-- The bias after a number has been read; `points` is the length of the label with its
character. -/
def adapt (number points : Nat) (first : Bool) : Nat :=
  let n := if first then number / 700 else number / 2
  let (n, count) := shrink (n + n / points) 0
  count + 36 * n / (n + 38)

/-- Whether a number is a code point of a character. -/
def isCodePoint (n : Nat) : Bool :=
  n < 0xD800 || (0xDFFF < n && n < 0x110000)

/-- Puts characters into a label. The last one put in had the code point `code` and stands in front
of the place `place`. -/
def insertAll? (code place bias : Nat) (label : List Char) (cs : List Char) : Option (List Char) :=
  match cs with
  | [] => some label
  | c :: cs =>
    match _h : number? bias 36 1 place (c :: cs) with
    | none => none
    | some (total, rest) =>
      let points := label.length + 1
      let code := code + total / points
      let spot := total % points
      if isCodePoint code then
        insertAll? code (spot + 1) (adapt (total - place) points (place == 0))
          (label.insertIdx spot (Char.ofNat code)) rest
      else none
termination_by cs.length
decreasing_by
  have := length_of_number? _h
  simpa using this

/-- The text in front of the last hyphen and the text behind it. Without a hyphen, or with one at
the very front, nothing is in front. -/
def splitBasic (cs : List Char) : List Char × List Char :=
  let behind := (cs.reverse.takeWhile (· ≠ '-')).reverse
  let front := cs.take (cs.length - behind.length - 1)
  if front.isEmpty then ([], cs) else (front, behind)

/-- The label that a text in ASCII writes. -/
def decode? (cs : List Char) : Option (List Char) :=
  let (basic, rest) := splitBasic cs
  insertAll? 0x80 0 72 (basic.map Char.toLower) rest

end TransferRelay.DomainName.Punycode

/-!
# White space

`Text.isBlank` is the Unicode `White_Space` property and `Text.trim` removes such characters at
both ends of a text. `Text.utf8` is the byte form of a text, in which lengths and positions of
hexadecimal text are counted.
-/

namespace TransferRelay

/-- A string of bytes. -/
abbrev Bytes := List UInt8

namespace Text

/-- The characters with the Unicode property `White_Space`. -/
def isBlank (c : Char) : Bool :=
  let n := c.toNat
  (0x9 ≤ n && n ≤ 0xD) || n == 0x20 || n == 0x85 || n == 0xA0 || n == 0x1680 ||
    (0x2000 ≤ n && n ≤ 0x200A) || n == 0x2028 || n == 0x2029 || n == 0x202F || n == 0x205F ||
    n == 0x3000

/-- A character list without the blank characters at its two ends. -/
def trimChars (cs : List Char) : List Char :=
  ((cs.dropWhile isBlank).reverse.dropWhile isBlank).reverse

/-- A text without the blank characters at its two ends. -/
def trim (s : String) : String :=
  String.ofList (trimChars s.toList)

/-- Whether a text holds nothing but blank characters. -/
def isAllBlank (s : String) : Bool :=
  s.toList.all isBlank

/-- The UTF-8 bytes of a character list. -/
def utf8Chars (cs : List Char) : Bytes :=
  cs.flatMap String.utf8EncodeChar

/-- The UTF-8 bytes of a text. -/
def utf8 (s : String) : Bytes :=
  utf8Chars s.toList

end Text

end TransferRelay

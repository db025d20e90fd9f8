import TransferRelay.BigEndian
import TransferRelay.Hex

/-!
# Transfer identifiers

A `TransferId` is the 32-byte hash under which the ledger records that a transfer is complete.
Clients spell it with or without a mark `0x` or `0X`, in digits of either case and with blanks
around it; `TransferId.read` gives all spellings of one hash the same identifier, and
`TransferId.text` is the lowercase spelling with the mark.
-/

namespace TransferRelay

/-- A transfer identifier. -/
structure TransferId where
  bytes : Bytes
  length_bytes : bytes.length = 32
deriving DecidableEq

namespace TransferId

@[ext]
theorem ext {a b : TransferId} (h : a.bytes = b.bytes) : a = b := by
  cases a; cases b; cases h; rfl

/-- Why a text is no identifier. -/
inductive Fault
  /-- The text has another number of bytes than 64. -/
  | wrongLength (got : Nat)
  /-- The text is not hexadecimal. -/
  | badHex (cause : Hex.Fault)
deriving DecidableEq, Repr

/-- The wording of a fault. -/
def Fault.message : Fault → String
  | .wrongLength got =>
    "transaction hash must be 32 bytes (64 hex chars), got " ++ toString got ++ " chars"
  | .badHex cause => "invalid transaction hash: " ++ cause.message

/-- Reads an identifier. -/
def read (s : String) : Except Fault TransferId :=
  let digits := Text.utf8Chars (Hex.stripAnyMark (Text.trimChars s.toList))
  match Hex.decodeUtf8 digits with
  | .error cause =>
    if digits.length = 64 then .error (.badHex cause) else .error (.wrongLength digits.length)
  | .ok bs => if h : bs.length = 32 then .ok ⟨bs, h⟩ else .error (.wrongLength digits.length)

/-- The lowercase spelling with the mark `0x`. -/
def text (t : TransferId) : String :=
  Hex.encodeMarked t.bytes

/-- The order of identifiers is that of the numbers they denote. -/
def le (a b : TransferId) : Bool :=
  BigEndian.toNat a.bytes ≤ BigEndian.toNat b.bytes

/-- Adjacent repetitions removed. -/
def dropRepeats : List TransferId → List TransferId
  | a :: b :: rest => if a = b then dropRepeats (b :: rest) else a :: dropRepeats (b :: rest)
  | ts => ts

/-- The distinct identifiers of a list in ascending order. -/
def sortDistinct (ts : List TransferId) : List TransferId :=
  dropRepeats (ts.mergeSort le)

end TransferId

end TransferRelay

import TransferRelay.Abi.Buffer
import TransferRelay.Address
import TransferRelay.Amount

/-!
# Recharge entries

A recharge credits a list of entries, each an address, an amount, a fee and a byte string. The
contract stores the list as data of the type `(address,uint256,uint256,bytes)[]`.

* `Recharge.encode` writes a list of entries.
* `Recharge.read` reads one and accepts nothing but what `encode` writes: it reads the words,
  writes them again and compares.
-/

namespace TransferRelay

/-- One entry of a recharge. -/
structure RechargeEntry where
  target : Address
  amount : Amount
  fee : Amount
  data : Bytes
deriving DecidableEq

namespace Recharge

/-- The words of an entry as they stand in contract data. -/
structure RawEntry where
  target : Bytes
  amount : Bytes
  fee : Bytes
  data : Bytes
deriving DecidableEq

/-- The words of an entry. -/
def RawEntry.ofEntry (e : RechargeEntry) : RawEntry :=
  ⟨e.target.word, e.amount.word, e.fee.word, e.data⟩

/-- The body of an entry: three words, the offset of the byte string and the byte string. -/
def RawEntry.body (e : RawEntry) : Bytes :=
  e.target ++ e.amount ++ e.fee ++ Abi.word 128 ++ Abi.dynamicBytes e.data

/-- Contract data of raw entries. -/
def encodeRaw (es : List RawEntry) : Bytes :=
  Abi.word 32 ++ Abi.dynamicArray (es.map RawEntry.body)

/-- Contract data of a list of entries. -/
def encode (es : List RechargeEntry) : Bytes :=
  encodeRaw (es.map RawEntry.ofEntry)

/-! ## Reading -/

/-- The size of one entry in memory, which bounds the length of a list. -/
def entryFootprint : Nat := 112

/-- Judges the length of a list before any entry is read. -/
def checkLength (count : Nat) : Except Abi.Fault Unit :=
  if Nat.pow 2 63 ≤ entryFootprint * count then .error .tooManyEntries
  else if Nat.pow 2 47 < entryFootprint * count then .error .outOfMemory
  else .ok ()

/-- The words of an entry as they stand in a buffer, and where its byte string stands. -/
structure PlacedEntry where
  target : Bytes
  amount : Bytes
  fee : Bytes
  data : Abi.Region
deriving DecidableEq

/-- The words of an entry with its byte string. -/
def PlacedEntry.raw (buf : Abi.Buffer) (e : PlacedEntry) : RawEntry :=
  ⟨e.target, e.amount, e.fee, buf.bytes e.data⟩

/-- The entry at a position. -/
def placedEntryAt (buf : Abi.Buffer) (position : Nat) : Except Abi.Fault PlacedEntry := do
  let target ← buf.wordAt position
  let amount ← buf.wordAt (position + 32)
  let fee ← buf.wordAt (position + 64)
  let start ← buf.targetAt position (position + 96)
  let data ← buf.regionAt start
  pure ⟨target, amount, fee, data⟩

/-- The entries whose offsets, counted from `base`, stand from `position` on. -/
def placedEntriesAt (buf : Abi.Buffer) (base : Nat) :
    (count : Nat) → (position : Nat) → Except Abi.Fault (List PlacedEntry)
  | 0, _ => pure []
  | count + 1, position => do
    let start ← buf.targetAt base position
    let e ← placedEntryAt buf start
    let es ← placedEntriesAt buf base count (position + 32)
    pure (e :: es)

/-- The entries of contract data. -/
def placedEntries (buf : Abi.Buffer) : Except Abi.Fault (List PlacedEntry) := do
  let start ← buf.targetAt 0 0
  let count ← buf.offsetAt start
  checkLength count
  placedEntriesAt buf (start + 32) count (start + 32)

/-- The length of all byte strings. Entries may share one. -/
def dataLength : List PlacedEntry → Nat
  | [] => 0
  | e :: es => e.data.length + dataLength es

/-- The raw entries of contract data. Byte strings that are longer than the data as a whole are
none that `encode` has written. -/
def readRaw (buf : Abi.Buffer) : Except Abi.Fault (List RawEntry) := do
  let es ← placedEntries buf
  if buf.size < dataLength es then .error .notCanonical else .ok (es.map (·.raw buf))

/-- A word of contract data as an address. -/
def addressOfWord? (w : Bytes) : Option Address :=
  if (w.take 12).all (· == 0) then
    if h : (w.drop 12).length = 20 then some ⟨w.drop 12, h⟩ else none
  else none

/-- A word of contract data as an amount. -/
def amountOfWord? (w : Bytes) : Option Amount :=
  Amount.ofNat? (BigEndian.toNat w)

/-- The entry of raw words, if the address fits. -/
def RawEntry.entry? (e : RawEntry) : Option RechargeEntry :=
  match addressOfWord? e.target, amountOfWord? e.amount, amountOfWord? e.fee with
  | some target, some amount, some fee => some ⟨target, amount, fee, e.data⟩
  | _, _, _ => none

/-- Reads contract data that `encode` has written. -/
def read (raw : Bytes) : Except Abi.Fault (List RechargeEntry) := do
  let es ← readRaw raw.toArray
  if encodeRaw es ≠ raw then .error .notCanonical
  else
    match es.mapM RawEntry.entry? with
    | some entries => .ok entries
    | none => .error (.wideAddress raw)

/-! ## Faults -/

/-- Why contract data, or a text of it, holds no list of entries. -/
inductive TextFault
  /-- The text is not hexadecimal. -/
  | badHex (cause : Hex.Fault)
  /-- The bytes are no contract data of a list of entries. -/
  | badData (cause : Abi.Fault)
deriving DecidableEq, Repr

/-- The wording of a fault. -/
def TextFault.message : TextFault → String
  | .badHex cause => "invalid hex: " ++ cause.message
  | .badData cause => cause.message

end Recharge

end TransferRelay

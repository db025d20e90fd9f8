import TransferRelay.Withdrawal

/-!
# What the contract returns

The three reads of the contract return a flag, a list of recharge entries, or an address with an
amount and a byte string. Each is read strictly: the data must be what the contract writes for the
value, and nothing else.
-/

namespace TransferRelay.Node

/-- Contract data of a flag. -/
def encodeFlag (flag : Bool) : Bytes :=
  Abi.word (if flag then 1 else 0)

/-- Reads a flag. Its word has nothing in front of the last byte, and any last byte but zero means
yes. -/
def decodeFlag? (raw : Bytes) : Option Bool :=
  if raw.length = 32 ∧ (raw.take 31).all (· == 0) then some ((raw.drop 31).any (· != 0)) else none

/-- Contract data of a withdrawal as its raw words. -/
def encodeRawWithdrawal (target amount signatures : Bytes) : Bytes :=
  target ++ amount ++ Abi.word 96 ++ Abi.dynamicBytes signatures

/-- Contract data of a withdrawal. -/
def encodeWithdrawal (r : Withdrawal) : Bytes :=
  encodeRawWithdrawal r.target.word r.amount.word r.signatures

/-- Reads the words and the byte string of a withdrawal. -/
def readRawWithdrawal (buf : Abi.Buffer) : Except Abi.Fault (Bytes × Bytes × Bytes) := do
  let target ← buf.wordAt 0
  let amount ← buf.wordAt 32
  let start ← buf.targetAt 0 64
  let signatures ← buf.bytesAt start
  return (target, amount, signatures)

/-- Reads a withdrawal. Its flag is not part of the data and stays unset. -/
def decodeWithdrawal? (raw : Bytes) : Option Withdrawal :=
  match readRawWithdrawal raw.toArray with
  | .error _ => none
  | .ok (target, amount, signatures) =>
    if encodeRawWithdrawal target amount signatures = raw then
      match Recharge.addressOfWord? target, Recharge.amountOfWord? amount with
      | some target, some amount => some ⟨target, amount, signatures, false⟩
      | _, _ => none
    else none

/-- Reads the entries of a recharge. -/
def decodeEntries? (raw : Bytes) : Option (List RechargeEntry) :=
  (Recharge.read raw).toOption

end TransferRelay.Node

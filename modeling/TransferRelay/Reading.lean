import TransferRelay.Fault

/-!
# Reading what a request brings

Identifiers and contract data come from outside. What cannot be read fails the request that brings
it, and the fault is of the kind of what was to be read: an identifier is input, the data of a
recharge is an encoding.
-/

namespace TransferRelay

/-- The identifier that a text spells. -/
def TransferId.parse (s : String) : Except TransferRelay.Fault TransferId :=
  match read s with
  | .ok tx => .ok tx
  | .error cause => .error (.input (.badTx cause))

namespace Recharge

/-- The entries of contract data that `encode` has written. -/
def decode (raw : Bytes) : Except Fault (List RechargeEntry) :=
  match read raw with
  | .ok entries => .ok entries
  | .error cause => .error (.malformed (.badData cause))

/-- The entries of contract data given in hexadecimal, after an optional `0x` and with blanks around
it. -/
def decodeText (s : String) : Except Fault (List RechargeEntry) :=
  match Hex.decode (Hex.stripMark (Text.trimChars s.toList)) with
  | .error cause => .error (.malformed (.badHex cause))
  | .ok raw => decode raw

end Recharge

end TransferRelay

import TransferRelay.Address
import TransferRelay.Crypto.Secp256k1

/-!
# Signers

A `Signer` is a private key of the curve: a number that is not zero and below the order. It is read
from 64 hexadecimal digits and has the address of its public key.
-/

namespace TransferRelay

/-- A private key. -/
structure Signer where
  key : Nat
  key_pos : 0 < key
  key_lt : key < Secp256k1.order
deriving DecidableEq

namespace Signer

/-- A number as a private key, if it is one. -/
def ofNat? (n : Nat) : Option Signer :=
  if h : 0 < n ∧ n < Secp256k1.order then some ⟨n, h.1, h.2⟩ else none

/-- Reads a private key. -/
def parse? (s : String) : Option Signer :=
  match readFixedHex 32 s with
  | .ok ⟨bs, _⟩ => ofNat? (BigEndian.toNat bs)
  | .error _ => none

/-- The address of a private key. -/
def address? (s : Signer) : Option Address :=
  Address.ofPublicKey (Secp256k1.publicKey s.key)

end Signer

end TransferRelay

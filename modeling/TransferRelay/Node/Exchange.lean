import TransferRelay.Contract
import TransferRelay.Json.Text
import TransferRelay.Address
import TransferRelay.Amount

/-!
# Exchanges with a node

What the service asks a node of the side chain, and how a node may answer. A `Behaviour` is
anything that answers every request: it may refuse the connection, or reply with any status and any
body.
-/

namespace TransferRelay.Node

/-- What has to be known before a transaction can be signed. -/
inductive Preparation
  | chainId
  | nonce
  | gas
  | fees
deriving DecidableEq, Repr

/-- A transaction of the contract, signed by the service. -/
structure SignedCall where
  signer : Address
  target : Address
  data : Bytes
  chainId : Nat
  nonce : Nat
  gas : Nat
deriving DecidableEq

/-- A request to a node. -/
inductive Request
  /-- Reads the contract. -/
  | view (target : Address) (view : ContractView) (argument : Bytes)
  /-- Passes a transfer on by a method of the node; requests of a client are numbered. -/
  | pass (id : Nat) (method : NodeMethod) (params : List String)
  /-- Prepares a transaction of a signer. -/
  | prepare (signer target : Address) (data : Bytes) (what : Preparation)
  /-- Sends a signed transaction. -/
  | send (call : SignedCall)
deriving DecidableEq

/-- How a node answers: what is left once all redirections have been followed. -/
inductive Reply
  /-- No connection is made, or it breaks. -/
  | refused
  /-- A response with a status and a body. -/
  | response (status : Nat) (body : ByteArray)

/-- How a node with a state behaves. -/
structure Behaviour (ν : Type) where
  reply : Request → ν → Reply × ν

/-- A node that refuses every connection. -/
def Behaviour.unreachable : Behaviour Unit where
  reply _ state := (.refused, state)

/-! ## JSON-RPC

Reads and signed transactions go through a JSON-RPC client that is not part of the service. What is
assumed of it for replies that a node would not send in earnest:

* a response with a member `error`, of whatever shape and also null, gives no value;
* the number of a response is not compared with that of the request;
* a list, which answers a batch of requests, gives no value to a single one; that a client may end
  the task that waits for it is not modelled;
* bytes are text in hexadecimal: a list of numbers is not taken for bytes.
-/

/-- The value that a response gives to a call: its result, if it reports no error. -/
def result? (response : Json) : Option Json :=
  match response.get? "error" with
  | some _ => none
  | none => response.get? "result"

/-- A value that is bytes in hexadecimal, with or without the mark `0x`. No other value is. -/
def bytes? (value : Json) : Option Bytes :=
  match value with
  | .str s => (Hex.decode (Hex.stripMark s.toList)).toOption
  | _ => none

/-- A value that is a number in hexadecimal behind the mark `0x`. -/
def quantity? (value : Json) : Option Nat :=
  match value with
  | .str s =>
    match s.toList with
    | '0' :: 'x' :: digits => if digits.isEmpty then none else Amount.readDigits 16 0 digits
    | _ => none
  | _ => none

end TransferRelay.Node

import TransferRelay.Chain.World
import TransferRelay.Crypto.Signer
import TransferRelay.Http.Status
import TransferRelay.Net.Url
import TransferRelay.Node.Exchange
import TransferRelay.Node.Returns
import TransferRelay.Text.Utf8

/-!
# The client of a node

`Client.answer` makes the calls of the service on a node. Reads go to the contract; two submissions
and the notice go to methods of the node; recharges and refunds are signed here and sent.

A read is answered only by a success whose data is a value of the read, so a node that fails never
reads as "not completed". A client without a key asks nothing of the node for a transaction that it
would have to sign.

What a transaction needs is asked for one thing after the other, and nothing more once something is
missing; that some of it may be asked for together is not modelled.
-/

namespace TransferRelay.Node

/-- A client of a node. -/
structure Client where
  bridge : Address
  signer : Option Signer
deriving DecidableEq

namespace Client

/-- Why there is no client. -/
inductive StartFault
  | badBridge
  | badKey
  | badUrl
deriving DecidableEq, Repr

/-- The wording of a fault. -/
def StartFault.message : StartFault → String
  | .badBridge => "Invalid bridge address"
  | .badKey => "Invalid private key"
  | .badUrl => "Invalid RPC URL"

/-- The private key of a text, none if there is no text. -/
def readKey : Option String → Except StartFault (Option Signer)
  | none => .ok none
  | some text =>
    match Signer.parse? text with
    | some signer => .ok (some signer)
    | none => .error .badKey

/-- A client from the texts of its settings. -/
def start (url bridge : String) (key : Option String) : Except StartFault Client :=
  match Address.parse bridge with
  | .error _ => .error .badBridge
  | .ok bridge =>
    match readKey key with
    | .error e => .error e
    | .ok signer => if Url.isValid url then .ok ⟨bridge, signer⟩ else .error .badUrl

/-- The address for which the client signs. -/
def signerAddress? (c : Client) : Option Address :=
  c.signer.bind Signer.address?

end Client

/-- A client at work: the number of its next request, the requests made so far, and the state of
the node. -/
structure Line (ν : Type) where
  nextId : Nat
  requests : List Request
  node : ν

namespace Line

variable {ν : Type}

/-- A client that has not made a request. -/
def initial (node : ν) : Line ν :=
  ⟨1, [], node⟩

/-- Makes a request. A connection that is refused carries none. -/
def exchange (n : Behaviour ν) (r : Request) (l : Line ν) : Reply × Line ν :=
  match n.reply r l.node with
  | (.refused, node) => (.refused, { l with node := node })
  | (reply, node) => (reply, { l with requests := l.requests ++ [r], node := node })

/-- The result of a JSON-RPC call, none if there is none: for want of a connection, of success, of
JSON, or of a result in it. -/
def call? (n : Behaviour ν) (r : Request) (l : Line ν) : Option Json × Line ν :=
  match l.exchange n r with
  | (.refused, l) => (none, l)
  | (.response status body, l) =>
    (if Http.isSuccess status then (Json.parseUtf8 body).bind result? else none, l)

end Line

namespace Client

variable {ν : Type}

/-! ## Reads -/

/-- Reads the contract for a transfer. -/
def view {α : Type} (c : Client) (n : Behaviour ν) (v : ContractView) (decode : Bytes → Option α)
    (tx : TransferId) (l : Line ν) : Except ReadFault α × Line ν :=
  let (value, l) := l.call? n (.view c.bridge v tx.bytes)
  match (value.bind bytes?).bind decode with
  | some a => (.ok a, l)
  | none => (.error (.noAnswer v tx), l)

/-! ## Methods of the node -/

/-- The text of an error: its message, or all of it. -/
def errorText (error : Json) : String :=
  ((error.get? "message").bind Json.str?).getD error.text

/-- Judges the body of a successful response. -/
def judge (method : NodeMethod) (body : ByteArray) : Except SubmitFault Unit :=
  match Json.parseUtf8 body with
  | none => .error (.badBody method)
  | some json =>
    let error := (json.get? "error").getD .null
    if error.isNull then .ok () else .error (.refused method (errorText error))

/-- The text of a body, taken for UTF-8 whatever the response declares it to be. It is told in the
detail of a failure and nowhere else. -/
def bodyText (body : ByteArray) : String :=
  Text.lossy (Text.dropMark body.data.toList)

/-- Passes a transfer on by a method of the node. -/
def pass (n : Behaviour ν) (method : NodeMethod) (params : List String) (l : Line ν) :
    Except SubmitFault Unit × Line ν :=
  let request := .pass l.nextId method params
  match { l with nextId := l.nextId + 1 }.exchange n request with
  | (.refused, l) => (.error (.unreachable method), l)
  | (.response status body, l) =>
    if Http.isSuccess status then (judge method body, l)
    else (.error (.badStatus method (Http.statusText status) (bodyText body)), l)

/-! ## Signed transactions -/

/-- The data of a call of the contract. -/
def callData : ContractAction → TransferId → Bytes → Bytes
  | .recharge, tx, data =>
    ContractAction.recharge.selector ++ tx.bytes ++ Abi.word 64 ++ Abi.dynamicBytes data
  | .refundWithdraw, tx, _ => ContractAction.refundWithdraw.selector ++ tx.bytes

/-- Asks for one thing that a transaction needs. -/
def prepare (c : Client) (n : Behaviour ν) (signer : Address) (data : Bytes) (what : Preparation)
    (l : Line ν) : Option Json × Line ν :=
  l.call? n (.prepare signer c.bridge data what)

/-- Asks for a number that a transaction needs. -/
def prepareNat (c : Client) (n : Behaviour ν) (signer : Address) (data : Bytes) (what : Preparation)
    (l : Line ν) : Option Nat × Line ν :=
  let (value, l) := c.prepare n signer data what l
  (value.bind quantity?, l)

/-- The transaction that a result names. -/
def receipt? (value : Json) : Option TransferId :=
  match bytes? value with
  | some bs => if h : bs.length = 32 then some ⟨bs, h⟩ else none
  | none => none

/-- Signs a call of the contract and sends it. -/
def sendSigned (c : Client) (n : Behaviour ν) (signer : Address) (data : Bytes) (l : Line ν) :
    Option TransferId × Line ν :=
  match c.prepareNat n signer data .chainId l with
  | (none, l) => (none, l)
  | (some chainId, l) =>
    match c.prepareNat n signer data .nonce l with
    | (none, l) => (none, l)
    | (some nonce, l) =>
      match c.prepareNat n signer data .gas l with
      | (none, l) => (none, l)
      | (some gas, l) =>
        match c.prepare n signer data .fees l with
        | (none, l) => (none, l)
        | (some _, l) =>
          let (value, l) := l.call? n (.send ⟨signer, c.bridge, data, chainId, nonce, gas⟩)
          (value.bind receipt?, l)

/-- Makes a call of the contract in a transaction. -/
def act (c : Client) (n : Behaviour ν) (action : ContractAction) (tx : TransferId) (data : Bytes)
    (l : Line ν) : Except SubmitFault TransferId × Line ν :=
  match c.signerAddress? with
  | none => (.error .noSigner, l)
  | some signer =>
    match c.sendSigned n signer (callData action tx data) l with
    | (some sent, l) => (.ok sent, l)
    | (none, l) => (.error (.notSent action tx), l)

/-! ## Calls of the service -/

/-- Makes a call of the service. -/
def answer (c : Client) (n : Behaviour ν) : (call : Call) → Line ν → call.Answer × Line ν
  | .isCompleted tx, l => c.view n .completed decodeFlag? tx l
  | .rechargeData tx, l => c.view n .rechargeData decodeEntries? tx l
  | .withdrawData tx, l => c.view n .withdrawData decodeWithdrawal? tx l
  | .sendInvalidWithdraw signature tx, l => pass n .sendInvalidWithdraw [signature, tx.text] l
  | .submitSmallTransfer signature rawTx, l => pass n .receivedSmallTransfer [signature, rawTx] l
  | .submitRecharge tx data, l => c.act n .recharge tx data l
  | .submitRefund tx, l => c.act n .refundWithdraw tx [] l
  | .notifyAccepted tx, l => pass n .smallTransferAccepted [tx.text] l

/-- The service over a node. -/
def deployment (c : Client) (n : Behaviour ν) (counts : Component → Bool) (window : Nat) :
    Deployment (Line ν) where
  answer := c.answer n
  counts := counts
  window := window

end Client

end TransferRelay.Node

import TransferRelay.Reading
import TransferRelay.Rpc.Method
import TransferRelay.Transfer.Inquiry
import TransferRelay.Transfer.Process

/-!
# Parameters

`Params.parse` reads the parameters of a method into what the method is asked to do. All of
them are judged before anything is done: first their shape, then blank fields, then identifiers,
then byte strings and amounts.
-/

namespace TransferRelay.Rpc

/-- A method with its parameters. -/
inductive Invocation
  /-- Which of the transfers spelled by texts are complete. -/
  | processed (txs : List String)
  /-- A transfer. -/
  | transfer (t : Transfer)
  /-- The entries of a recharge. -/
  | rechargeData (tx : TransferId)
  /-- The entries in a text. -/
  | decodeRechargeData (data : String)
  /-- A stored withdrawal. -/
  | withdrawData (tx : TransferId)
  /-- The data of a call that makes a withdrawal. -/
  | encodeWithdraw (request : WithdrawalOrder)

/-! ## Shapes -/

namespace Method

/-- The shape of the parameters of a method. -/
def shape : Method → Shape
  | .processedInvalidWithdraw => ⟨"ProcessedTxsParams", [⟨"txs", .texts⟩]⟩
  | .receivedInvalidWithdraw =>
    ⟨"InvalidWithdrawParams", [⟨"signature", .text⟩, ⟨"txHash", .text⟩]⟩
  | .smallTransfer =>
    ⟨"SmallTransferParams", [⟨"signature", .text⟩, ⟨"rawTx", .text⟩, ⟨"txHash", .text⟩]⟩
  | .recharge =>
    ⟨"RechargeParams", [⟨"txHash", .text⟩, ⟨"smallRechargeData", .optionalText⟩]⟩
  | .refundWithdraw | .rechargeData | .withdrawData => ⟨"TxHashParams", [⟨"txHash", .text⟩]⟩
  | .decodeRechargeData => ⟨"DataParams", [⟨"data", .text⟩]⟩
  | .encodeWithdraw =>
    ⟨"EncodeWithdrawParams",
      [⟨"sideChainAddress", .text⟩, ⟨"amount", .anything⟩, ⟨"fee", .anything⟩]⟩

end Method

namespace Params

/-! ## Fields -/

/-- A field that must hold more than blanks. -/
def notBlank (field value : String) : Except Fault Unit :=
  if Text.isAllBlank value then .error (.input (.blank field)) else .ok ()

/-- A field that holds bytes in hexadecimal after an optional mark `0x`. -/
def hexBytes (field value : String) : Except Fault Bytes :=
  match Hex.decode (Hex.stripMark value.toList) with
  | .ok bs => .ok bs
  | .error cause => .error (.input (.badHex field cause))

/-- The amount that a value denotes: a numeral in text, or a whole number that is not negative. -/
def amount? : Json → Option Amount
  | .str s => Amount.ofText? s
  | .num n => n.toNat?.bind Amount.ofNat?
  | _ => none

/-- A field that holds an amount. -/
def amount (field : String) (value : Json) : Except Fault Amount :=
  match amount? value with
  | some a => .ok a
  | none => .error (.input (.badAmount field))

/-! ## Methods -/

/-- What a method is asked to do, from the values of its fields. -/
def invocation : (m : Method) → Record m.shape.fields → Except Fault Invocation
  | .processedInvalidWithdraw, (txs, _) => .ok (.processed txs)
  | .receivedInvalidWithdraw, (signature, txHash, _) => do
    notBlank "signature" signature
    let tx ← TransferId.parse txHash
    return .transfer (.invalidWithdraw signature tx)
  | .smallTransfer, (signature, rawTx, txHash, _) => do
    notBlank "signature" signature
    notBlank "rawTx" rawTx
    let tx ← TransferId.parse txHash
    return .transfer (.smallTransfer signature rawTx tx)
  | .recharge, (txHash, data, _) => do
    let tx ← TransferId.parse txHash
    let bs ← match data with
      | some s => hexBytes "smallRechargeData" s
      | none => .ok []
    return .transfer (.recharge tx bs)
  | .refundWithdraw, (txHash, _) => do
    let tx ← TransferId.parse txHash
    return .transfer (.refundWithdraw tx)
  | .rechargeData, (txHash, _) => do
    let tx ← TransferId.parse txHash
    return .rechargeData tx
  | .decodeRechargeData, (data, _) => .ok (.decodeRechargeData data)
  | .withdrawData, (txHash, _) => do
    let tx ← TransferId.parse txHash
    return .withdrawData tx
  | .encodeWithdraw, (destination, amountJson, feeJson, _) => do
    notBlank "sideChainAddress" destination
    let a ← amount "amount" amountJson
    let fee ← amount "fee" feeJson
    return .encodeWithdraw ⟨destination, a, fee⟩

/-- Reads the parameters of a method. -/
def parse (m : Method) (params : Json) : Except Fault Invocation :=
  match params with
  | .null => .error (.input .missingParams)
  | params =>
    match m.shape.read params with
    | .error cause => .error (.input (.badShape cause))
    | .ok values => invocation m values

end Params

end TransferRelay.Rpc

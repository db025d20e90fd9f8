import TransferRelay.Text.Blank

/-!
# The bridging contract and its node

Names and selectors of the contract's functions, and the names of the node's own methods for the
two submissions that the node signs itself.
-/

namespace TransferRelay

/-- A function of the contract that is only read. -/
inductive ContractView
  | completed
  | rechargeData
  | withdrawData
deriving DecidableEq, Repr

namespace ContractView

/-- The name of the function. -/
def name : ContractView → String
  | .completed => "completed"
  | .rechargeData => "getRechargeData"
  | .withdrawData => "getWithdrawData"

/-- The selector of the function, which takes one identifier. -/
def selector : ContractView → Bytes
  | .completed => [0xf6, 0x41, 0x9d, 0x96]
  | .rechargeData => [0x32, 0x47, 0xef, 0xff]
  | .withdrawData => [0x4f, 0x5d, 0x05, 0xcc]

end ContractView

/-- A function of the contract that is called by a signed transaction. -/
inductive ContractAction
  | recharge
  | refundWithdraw
deriving DecidableEq, Repr

namespace ContractAction

/-- The name of the function. -/
def name : ContractAction → String
  | .recharge => "Recharge"
  | .refundWithdraw => "refundWithdraw"

/-- The selector of the function. -/
def selector : ContractAction → Bytes
  | .recharge => [0x3e, 0x44, 0xa5, 0x83]
  | .refundWithdraw => [0x68, 0x65, 0x5b, 0xcc]

end ContractAction

/-- A method of the node that passes a transfer on. -/
inductive NodeMethod
  | sendInvalidWithdraw
  | receivedSmallTransfer
  | smallTransferAccepted
deriving DecidableEq, Repr

/-- The name of the method. -/
def NodeMethod.name : NodeMethod → String
  | .sendInvalidWithdraw => "eth_sendInvalidWithdrawTransaction"
  | .receivedSmallTransfer => "eth_receivedSmallCrossTx"
  | .smallTransferAccepted => "eth_onSmallCrossTxSuccess"

end TransferRelay

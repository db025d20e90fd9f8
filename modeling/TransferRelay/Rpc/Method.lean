/-!
# Served methods

The methods of the JSON-RPC service, by the names its clients use.
-/

namespace TransferRelay.Rpc

/-- A method of the service. -/
inductive Method
  | processedInvalidWithdraw
  | receivedInvalidWithdraw
  | smallTransfer
  | recharge
  | refundWithdraw
  | rechargeData
  | decodeRechargeData
  | withdrawData
  | encodeWithdraw
deriving DecidableEq, Repr

namespace Method

/-- All methods. -/
def all : List Method :=
  [.processedInvalidWithdraw, .receivedInvalidWithdraw, .smallTransfer, .recharge,
    .refundWithdraw, .rechargeData, .decodeRechargeData, .withdrawData, .encodeWithdraw]

/-- The name of a method, spelled as clients spell it. -/
def name : Method → String
  | .processedInvalidWithdraw => "processedInvalidWithdrawtx"
  | .receivedInvalidWithdraw => "receivedInvaliedwithrawtx"
  | .smallTransfer => "smallCrossChainTransaction"
  | .recharge => "recharge"
  | .refundWithdraw => "refundWithdraw"
  | .rechargeData => "getRechargeData"
  | .decodeRechargeData => "decodeRechargeData"
  | .withdrawData => "getWithdrawData"
  | .encodeWithdraw => "encodeWithdraw"

/-- The method that a name denotes. -/
def ofName? (name : String) : Option Method :=
  all.find? fun m => m.name == name

theorem ofName?_name (m : Method) : ofName? m.name = some m := by
  cases m <;> decide

end Method

end TransferRelay.Rpc

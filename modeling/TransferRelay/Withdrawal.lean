import TransferRelay.Recharge

/-!
# Withdrawals

A `Withdrawal` is what the contract stores about a withdrawal, with the flag of the completion
ledger. A `WithdrawalOrder` asks for one; `WithdrawalOrder.callData` is the data of the contract
call `withdraw(string,uint256,uint256)` that makes it.
-/

namespace TransferRelay

/-- A withdrawal as stored, with its completion flag. -/
structure Withdrawal where
  target : Address
  amount : Amount
  signatures : Bytes
  completed : Bool
deriving DecidableEq

/-- A wish to have an amount paid out to an address of the main chain. -/
structure WithdrawalOrder where
  destination : String
  amount : Amount
  fee : Amount
deriving DecidableEq

namespace WithdrawalOrder

/-- The selector of `withdraw(string,uint256,uint256)`. -/
def selector : Bytes := [0xf8, 0x73, 0x79, 0x18]

/-- The arguments of the contract call. -/
def arguments (r : WithdrawalOrder) : Bytes :=
  Abi.word 96 ++ r.amount.word ++ r.fee.word ++ Abi.dynamicBytes (Text.utf8 r.destination)

/-- The data of the contract call. -/
def callData (r : WithdrawalOrder) : Bytes :=
  selector ++ r.arguments

end WithdrawalOrder

end TransferRelay

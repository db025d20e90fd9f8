import TransferRelay.Transfer.State

/-!
# Kinds of transfers

The four kinds of requests that change the chain. The completion flag of the ledger stands for
another terminal state in each of the two families: a claim on a failed withdrawal ends refunded,
a transfer to the side chain ends completed.
-/

namespace TransferRelay

/-- The kind of a request that changes the chain. -/
inductive TransferKind
  | recharge
  | refundWithdraw
  | invalidWithdraw
  | smallTransfer
deriving DecidableEq, Repr

namespace TransferKind

/-- All kinds. -/
def all : List TransferKind :=
  [.recharge, .refundWithdraw, .invalidWithdraw, .smallTransfer]

/-- The name of a kind, which labels its counters. -/
def name : TransferKind → String
  | .recharge => "recharge"
  | .refundWithdraw => "refund_withdraw"
  | .invalidWithdraw => "invalid_withdraw"
  | .smallTransfer => "small_cross_transfer"

/-- The state that the completion flag of the ledger stands for. -/
def completedState : TransferKind → TransferState
  | .invalidWithdraw | .refundWithdraw => .refunded
  | .recharge | .smallTransfer => .completed

end TransferKind

end TransferRelay

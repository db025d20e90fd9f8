import TransferRelay.Fault
import TransferRelay.Withdrawal

/-!
# Calls to the chain

The eight things the service asks of the chain, each with the type of its answer. A read fails with
a `ReadFault` and a submission with a `SubmitFault`, so the two kinds of failure cannot be mixed up.
-/

namespace TransferRelay

/-- A call to the chain. -/
inductive Call
  /-- Reads the completion ledger. -/
  | isCompleted (tx : TransferId)
  /-- Reads the entries of a recharge. -/
  | rechargeData (tx : TransferId)
  /-- Reads a stored withdrawal. -/
  | withdrawData (tx : TransferId)
  /-- Submits the claim on a withdrawal that failed. -/
  | sendInvalidWithdraw (signature : String) (tx : TransferId)
  /-- Submits a small transfer. -/
  | submitSmallTransfer (signature rawTx : String)
  /-- Submits a recharge. -/
  | submitRecharge (tx : TransferId) (data : Bytes)
  /-- Submits the refund of a withdrawal. -/
  | submitRefund (tx : TransferId)
  /-- Tells the node that a small transfer has been accepted before. -/
  | notifyAccepted (tx : TransferId)
deriving DecidableEq

namespace Call

/-- What the chain answers to a call. -/
def Answer : Call → Type
  | .isCompleted _ => Except ReadFault Bool
  | .rechargeData _ => Except ReadFault (List RechargeEntry)
  | .withdrawData _ => Except ReadFault Withdrawal
  | .sendInvalidWithdraw _ _ => Except SubmitFault Unit
  | .submitSmallTransfer _ _ => Except SubmitFault Unit
  | .submitRecharge _ _ => Except SubmitFault TransferId
  | .submitRefund _ => Except SubmitFault TransferId
  | .notifyAccepted _ => Except SubmitFault Unit

/-- Whether an answer is a failure. -/
def failed : (c : Call) → c.Answer → Bool
  | .isCompleted _, .error _ => true
  | .rechargeData _, .error _ => true
  | .withdrawData _, .error _ => true
  | .sendInvalidWithdraw _ _, .error _ => true
  | .submitSmallTransfer _ _, .error _ => true
  | .submitRecharge _ _, .error _ => true
  | .submitRefund _, .error _ => true
  | .notifyAccepted _, .error _ => true
  | _, _ => false

/-- Whether a call reads the completion ledger. -/
def readsLedger : Call → Bool
  | .isCompleted _ => true
  | _ => false

end Call

/-- A call that the chain has seen, with how it ended. -/
structure Event where
  call : Call
  failed : Bool
deriving DecidableEq

end TransferRelay

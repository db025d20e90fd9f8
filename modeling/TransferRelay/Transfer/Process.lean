import TransferRelay.Chain.Plan
import TransferRelay.Transfer.Kind

/-!
# Processing transfers

A `Transfer` is what a client asks to be done on the chain. `Transfer.process` reads the ledger and
submits only what the ledger does not have complete.
-/

namespace TransferRelay

/-- A transfer that a client asks for. -/
inductive Transfer
  /-- The claim on a withdrawal that failed. -/
  | invalidWithdraw (signature : String) (tx : TransferId)
  /-- A small transfer of a main-chain transaction. -/
  | smallTransfer (signature rawTx : String) (tx : TransferId)
  /-- A recharge of a main-chain transaction. -/
  | recharge (tx : TransferId) (data : Bytes)
  /-- The refund of a withdrawal. -/
  | refundWithdraw (tx : TransferId)
deriving DecidableEq

/-- How an operation on a transfer ended. -/
structure TransferOutcome where
  alreadyCompleted : Bool
  state : TransferState
  /-- The transaction that was signed and sent, if one was. -/
  submittedTx : Option TransferId
deriving DecidableEq

namespace TransferOutcome

/-- The ledger had the transfer complete. -/
def completed (kind : TransferKind) : TransferOutcome :=
  ⟨true, kind.completedState, none⟩

/-- The transfer was submitted. -/
def submitted (sent : Option TransferId) : Except Fault TransferOutcome :=
  match TransferState.unseen.transition .submitted with
  | .ok state => .ok ⟨false, state, sent⟩
  | .error cause => .error (.input (.badTransition cause))

end TransferOutcome

namespace Transfer

/-- The kind of a transfer. -/
def kind : Transfer → TransferKind
  | .invalidWithdraw _ _ => .invalidWithdraw
  | .smallTransfer _ _ _ => .smallTransfer
  | .recharge _ _ => .recharge
  | .refundWithdraw _ => .refundWithdraw

/-- The identifier under which the ledger has a transfer. -/
def tx : Transfer → TransferId
  | .invalidWithdraw _ tx => tx
  | .smallTransfer _ _ tx => tx
  | .recharge tx _ => tx
  | .refundWithdraw tx => tx

/-- Submits a transfer. -/
def submit : Transfer → Task (Option TransferId)
  | .invalidWithdraw signature tx =>
    Task.ofPlan (.call (.sendInvalidWithdraw signature tx) fun r => Task.ofSubmit (sentNothing r))
  | .smallTransfer signature rawTx _ =>
    Task.ofPlan (.call (.submitSmallTransfer signature rawTx) fun r =>
      Task.ofSubmit (sentNothing r))
  | .recharge tx data =>
    Task.ofPlan (.call (.submitRecharge tx data) fun r => Task.ofSubmit (sentTx r))
  | .refundWithdraw tx =>
    Task.ofPlan (.call (.submitRefund tx) fun r => Task.ofSubmit (sentTx r))
where
  /-- The node signs the transaction itself and tells nothing of it. -/
  sentNothing (r : Except SubmitFault Unit) : Except SubmitFault (Option TransferId) :=
    r.map fun _ => none
  /-- The transaction that was sent. -/
  sentTx (r : Except SubmitFault TransferId) : Except SubmitFault (Option TransferId) :=
    r.map some

/-- The notice that goes out when a transfer is found complete. -/
def noticeCompleted : Transfer → Task Unit
  | .smallTransfer _ _ tx => Task.notify tx
  | _ => pure ()

/-- Submits a transfer unless the ledger has it complete. -/
def process (t : Transfer) : Task TransferOutcome := do
  if ← Task.isCompleted t.tx then
    Task.count .transfers (.alreadyCompleted t.kind)
    t.noticeCompleted
    return .completed t.kind
  else
    let sent ← t.submit
    Task.count .transfers (.submission t.kind)
    Task.ofExcept (TransferOutcome.submitted sent)

end Transfer

end TransferRelay

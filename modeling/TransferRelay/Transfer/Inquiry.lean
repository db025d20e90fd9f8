import TransferRelay.Chain.Plan

/-!
# Inquiries

Operations that only read the chain.

* `Inquiry.filterBy` keeps the items of a batch that the ledger has complete.
* `Inquiry.withdrawal` joins a stored withdrawal with the flag of the ledger.

The two reads of a withdrawal are begun together. Over a chain that answers at once, as a chain in
memory does, the first has ended before the second is begun, which is what `Inquiry.withdrawal`
says. Over a node both are sent before either ends, in some order, and end in some order:
`Inquiry.withdrawalSent`.
-/

namespace TransferRelay

namespace Inquiry

variable {ι : Type}

/-- The identifiers of items in their order, or the fault of the first that has none. -/
def keys (key : ι → Except Fault TransferId) : List ι → Except Fault (List TransferId)
  | [] => .ok []
  | i :: rest =>
    match key i with
    | .error fault => .error fault
    | .ok tx => (keys key rest).map (tx :: ·)

/-- The items whose flag is set, in their order. -/
def keep (items : List ι) (flags : List Bool) : List ι :=
  ((items.zip flags).filter Prod.snd).map Prod.fst

/-- Keeps the items whose identifier the ledger has complete. All identifiers are derived before
the ledger is read. -/
def filterBy (key : ι → Except Fault TransferId) (items : List ι) : Task (List ι) := do
  let txs ← Task.ofExcept (keys key items)
  let flags ← Task.completionFlags txs
  return keep items flags

/-- Keeps the identifiers that the ledger has complete. -/
def filter (txs : List TransferId) : Task (List TransferId) :=
  filterBy .ok txs

/-- An order of the two reads of a withdrawal. -/
inductive ReadOrder
  | dataFirst
  | ledgerFirst
deriving DecidableEq, Repr

/-- A stored withdrawal with the flag of the ledger, of reads that end in an order, each at once.
The second is not begun when the first fails. -/
def withdrawalIn (order : ReadOrder) (tx : TransferId) : Task Withdrawal :=
  match order with
  | .dataFirst => do
    let record ← Task.withdrawData tx
    let completed ← Task.isCompleted tx
    return { record with completed := completed }
  | .ledgerFirst => do
    let completed ← Task.isCompleted tx
    let record ← Task.withdrawData tx
    return { record with completed := completed }

/-- A stored withdrawal with the flag of the ledger. -/
def withdrawal (tx : TransferId) : Task Withdrawal :=
  withdrawalIn .dataFirst tx

/-- What becomes of two reads that have ended in an order. The one that ends last is given up when
the first fails, so that its own failure is neither told nor counted. -/
def join (ended : ReadOrder) (data : Except ReadFault Withdrawal) (ledger : Except ReadFault Bool) :
    Task Withdrawal :=
  match ended with
  | .dataFirst => do
    let record ← Task.ofRead data
    let completed ← Task.ofLedgerRead ledger
    return { record with completed := completed }
  | .ledgerFirst => do
    let completed ← Task.ofLedgerRead ledger
    let record ← Task.ofRead data
    return { record with completed := completed }

/-- A stored withdrawal with the flag of the ledger, of reads that are both sent before either
ends. -/
def withdrawalSent (sent ended : ReadOrder) (tx : TransferId) : Task Withdrawal :=
  match sent with
  | .dataFirst =>
    .ofPlan (.call (.withdrawData tx) fun data =>
      .call (.isCompleted tx) fun ledger => (join ended data ledger).run)
  | .ledgerFirst =>
    .ofPlan (.call (.isCompleted tx) fun ledger =>
      .call (.withdrawData tx) fun data => (join ended data ledger).run)

end Inquiry

end TransferRelay

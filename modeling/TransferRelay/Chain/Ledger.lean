import TransferRelay.Chain.World

/-!
# A chain in memory

A `Ledger` holds the completed transfers, the stored recharges and withdrawals, and switches that
make calls fail. `Ledger.answer` judges each call: a read fails if all reads do, else if that read
does; a submission fails if all submissions do, and otherwise completes its transfer when the ledger
does so by itself.
-/

namespace TransferRelay

/-- A chain in memory. -/
structure Ledger where
  completed : TransferId → Bool
  recharges : TransferId → List RechargeEntry
  withdrawals : TransferId → Option Withdrawal
  /-- The reason for which all reads fail. -/
  readOutage : Option String
  /-- The reason for which the reads of one transfer fail. -/
  readOutageOf : TransferId → Option String
  /-- The reason for which submissions fail. -/
  submitOutage : Option String
  /-- The reason for which notices fail. -/
  noticeOutage : Option String
  /-- Whether a submission completes its transfer. -/
  autoComplete : Bool

namespace Ledger

/-- A chain on which nothing has happened. -/
def empty : Ledger where
  completed _ := false
  recharges _ := []
  withdrawals _ := none
  readOutage := none
  readOutageOf _ := none
  submitOutage := none
  noticeOutage := none
  autoComplete := false

/-- A table with one entry set. -/
def update {α : Type} (table : TransferId → α) (tx : TransferId) (value : α) : TransferId → α :=
  fun t => if t = tx then value else table t

theorem update_self {α : Type} (table : TransferId → α) (tx : TransferId) (value : α) :
    update table tx value tx = value := by
  simp [update]

theorem update_other {α : Type} (table : TransferId → α) {tx t : TransferId} (value : α)
    (h : t ≠ tx) : update table tx value t = table t := by
  simp [update, h]

/-- Sets the completion flags of transfers. -/
def mark (flag : Bool) (txs : List TransferId) (l : Ledger) : Ledger :=
  { l with completed := txs.foldl (fun table tx => update table tx flag) l.completed }

/-- The reason for which the reads of a transfer fail. -/
def outageOf (l : Ledger) (tx : TransferId) : Option String :=
  l.readOutage <|> l.readOutageOf tx

/-- A read of a value. -/
def read {α : Type} (l : Ledger) (tx : TransferId) (value : Except ReadFault α) :
    Except ReadFault α :=
  match l.outageOf tx with
  | some reason => .error (.outage reason)
  | none => value

/-- A submission that completes a transfer. -/
def submit {α : Type} (l : Ledger) (tx : TransferId) (value : α) : Except SubmitFault α × Ledger :=
  match l.submitOutage with
  | some reason => (.error (.outage reason), l)
  | none => (.ok value, if l.autoComplete then l.mark true [tx] else l)

/-- The transaction of every recharge. -/
def rechargeReceipt : TransferId := ⟨List.replicate 32 0xee, rfl⟩

/-- The transaction of every refund. -/
def refundReceipt : TransferId := ⟨List.replicate 32 0xef, rfl⟩

/-- The answer to a call and the chain behind it. -/
def answer : (c : Call) → Ledger → c.Answer × Ledger
  | .isCompleted tx, l => (l.read tx (.ok (l.completed tx)), l)
  | .rechargeData tx, l => (l.read tx (.ok (l.recharges tx)), l)
  | .withdrawData tx, l =>
    (l.read tx (match l.withdrawals tx with
      | some record => .ok record
      | none => .error (.noWithdraw tx)), l)
  | .sendInvalidWithdraw _ tx, l => l.submit tx ()
  | .submitSmallTransfer _ _, l =>
    match l.submitOutage with
    | some reason => (.error (.outage reason), l)
    | none => (.ok (), l)
  | .submitRecharge tx _, l => l.submit tx rechargeReceipt
  | .submitRefund tx, l => l.submit tx refundReceipt
  | .notifyAccepted _, l =>
    match l.noticeOutage with
    | some reason => (.error (.outage reason), l)
    | none => (.ok (), l)

/-- A change of a chain from outside. -/
inductive Change
  | complete (txs : List TransferId)
  | uncomplete (txs : List TransferId)
  | failReads (reason : Option String)
  | failReadsOf (tx : TransferId) (reason : Option String)
  | failSubmissions (reason : Option String)
  | failNotices (reason : Option String)
  | autoComplete (on : Bool)
  | setRecharge (tx : TransferId) (entries : List RechargeEntry)
  | setWithdraw (tx : TransferId) (record : Withdrawal)

/-- The chain after a change. -/
def apply (l : Ledger) : Change → Ledger
  | .complete txs => l.mark true txs
  | .uncomplete txs => l.mark false txs
  | .failReads reason => { l with readOutage := reason }
  | .failReadsOf tx reason => { l with readOutageOf := update l.readOutageOf tx reason }
  | .failSubmissions reason => { l with submitOutage := reason }
  | .failNotices reason => { l with noticeOutage := reason }
  | .autoComplete on => { l with autoComplete := on }
  | .setRecharge tx entries => { l with recharges := update l.recharges tx entries }
  | .setWithdraw tx record => { l with withdrawals := update l.withdrawals tx (some record) }

end Ledger

end TransferRelay

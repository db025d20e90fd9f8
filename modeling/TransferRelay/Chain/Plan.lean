import TransferRelay.Chain.Call
import TransferRelay.Metrics

/-!
# Plans

What an operation does is a `Plan`: a tree of calls to the chain, with a branch for each answer. A
plan does nothing by itself, so one operation can be run on different chains, one call after the
other or interleaved with other operations, and what it may do can be read off the tree.

* `Plan.flags` reads the ledger for a batch; how its reads overlap is left to who runs the plan, and
  what is counted of them is what a chain that answers at once makes the service count.
* `Plan.notify` leaves a notice behind, whose answer nobody waits for.
* `Task` is a plan that may end in a fault.
-/

namespace TransferRelay

/-- What an operation does until it has a result. -/
inductive Plan (α : Type) : Type
  /-- The result. -/
  | done (result : α)
  /-- A call and what follows each answer. -/
  | call (c : Call) (next : c.Answer → Plan α)
  /-- The completion flags of a batch and what follows them. -/
  | flags (txs : List TransferId) (next : Except ReadFault (List Bool) → Plan α)
  /-- One more in a series, counted by a component. -/
  | count (component : Component) (series : Series) (next : Plan α)
  /-- A notice that a small transfer has been accepted before. -/
  | notify (tx : TransferId) (next : Plan α)

namespace Plan

variable {α β : Type}

/-- A plan followed by another that depends on the result. -/
def bind : Plan α → (α → Plan β) → Plan β
  | done a, f => f a
  | call c next, f => call c fun a => (next a).bind f
  | flags txs next, f => flags txs fun r => (next r).bind f
  | count component series next, f => count component series (next.bind f)
  | notify tx next, f => notify tx (next.bind f)

instance : Monad Plan where
  pure := done
  bind := bind

@[simp]
theorem pure_eq (a : α) : (pure a : Plan α) = done a := rfl

@[simp]
theorem bind_eq (p : Plan α) (f : α → Plan β) : p >>= f = p.bind f := rfl

@[simp]
theorem bind_done (p : Plan α) : p.bind done = p := by
  induction p with
  | done a => rfl
  | call c next ih => exact congrArg (call c) (funext ih)
  | flags txs next ih => exact congrArg (flags txs) (funext ih)
  | count component series next ih => exact congrArg (count component series) ih
  | notify tx next ih => exact congrArg (notify tx) ih

theorem bind_assoc {γ : Type} (p : Plan α) (f : α → Plan β) (g : β → Plan γ) :
    (p.bind f).bind g = p.bind fun a => (f a).bind g := by
  induction p with
  | done a => rfl
  | call c next ih => exact congrArg (call c) (funext ih)
  | flags txs next ih => exact congrArg (flags txs) (funext ih)
  | count component series next ih => exact congrArg (count component series) ih
  | notify tx next ih => exact congrArg (notify tx) ih

end Plan

/-- A plan that ends in a result or a fault. -/
abbrev Task := ExceptT Fault Plan

namespace Task

variable {α : Type}

/-- A task from its plan. -/
def ofPlan (p : Plan (Except Fault α)) : Task α :=
  ExceptT.mk p

/-- A fault. -/
def fail (f : Fault) : Task α :=
  ofPlan (.done (.error f))

/-- A result or a fault that is already there. -/
def ofExcept (r : Except Fault α) : Task α :=
  ofPlan (.done r)

/-- One more in a series. -/
def count (component : Component) (series : Series) : Task Unit :=
  ofPlan (.count component series (.done (.ok ())))

/-- A notice that nobody waits for. -/
def notify (tx : TransferId) : Task Unit :=
  ofPlan (.notify tx (.done (.ok ())))

/-- The end of a read. -/
def ofRead : Except ReadFault α → Task α
  | .ok a => ofPlan (.done (.ok a))
  | .error cause => fail (.read cause)

/-- The end of a submission. -/
def ofSubmit : Except SubmitFault α → Task α
  | .ok a => ofPlan (.done (.ok a))
  | .error cause => fail (.submit cause)

/-- The end of a read of the completion ledger, or of the reads of a batch, which end with the first
that fails. The failure is counted, once. -/
def ofLedgerRead : Except ReadFault α → Task α
  | .ok a => ofPlan (.done (.ok a))
  | .error cause => ofPlan (.count .ledger .queryFailure (.done (.error (.read cause))))

/-- Whether the ledger has a transfer complete. A failed read is a fault, never a no. -/
def isCompleted (tx : TransferId) : Task Bool :=
  ofPlan (.call (.isCompleted tx) ofLedgerRead)

/-- The completion flags of a batch in its order. A batch that fails counts the failure that ends
it; reads behind it that are under way, and fail as well, are not among what is counted here. -/
def completionFlags (txs : List TransferId) : Task (List Bool) :=
  ofPlan (.flags txs ofLedgerRead)

/-- The entries of a recharge. -/
def rechargeData (tx : TransferId) : Task (List RechargeEntry) :=
  ofPlan (.call (.rechargeData tx) ofRead)

/-- A stored withdrawal. -/
def withdrawData (tx : TransferId) : Task Withdrawal :=
  ofPlan (.call (.withdrawData tx) ofRead)

end Task

end TransferRelay

import TransferRelay.Proofs.Chain.Running
import TransferRelay.Proofs.Rpc.Calling
import TransferRelay.Proofs.Rpc.Handling
import TransferRelay.Session.Operation

/-!
# What operations keep

Beside reads, counts and notices, the service does nothing to the chain but process transfers. So an
invariant that is `Stable` and that processing keeps is kept by every operation that runs alone:
`Stable.keeps_handle` for requests, `Stable.operation` for operations.
-/

namespace TransferRelay

variable {σ α : Type} {d : Deployment σ} {I : World σ → Prop}

/-! ## Requests -/

namespace Deployment.Stable

theorem keeps_ofLedgerRead (stable : d.Stable I) (r : Except ReadFault α) :
    (Task.ofLedgerRead r).run.Keeps d I := by
  cases r with
  | error cause => exact stable.count (.done _)
  | ok a => exact Plan.Keeps.done _

theorem keeps_completionFlags (stable : d.Stable I) (txs : List TransferId) :
    (Task.completionFlags txs).run.Keeps d I :=
  stable.flags fun r => stable.keeps_ofLedgerRead r

/-- Reads keep a stable invariant, and so does what is put together of them. -/
theorem closed (stable : d.Stable I) : Task.Closed fun _ x => x.run.Keeps d I where
  pure a := .done _
  fail fault := .done _
  bind hx hf := Task.keeps_bind hx hf
  isCompleted tx := stable.readCall rfl fun r => stable.keeps_ofLedgerRead r
  rechargeData tx := stable.readCall rfl fun r => by cases r <;> exact Plan.Keeps.done _
  withdrawData tx := stable.readCall rfl fun r => by cases r <;> exact Plan.Keeps.done _

/-- Handling a request keeps what processing keeps. -/
theorem keeps_handle (stable : d.Stable I) (processing : ∀ t : Transfer, t.process.run.Keeps d I)
    (request : Json) : (Rpc.handle request).Keeps d I := by
  have hresolve : (Rpc.resolve request).Keeps d I := by
    refine Rpc.resolve_cases (fun refusal => .done _) fun m _ => ?_
    refine Plan.Keeps.bind ?_ fun r => .done _
    exact stable.closed.call (fun _ => stable.keeps_completionFlags) (fun t _ => processing t) _
  rw [Rpc.handle_eq]
  exact hresolve.bind fun r => stable.count (.done _)

theorem http (stable : d.Stable I) (processing : ∀ t : Transfer, t.process.run.Keeps d I)
    (uptime : Nat) (request : Http.Request) {w : World σ} (h : I w) :
    I (Http.handle d uptime request w).2 := by
  show I (request.route.handle d uptime w).2
  cases request.route with
  | rpc body =>
    refine stable.complete ?_ h
    unfold Http.answerRpc
    split
    · exact stable.keeps_handle processing _
    · exact stable.count (.done _)
  | _ => exact h

end Deployment.Stable

/-! ## Operations -/

/-- Whether an operation runs alone, no other in between. -/
def Operation.isAlone : Operation → Bool
  | .race _ => false
  | _ => true

/-- Whether an operation goes around the requests. -/
def Operation.isDirect : Operation → Bool
  | .request _ | .http _ | .race _ => false
  | _ => true

/-- An operation that goes around the requests is a task, or a look at the counters. What holds of
reads and of processing holds of that task. -/
theorem Task.Closed.operation {P : (α : Type) → Task α → Prop} (closed : Closed P)
    (flags : ∀ txs : List TransferId, P (List Bool) (completionFlags txs)) {op : Operation}
    (processing : ∀ t : Transfer, op = .process t → P TransferOutcome t.process)
    (direct : op.isDirect = true) :
    op = .metrics ∨ ∃ (α : Type) (wrap : Except Fault α → Operation.Result) (x : Task α),
      P α x ∧ ∀ {σ : Type} (d : Deployment σ) (w : World σ),
        op.run d w = Operation.run.of d w wrap x.run := by
  cases op with
  | process t => exact .inr ⟨_, .outcome, t.process, processing t rfl, fun d w => rfl⟩
  | filter txs => exact .inr ⟨_, .txs, _, closed.filterBy flags _ txs, fun d w => rfl⟩
  | filterTexts items => exact .inr ⟨_, .texts, _, closed.filterBy flags _ items, fun d w => rfl⟩
  | completionFlags txs => exact .inr ⟨_, .flags, _, flags txs, fun d w => rfl⟩
  | isCompleted tx => exact .inr ⟨_, .flag, _, closed.isCompleted tx, fun d w => rfl⟩
  | rechargeEntries tx => exact .inr ⟨_, .entries, _, closed.rechargeData tx, fun d w => rfl⟩
  | withdrawal tx => exact .inr ⟨_, .withdrawal, _, closed.withdrawal tx, fun d w => rfl⟩
  | metrics => exact .inl rfl
  | _ => cases direct

/-- An operation that runs alone keeps what processing keeps. -/
theorem Deployment.Stable.operation (stable : d.Stable I)
    (processing : ∀ t : Transfer, t.process.run.Keeps d I) {op : Operation}
    (alone : op.isAlone = true) {w : World σ} (h : I w) : I (op.run d w).2 := by
  by_cases direct : op.isDirect = true
  · obtain rfl | ⟨α, wrap, x, keeps, hrun⟩ := stable.closed.operation stable.keeps_completionFlags
      (fun t _ => processing t) direct
    · exact h
    · rw [hrun]
      exact stable.complete keeps h
  · cases op with
    | request r => exact stable.complete (stable.keeps_handle processing r) h
    | http r => exact stable.http processing 0 r h
    | race requests => cases alone
    | _ => exact absurd rfl direct

end TransferRelay

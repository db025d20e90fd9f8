import TransferRelay.Http.Service
import TransferRelay.Proofs.Chain.Coupling
import TransferRelay.Proofs.Rpc.Calling
import TransferRelay.Proofs.Rpc.Handling
import TransferRelay.Proofs.Transfer.Course

/-!
# What clients are told of failures

Of a failure of the chain, clients are told its kind in fixed words: two faults that differ in what
the chain said are told `Alike`. So every method goes on alike behind answers of the chain that are
alike (`alike_call`), and a request is answered with the same JSON (`alike_handle`).
-/

namespace TransferRelay

variable {α : Type}

/-- Faults of which clients are told the same. -/
structure Fault.Alike (fault fault' : Fault) : Prop where
  kind : fault.kind = fault'.kind
  message : fault.publicMessage = fault'.publicMessage

theorem Fault.Alike.refl (fault : Fault) : fault.Alike fault := ⟨rfl, rfl⟩

/-- What the chain said of a read is not told. -/
theorem Fault.alike_read (cause cause' : ReadFault) : (Fault.read cause).Alike (.read cause') :=
  ⟨rfl, rfl⟩

/-- What the chain said of a submission is not told. -/
theorem Fault.alike_submit (cause cause' : SubmitFault) :
    (Fault.submit cause).Alike (.submit cause') :=
  ⟨rfl, rfl⟩

/-- Results of which clients are told the same. -/
abbrev ToldAlike : Except Fault α → Except Fault α → Prop :=
  EndAlike Fault.Alike Eq

/-! ## Tasks -/

namespace Task

/-- A task that goes on alike behind answers that are alike. -/
def Discreet (x : Task α) : Prop :=
  x.run.Alike ToldAlike x.run

theorem alike_ofRead {r r' : Except ReadFault α} (h : FailAlike r r') :
    (ofRead r).run.Alike ToldAlike (ofRead r').run := by
  cases h with
  | error _ => exact .done (.error (Fault.alike_read _ _))
  | ok same => exact .done (.ok same)

theorem alike_ofLedgerRead {r r' : Except ReadFault α} (h : FailAlike r r') :
    (ofLedgerRead r).run.Alike ToldAlike (ofLedgerRead r').run := by
  cases h with
  | error _ => exact .count (.done (.error (Fault.alike_read _ _)))
  | ok same => exact .done (.ok same)

theorem discreet_completionFlags (txs : List TransferId) : (completionFlags txs).Discreet :=
  .flags fun _ _ h => alike_ofLedgerRead h

/-- Reads are discreet, and so is what is put together of them. -/
theorem closed_discreet : Closed fun _ x => x.Discreet where
  pure a := .done (.ok rfl)
  fail fault := .done (.error (.refl fault))
  bind hx hf := by
    refine Plan.Alike.bind hx fun r r' h => ?_
    cases h with
    | error faults => exact .done (.error faults)
    | ok same =>
      subst same
      exact hf _
  isCompleted tx := .call fun _ _ h => alike_ofLedgerRead h
  rechargeData tx := .call fun _ _ h => alike_ofRead h
  withdrawData tx := .call fun _ _ h => alike_ofRead h

end Task

namespace Transfer

/-- Receipts of a submission are alike if its answers are. -/
theorem failAlike_receipt (t : Transfer) {answer answer' : t.submission.Answer}
    (h : t.submission.Alike answer answer') : FailAlike (t.receipt answer) (t.receipt answer') := by
  cases t with
  | invalidWithdraw signature tx => exact EndAlike.map h fun _ _ _ => rfl
  | smallTransfer signature rawTx tx => exact EndAlike.map h fun _ _ _ => rfl
  | recharge tx data => exact EndAlike.map h fun _ _ same => congrArg some same
  | refundWithdraw tx => exact EndAlike.map h fun _ _ same => congrArg some same

theorem discreet_process (t : Transfer) : t.process.Discreet := by
  show t.process.run.Alike ToldAlike t.process.run
  rw [process_run]
  -- the two reads fail together, or say the same of the transfer
  refine .call fun read read' h => ?_
  have h : FailAlike read read' := h
  cases h with
  | error _ => exact .count (.done (.error (Fault.alike_read _ _)))
  | @ok flag _ same =>
    subst same
    cases flag with
    | true =>
      refine .count ?_
      cases t with
      | smallTransfer signature rawTx tx => exact .notify (.done (.ok rfl))
      | _ => exact .done (.ok rfl)
    | false =>
      refine .call fun answer answer' h => ?_
      have hreceipt := t.failAlike_receipt h
      generalize t.receipt answer = receipt at hreceipt
      generalize t.receipt answer' = receipt' at hreceipt
      cases hreceipt with
      | error _ => exact .done (.error (Fault.alike_submit _ _))
      | ok same =>
        subst same
        exact .count (.done (.ok rfl))

end Transfer

/-! ## Requests -/

namespace Rpc

/-- Refusals that are written alike. -/
structure Refusal.Alike (refusal refusal' : Refusal) : Prop where
  code : refusal.code = refusal'.code
  message : refusal.message = refusal'.message

theorem errorJson_of_alike {refusal refusal' : Refusal} (h : refusal.Alike refusal') :
    Envelope.errorJson refusal = Envelope.errorJson refusal' := by
  unfold Envelope.errorJson
  simp only [h.code, h.message]

/-- Envelopes that are written alike. -/
theorem json_of_alike (id : Json) {answer answer' : Except Refusal Json}
    (h : EndAlike Refusal.Alike Eq answer answer') :
    (Envelope.mk id answer).json = (Envelope.mk id answer').json := by
  cases h with
  | error refusals =>
    show Json.obj [("error", _), _, _, _] = Json.obj [("error", _), _, _, _]
    rw [errorJson_of_alike refusals]
  | ok same => rw [same]

theorem alike_replied {α : Type} {write : α → Json} {r r' : Except Fault α} (h : ToldAlike r r') :
    EndAlike Refusal.Alike Eq (replied write r) (replied write r') := by
  cases h with
  | error faults =>
    refine .error ⟨?_, faults.message⟩
    show FaultKind.code _ = FaultKind.code _
    rw [faults.kind]
  | ok same => exact .ok (congrArg write same)

/-- Every method is discreet. -/
theorem discreet_call (m : Method) (params : Json) : (m.call params).Discreet :=
  Task.closed_discreet.call (fun _ => Task.discreet_completionFlags)
    (fun t _ => t.discreet_process) params

/-- Whatever the chain says of its failures, a request is answered with the same JSON. -/
theorem alike_handle (request : Json) :
    (handle request).Alike (fun e e' => e.json = e'.json) (handle request) := by
  have hresolve : (resolve request).Alike (EndAlike Refusal.Alike Eq) (resolve request) :=
    resolve_cases (P := fun p => p.Alike (EndAlike Refusal.Alike Eq) p)
      (fun refusal => .done (.error ⟨rfl, rfl⟩))
      fun m _ => Plan.Alike.bind (discreet_call m _) fun r r' h => .done (alike_replied h)
  rw [handle_eq]
  refine hresolve.bind fun r r' h => ?_
  exact .count (.done (json_of_alike _ h))

end Rpc

theorem Http.alike_answerRpc (body : ByteArray) :
    (answerRpc body).Alike (fun e e' => e.json = e'.json) (answerRpc body) := by
  unfold answerRpc
  split
  · exact Rpc.alike_handle _
  · exact .count (.done rfl)

end TransferRelay

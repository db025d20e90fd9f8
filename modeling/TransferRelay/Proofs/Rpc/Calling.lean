import TransferRelay.Proofs.Rpc.Demand
import TransferRelay.Proofs.Rpc.Handling
import TransferRelay.Proofs.Transfer.Spelling

/-!
# What methods are made of

The parameters of a method are read as something that this method is asked to do
(`method_of_parse`), or they are wrong input (`Params.blamesInput_parse`). What a method does is put
together from reads of the chain, from faults and, for one kind of method, a transfer. A property of
tasks that passes to what is put together (`Task.Closed`) therefore holds of every method, if it
holds of the transfer and of the batch that the method may be for (`Closed.call`).
-/

namespace TransferRelay

/-- The method that asks for the transfers of a kind. -/
def TransferKind.method : TransferKind → Rpc.Method
  | .recharge => .recharge
  | .refundWithdraw => .refundWithdraw
  | .invalidWithdraw => .receivedInvalidWithdraw
  | .smallTransfer => .smallTransfer

/-- A property of tasks that reads, results and faults have, and that passes to what is put
together. -/
structure Task.Closed (P : (α : Type) → Task α → Prop) : Prop where
  pure : ∀ {α : Type} (a : α), P α (pure a)
  fail : ∀ {α : Type} (fault : Fault), P α (Task.fail fault)
  bind : ∀ {α β : Type} {x : Task α} {f : α → Task β}, P α x → (∀ a, P β (f a)) → P β (x >>= f)
  isCompleted : ∀ tx : TransferId, P Bool (Task.isCompleted tx)
  rechargeData : ∀ tx : TransferId, P (List RechargeEntry) (Task.rechargeData tx)
  withdrawData : ∀ tx : TransferId, P Withdrawal (Task.withdrawData tx)

namespace Rpc

/-- The method that is asked to do something. -/
def Invocation.method : Invocation → Method
  | .processed _ => .processedInvalidWithdraw
  | .transfer t => t.kind.method
  | .rechargeData _ => .rechargeData
  | .decodeRechargeData _ => .decodeRechargeData
  | .withdrawData _ => .withdrawData
  | .encodeWithdraw _ => .encodeWithdraw

theorem method_of_invocation {m : Method} {values : Record m.shape.fields}
    {invocation : Invocation} (h : Params.invocation m values = .ok invocation) :
    invocation.method = m := by
  cases m with
  | processedInvalidWithdraw => cases h; rfl
  | receivedInvalidWithdraw =>
    obtain ⟨_, -, h⟩ := exists_of_bind_eq_ok h
    obtain ⟨tx, -, h⟩ := exists_of_bind_eq_ok h
    cases h
    rfl
  | smallTransfer =>
    obtain ⟨_, -, h⟩ := exists_of_bind_eq_ok h
    obtain ⟨_, -, h⟩ := exists_of_bind_eq_ok h
    obtain ⟨tx, -, h⟩ := exists_of_bind_eq_ok h
    cases h
    rfl
  | recharge =>
    have h := (invocation_recharge values.1 values.2.1).symm.trans h
    obtain ⟨tx, -, h⟩ := exists_of_bind_eq_ok h
    obtain ⟨bs, -, h⟩ := exists_of_bind_eq_ok h
    cases h
    rfl
  | refundWithdraw =>
    obtain ⟨tx, -, h⟩ := exists_of_bind_eq_ok h
    cases h
    rfl
  | rechargeData =>
    obtain ⟨tx, -, h⟩ := exists_of_bind_eq_ok h
    cases h
    rfl
  | decodeRechargeData => cases h; rfl
  | withdrawData =>
    obtain ⟨tx, -, h⟩ := exists_of_bind_eq_ok h
    cases h
    rfl
  | encodeWithdraw =>
    obtain ⟨_, -, h⟩ := exists_of_bind_eq_ok h
    obtain ⟨amount, -, h⟩ := exists_of_bind_eq_ok h
    obtain ⟨fee, -, h⟩ := exists_of_bind_eq_ok h
    cases h
    rfl

/-- The parameters of a method are read as something that it is asked to do. -/
theorem method_of_parse {m : Method} {params : Json} {invocation : Invocation}
    (h : Params.parse m params = .ok invocation) : invocation.method = m := by
  unfold Params.parse at h
  split at h
  · cases h
  · split at h
    · cases h
    · exact method_of_invocation h

/-! ## Parameters that are wrong -/

namespace Params

variable {α β : Type}

/-- If a result is a fault, it is one of the input. -/
def BlamesInput (r : Except Fault α) : Prop :=
  ∀ fault, r = .error fault → ∃ cause, fault = .input cause

theorem blamesInput_ok (a : α) : BlamesInput (.ok a) := by
  rintro _ ⟨⟩

theorem blamesInput_error (cause : InputFault) :
    BlamesInput (.error (.input cause) : Except Fault α) := by
  rintro _ ⟨⟩
  exact ⟨cause, rfl⟩

theorem blamesInput_bind {x : Except Fault α} {f : α → Except Fault β} (hx : BlamesInput x)
    (hf : ∀ a, BlamesInput (f a)) : BlamesInput (x >>= f) := by
  intro fault h
  rcases error_or_exists_of_bind_eq_error h with h | ⟨a, -, h⟩
  · exact hx fault h
  · exact hf a fault h

theorem blamesInput_notBlank (field value : String) : BlamesInput (notBlank field value) := by
  unfold notBlank
  split
  · exact blamesInput_error _
  · exact blamesInput_ok _

theorem blamesInput_fieldBytes (text : Option String) : BlamesInput (fieldBytes text) := by
  cases text with
  | none => exact blamesInput_ok _
  | some s =>
    show BlamesInput (hexBytes _ s)
    unfold hexBytes
    split
    · exact blamesInput_ok _
    · exact blamesInput_error _

theorem blamesInput_amount (field : String) (value : Json) : BlamesInput (amount field value) := by
  unfold amount
  split
  · exact blamesInput_ok _
  · exact blamesInput_error _

theorem blamesInput_parseTx (hash : String) : BlamesInput (TransferId.parse hash) := by
  intro fault h
  obtain ⟨cause, -, rfl⟩ := TransferId.parse_eq_error_iff.mp h
  exact ⟨_, rfl⟩

theorem blamesInput_invocation (m : Method) (values : Record m.shape.fields) :
    BlamesInput (invocation m values) := by
  cases m with
  | processedInvalidWithdraw | decodeRechargeData => exact blamesInput_ok _
  | receivedInvalidWithdraw =>
    exact blamesInput_bind (blamesInput_notBlank _ _) fun _ =>
      blamesInput_bind (blamesInput_parseTx _) fun _ => blamesInput_ok _
  | smallTransfer =>
    exact blamesInput_bind (blamesInput_notBlank _ _) fun _ =>
      blamesInput_bind (blamesInput_notBlank _ _) fun _ =>
        blamesInput_bind (blamesInput_parseTx _) fun _ => blamesInput_ok _
  | recharge =>
    have hblames : BlamesInput (TransferId.parse values.1 >>= fun tx =>
        fieldBytes values.2.1 >>= fun bs => .ok (Invocation.transfer (.recharge tx bs))) :=
      blamesInput_bind (blamesInput_parseTx _) fun _ =>
        blamesInput_bind (blamesInput_fieldBytes _) fun _ => blamesInput_ok _
    rwa [← invocation_recharge values.1 values.2.1] at hblames
  | refundWithdraw | rechargeData | withdrawData =>
    exact blamesInput_bind (blamesInput_parseTx _) fun _ => blamesInput_ok _
  | encodeWithdraw =>
    exact blamesInput_bind (blamesInput_notBlank _ _) fun _ =>
      blamesInput_bind (blamesInput_amount _ _) fun _ =>
        blamesInput_bind (blamesInput_amount _ _) fun _ => blamesInput_ok _

/-- Parameters that cannot be read are wrong input. -/
theorem blamesInput_parse (m : Method) (params : Json) : BlamesInput (parse m params) := by
  unfold parse
  split
  · exact blamesInput_error _
  · split
    · exact blamesInput_error _
    · exact blamesInput_invocation m _

end Params

/-! ## Methods that change the chain -/

/-- The names of the methods that may change the chain. -/
def changingNames : List String :=
  ["receivedInvaliedwithrawtx", "smallCrossChainTransaction", "recharge", "refundWithdraw"]

/-- A request for a method that may change the chain. -/
def Changes (request : Json) : Prop :=
  ∃ name ∈ changingNames, request.get? "method" = some (.str name)

/-- The methods that may change the chain are those for transfers. -/
theorem changes_iff {request : Json} :
    Changes request ↔ ∃ kind : TransferKind, requestMethod? request = some kind.method.name := by
  constructor
  · rintro ⟨name, mem, method⟩
    rw [requestMethod?_eq_some_iff.mpr method]
    simp only [changingNames, List.mem_cons, List.not_mem_nil, or_false] at mem
    rcases mem with rfl | rfl | rfl | rfl
    · exact ⟨.invalidWithdraw, rfl⟩
    · exact ⟨.smallTransfer, rfl⟩
    · exact ⟨.recharge, rfl⟩
    · exact ⟨.refundWithdraw, rfl⟩
  · rintro ⟨kind, method⟩
    refine ⟨kind.method.name, ?_, requestMethod?_eq_some_iff.mp method⟩
    cases kind <;> decide

end Rpc

namespace Task.Closed

variable {P : (α : Type) → Task α → Prop} {ι : Type}

/-- Properties of this sort hold together. -/
theorem all {Q : ι → (α : Type) → Task α → Prop} (closed : ∀ i, Closed (Q i)) :
    Closed fun α x => ∀ i, Q i α x where
  pure a i := (closed i).pure a
  fail fault i := (closed i).fail fault
  bind hx hf i := (closed i).bind (hx i) fun a => hf a i
  isCompleted tx i := (closed i).isCompleted tx
  rechargeData tx i := (closed i).rechargeData tx
  withdrawData tx i := (closed i).withdrawData tx

theorem ofExcept (closed : Closed P) {α : Type} (r : Except Fault α) :
    P α (Task.ofExcept r) := by
  cases r with
  | error fault => exact closed.fail fault
  | ok a => exact closed.pure a

/-- Filtering a batch reads the flags of the batch. -/
theorem filterBy (closed : Closed P)
    (flags : ∀ txs : List TransferId, P (List Bool) (Task.completionFlags txs))
    (key : ι → Except Fault TransferId) (items : List ι) :
    P (List ι) (Inquiry.filterBy key items) :=
  closed.bind (closed.ofExcept _) fun txs => closed.bind (flags txs) fun _ => closed.pure _

theorem withdrawal (closed : Closed P) (tx : TransferId) : P Withdrawal (Inquiry.withdrawal tx) :=
  closed.bind (closed.withdrawData tx) fun _ =>
    closed.bind (closed.isCompleted tx) fun _ => closed.pure _

theorem decodeEntries (closed : Closed P) (data : String) :
    P (List RechargeEntry) (Rpc.decodeEntries data) :=
  closed.ofExcept _

/-- What holds of reads holds of what a method does, but for its batch and its transfer. -/
theorem perform (closed : Closed P) {invocation : Rpc.Invocation}
    (flags : invocation.method = .processedInvalidWithdraw →
      ∀ txs : List TransferId, P (List Bool) (Task.completionFlags txs))
    (process : ∀ t : Transfer, invocation = .transfer t → P TransferOutcome t.process) :
    P Json invocation.perform := by
  cases invocation with
  | processed txs =>
    exact closed.bind (closed.filterBy (flags rfl) _ txs) fun _ => closed.pure _
  | transfer t => exact closed.bind (process t rfl) fun _ => closed.pure _
  | rechargeData tx => exact closed.bind (closed.rechargeData tx) fun _ => closed.pure _
  | decodeRechargeData data =>
    exact closed.bind (closed.decodeEntries data) fun _ => closed.pure _
  | withdrawData tx => exact closed.bind (closed.withdrawal tx) fun _ => closed.pure _
  | encodeWithdraw request => exact closed.pure _

/-- What holds of reads holds of a method, but for its batch and its transfers. -/
theorem call (closed : Closed P) {m : Rpc.Method}
    (flags : m = .processedInvalidWithdraw →
      ∀ txs : List TransferId, P (List Bool) (Task.completionFlags txs))
    (process : ∀ t : Transfer, t.kind.method = m → P TransferOutcome t.process) (params : Json) :
    P Json (m.call params) := by
  unfold Rpc.Method.call
  cases parsed : Rpc.Params.parse m params with
  | error fault => exact closed.fail fault
  | ok invocation =>
    have hmethod := Rpc.method_of_parse parsed
    refine closed.perform (fun h => flags (hmethod.symm.trans h)) fun t ht => process t ?_
    rw [← hmethod, ht]
    rfl

end Task.Closed

end TransferRelay

import TransferRelay.Chain.Ledger
import TransferRelay.Proofs.Rpc.Envelopes
import TransferRelay.Proofs.Transfer.Course

/-!
# Wrong input never reaches the chain

A task `JudgesInput` if it finds all that is wrong with its input before it calls the chain: either
it does nothing but count, or each of its faults is one of the chain. All methods do
(`judgesInput_call`), so a request that is refused for what it says has left the world as it was but
for the counters (`untouched_of_input_refusal`).
-/

namespace TransferRelay

variable {σ α β ι : Type}

/-- Whether a fault is one of the chain. -/
def Fault.isOfChain : Fault → Bool
  | .read _ | .submit _ => true
  | .malformed _ | .input _ => false

/-- If a result is a fault, it is one of the chain. -/
def OfChain (r : Except Fault α) : Prop :=
  ∀ fault, r = .error fault → fault.isOfChain = true

theorem ofChain_ok (a : α) : OfChain (.ok a) := by
  rintro _ ⟨⟩

theorem ofChain_error {fault : Fault} (h : fault.isOfChain = true) :
    OfChain (.error fault : Except Fault α) := by
  rintro _ ⟨⟩
  exact h

namespace Task

/-- A task all of whose faults are those of the chain. -/
def FailsByChain (x : Task α) : Prop :=
  x.run.Ends OfChain

/-- A task that finds what is wrong with its input before it calls the chain. -/
def JudgesInput (x : Task α) : Prop :=
  x.run.Idle ∨ x.FailsByChain

theorem failsByChain_pure (a : α) : (pure a : Task α).FailsByChain :=
  .done (ofChain_ok a)

theorem failsByChain_bind {x : Task α} {f : α → Task β} (hx : x.FailsByChain)
    (hf : ∀ a, (f a).FailsByChain) : (x >>= f).FailsByChain := by
  refine Plan.Ends.bind hx fun r hr => ?_
  cases r with
  | error fault => exact .done (ofChain_error (hr fault rfl))
  | ok a => exact hf a

/-- Making something of the result changes nothing of when the input is judged. -/
theorem judgesInput_map {x : Task α} (hx : x.JudgesInput) (g : α → β) :
    (x >>= fun a => pure (g a)).JudgesInput := by
  rcases hx with idle | chain
  · refine .inl (idle.bind fun r => ?_)
    cases r <;> exact .done _
  · exact .inr (failsByChain_bind chain fun a => failsByChain_pure (g a))

/-- Input may be judged first of all. -/
theorem judgesInput_ofExcept {r : Except Fault α} {f : α → Task β}
    (hf : ∀ a, (f a).JudgesInput) : (ofExcept r >>= f).JudgesInput := by
  cases r with
  | error cause => exact .inl (.done _)
  | ok a => exact hf a

/-! ## Calls -/

theorem failsByChain_ofRead (r : Except ReadFault α) : (ofRead r).FailsByChain := by
  cases r with
  | error cause => exact .done (ofChain_error rfl)
  | ok a => exact failsByChain_pure a

theorem failsByChain_ofLedgerRead (r : Except ReadFault α) : (ofLedgerRead r).FailsByChain := by
  cases r with
  | error cause => exact .count (.done (ofChain_error rfl))
  | ok a => exact failsByChain_pure a

theorem failsByChain_isCompleted (tx : TransferId) : (isCompleted tx).FailsByChain :=
  .call fun r => failsByChain_ofLedgerRead r

theorem failsByChain_completionFlags (txs : List TransferId) :
    (completionFlags txs).FailsByChain :=
  .flags fun r => failsByChain_ofLedgerRead r

theorem failsByChain_rechargeData (tx : TransferId) : (rechargeData tx).FailsByChain :=
  .call fun r => failsByChain_ofRead r

theorem failsByChain_withdrawData (tx : TransferId) : (withdrawData tx).FailsByChain :=
  .call fun r => failsByChain_ofRead r

end Task

/-! ## Operations -/

theorem Transfer.failsByChain_process (t : Transfer) : t.process.FailsByChain := by
  show t.process.run.Ends _
  rw [process_run]
  refine .call fun read => ?_
  rcases read with cause | flag
  · exact .count (.done (ofChain_error rfl))
  · cases flag with
    | true =>
      refine .count ?_
      cases t with
      | smallTransfer signature rawTx tx => exact .notify (.done (ofChain_ok _))
      | _ => exact .done (ofChain_ok _)
    | false =>
      refine .call fun answer => ?_
      cases t.receipt answer with
      | error cause => exact .done (ofChain_error rfl)
      | ok sent => exact .count (.done (ofChain_ok _))

namespace Inquiry

/-- The identifiers of a batch are all derived before the ledger is read. -/
theorem judgesInput_filterBy (key : ι → Except Fault TransferId) (items : List ι) :
    (filterBy key items).JudgesInput := by
  refine Task.judgesInput_ofExcept fun txs => .inr ?_
  exact Task.failsByChain_bind (Task.failsByChain_completionFlags txs) fun flags =>
    Task.failsByChain_pure _

theorem failsByChain_withdrawal (tx : TransferId) : (withdrawal tx).FailsByChain := by
  refine Task.failsByChain_bind (Task.failsByChain_withdrawData tx) fun record => ?_
  exact Task.failsByChain_bind (Task.failsByChain_isCompleted tx) fun completed =>
    Task.failsByChain_pure _

end Inquiry

namespace Rpc

theorem judgesInput_perform (invocation : Invocation) : invocation.perform.JudgesInput := by
  cases invocation with
  | processed txs => exact Task.judgesInput_map (Inquiry.judgesInput_filterBy _ txs) _
  | transfer t => exact Task.judgesInput_map (.inr t.failsByChain_process) _
  | rechargeData tx => exact Task.judgesInput_map (.inr (Task.failsByChain_rechargeData tx)) _
  | decodeRechargeData data =>
    have hdecode : (decodeEntries data).JudgesInput := .inl (.done _)
    exact Task.judgesInput_map hdecode _
  | withdrawData tx => exact Task.judgesInput_map (.inr (Inquiry.failsByChain_withdrawal tx)) _
  | encodeWithdraw request => exact .inl (.done _)

/-- Every method judges its parameters before it calls the chain. -/
theorem judgesInput_call (m : Method) (params : Json) : (m.call params).JudgesInput :=
  Task.judgesInput_ofExcept judgesInput_perform

/-! ## Requests -/

/-- A refusal for what the chain did. -/
def Refusal.IsOfChain (refusal : Refusal) : Prop :=
  ∃ fault : Fault, fault.isOfChain = true ∧ refusal = .failed fault

/-- A request does nothing but count, or it is refused for what the chain did only. -/
theorem idle_or_ends_handle (request : Json) :
    (handle request).Idle ∨
      (handle request).Ends fun e => ∀ refusal, e.answer = .error refusal → refusal.IsOfChain := by
  rcases refused_or_served request with ⟨name, refusal, hrefused⟩ | ⟨m, hserved⟩
  · rw [hrefused]
    exact .inl (.count (.done _))
  · rw [hserved]
    rcases judgesInput_call m (requestParams request) with idle | chain
    · exact .inl (idle.bind fun r => .count (.done _))
    · refine .inr (Plan.Ends.bind chain fun r hr => .count (.done ?_))
      cases r with
      | error fault =>
        rintro _ ⟨⟩
        exact ⟨fault, hr fault rfl, rfl⟩
      | ok result => rintro _ ⟨⟩

/-- A body does nothing but count, or it is refused for what the chain did only. -/
theorem idle_or_ends_answerRpc (body : ByteArray) :
    (Http.answerRpc body).Idle ∨ (Http.answerRpc body).Ends fun e =>
      ∀ refusal, e.answer = .error refusal → refusal.IsOfChain := by
  unfold Http.answerRpc
  cases Json.parseUtf8 body with
  | none => exact .inl (.count (.done _))
  | some request => exact idle_or_ends_handle request

/-! ## Codes -/

/-- The code of the error in an answer. -/
def errorCode? (answer : Json) : Option Int :=
  match (answer.get? "error").bind (Json.get? "code") with
  | some (.num (.whole code _)) => some code
  | _ => none

/-- The codes that tell a client what is wrong with its request: it is no JSON, names no method or
one that is not served, or has parameters or data that cannot be read. -/
def inputCodes : List Int :=
  [-32700, -32600, -32601, -32602, -32001]

theorem exists_refusal_of_errorCode? {e : Envelope} {code : Int}
    (h : errorCode? e.json = some code) :
    ∃ refusal, e.answer = .error refusal ∧ refusal.code = code := by
  cases hanswer : e.answer with
  | ok result =>
    rw [errorCode?, (Envelope.get?_of_ok hanswer).1] at h
    cases h
  | error refusal =>
    rw [errorCode?, (Envelope.get?_of_error hanswer).1] at h
    exact ⟨refusal, rfl, Option.some.inj h⟩

theorem not_mem_inputCodes {refusal : Refusal} (h : refusal.IsOfChain) :
    refusal.code ∉ inputCodes := by
  obtain ⟨fault, hfault, rfl⟩ := h
  cases fault with
  | read cause =>
    show FaultKind.queryUnavailable.code ∉ inputCodes
    decide
  | submit cause =>
    show FaultKind.submissionFailed.code ∉ inputCodes
    decide
  | malformed cause => cases hfault
  | input cause => cases hfault

/-- A plan of an answer with one of these codes does nothing but count. -/
theorem idle_of_errorCode? {p : Plan Envelope} (d : Deployment σ) {w : World σ} {code : Int}
    (judged : p.Idle ∨
      p.Ends fun e => ∀ refusal, e.answer = .error refusal → refusal.IsOfChain)
    (mem : code ∈ inputCodes) (h : errorCode? (p.complete d w).1.json = some code) : p.Idle := by
  rcases judged with idle | chain
  · exact idle
  · obtain ⟨refusal, hrefusal, rfl⟩ := exists_refusal_of_errorCode? h
    exact absurd mem (not_mem_inputCodes (chain.complete d w refusal hrefusal))

section Untouched

variable (d : Deployment σ) (chain : σ) (metrics : Metrics) (log : List Event)

/-- **Wrong input never reaches the chain.** If a request, alone or in the body of a request to the
server, is answered with a code for wrong input, then no call has been made for it and no notice is
left behind: the chain and the log of calls are as they were. -/
theorem untouched_of_input_refusal :
    (∀ (request : Json) (code : Int), code ∈ inputCodes →
      errorCode? ((handle request).complete d ⟨chain, metrics, log, []⟩).1.json = some code →
      ∃ counted, ((handle request).complete d ⟨chain, metrics, log, []⟩).2 =
        ⟨chain, counted, log, []⟩) ∧
    ∀ (uptime : Nat) (r : Http.Request) (answer : Json) (code : Int), code ∈ inputCodes →
      (Http.handle d uptime r ⟨chain, metrics, log, []⟩).1.body = .json answer →
      errorCode? answer = some code →
      ∃ counted, (Http.handle d uptime r ⟨chain, metrics, log, []⟩).2 =
        ⟨chain, counted, log, []⟩ := by
  constructor
  · intro request code mem hcode
    exact (idle_of_errorCode? d (idle_or_ends_handle request) mem hcode).complete d rfl
  · intro uptime r answer code mem hbody hcode
    -- the route is what answers, unless only the head is asked for
    have hroute : (r.route.handle d uptime ⟨chain, metrics, log, []⟩).1.body = .json answer := by
      by_cases hhead : r.method = "HEAD"
      · simp [Http.handle, hhead, Http.Response.head] at hbody
      · simpa [Http.handle, hhead] using hbody
    show ∃ counted, (r.route.handle d uptime ⟨chain, metrics, log, []⟩).2 = _
    cases hr : r.route with
    | rpc body =>
      rw [hr] at hroute
      injection hroute with hanswer
      rw [← hanswer] at hcode
      exact (idle_of_errorCode? d (idle_or_ends_answerRpc body) mem hcode).complete d rfl
    | _ => exact ⟨metrics, rfl⟩

end Untouched

/-- Neither a batch of which only the last text is wrong nor a body that is cut off reaches the
chain, whose reads would fail. -/
theorem untouched_of_input_refusal_of_long_batch :
    let hash := "0xaaaaaaaaaaaaaaaaaaaaaaaaaaaaaaaaaaaaaaaaaaaaaaaaaaaaaaaaaaaaaaaa"
    let request : Json := .obj [("method", .str "processedInvalidWithdrawtx"),
      ("params", .arr [.arr [.str hash, .str hash, .str "0xaa"]])]
    let r : Http.Request := ⟨"POST", "/", ⟨#[0x7b]⟩⟩
    let d : Deployment Ledger := ⟨Ledger.answer, fun _ => true, 0⟩
    let chain := Ledger.empty.apply (.failReads (some "down"))
    let after := (handle request).complete d ⟨chain, .empty, [], []⟩
    let response := Http.handle d 0 r ⟨chain, .empty, [], []⟩
    (errorCode? after.1.json = some (-32602) ∧
        ∃ counted, after.2 = ⟨chain, counted, [], []⟩) ∧
      response.1.body = .json Http.notJson.json ∧
      errorCode? Http.notJson.json = some (-32700) ∧
        ∃ counted, response.2 = ⟨chain, counted, [], []⟩ := by
  have parsed : Json.parseUtf8 ⟨#[0x7b]⟩ = none := rfl
  intro hash request r d chain after response
  have refused : errorCode? after.1.json = some (-32602) := by
    subst after chain d request hash
    decide +kernel
  have cut : response.1.body = .json Http.notJson.json := by
    have root : r.resource? = some .rpc := by decide
    have size : r.body.size ≤ Http.maxBody := by decide
    show (Http.handle d 0 r _).1.body = _
    rw [Http.handle_post rfl root size, Http.answerRpc, parsed]
    rfl
  have unread : errorCode? Http.notJson.json = some (-32700) := rfl
  have untouched := untouched_of_input_refusal d chain .empty []
  exact ⟨⟨refused, untouched.1 request _ (by decide) refused⟩, cut, unread,
    untouched.2 0 r _ _ (by decide) cut unread⟩

end Rpc

end TransferRelay

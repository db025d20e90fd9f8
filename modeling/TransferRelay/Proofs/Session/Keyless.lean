import TransferRelay.Proofs.Address
import TransferRelay.Proofs.Chain.Agreement
import TransferRelay.Proofs.Node.Confirmation
import TransferRelay.Proofs.Node.Starting
import TransferRelay.Proofs.Session.Secrecy
import TransferRelay.Session.OverNode

/-!
# Services without a key

Recharges and refunds are signed by the service. Without a key it refuses them once it has read that
they are not complete, and whatever it is asked, its node sees nothing of a transaction: neither the
transaction nor what has to be known before one can be signed.

Everything else is the same with a key and without one (`nothing_signed_without_key`): such
operations are made of calls that need no signature, and these a client answers without looking at
its key.
-/

namespace TransferRelay

variable {σ ν : Type}

/-! ## What is signed -/

/-- Whether a call is made by a transaction that is signed here. -/
def Call.isSigned : Call → Bool
  | .submitRecharge _ _ | .submitRefund _ => true
  | _ => false

/-- A call that needs no signature. -/
abbrev Call.Unsigned (c : Call) : Prop := c.isSigned = false

/-- Whether a transfer is submitted by a transaction that is signed here. -/
def Transfer.isSigned : Transfer → Bool
  | .recharge _ _ | .refundWithdraw _ => true
  | _ => false

/-- A request for a transfer that is signed here. -/
def Rpc.AsksToSign (request : Json) : Prop :=
  ∃ m t, requestMethod? request = some (Method.name m) ∧
    Params.parse m (requestParams request) = .ok (.transfer t) ∧ t.isSigned = true

/-- An operation that signs transfers. -/
def Operation.Signs : Operation → Prop
  | .request r => Rpc.AsksToSign r
  | .http r => ∃ body request, r.route = .rpc body ∧ Json.parseUtf8 body = some request ∧
      Rpc.AsksToSign request
  | .process t => t.isSigned = true
  | .race requests => ∃ r ∈ requests, Rpc.AsksToSign r
  | _ => False

/-! ## Operations that sign nothing -/

section Unsigned

open Plan (Confined)

theorem Transfer.confined_process {t : Transfer} (unsigned : t.isSigned = false) :
    t.process.run.Confined Call.Unsigned := by
  rw [process_run]
  refine .call rfl fun read => ?_
  rcases read with cause | flag
  · exact .count (.done _)
  · cases flag with
    | true =>
      refine .count ?_
      cases t with
      | smallTransfer signature rawTx tx => exact .notify (.done _)
      | _ => exact .done _
    | false =>
      have hsubmission : t.submission.Unsigned := by cases t <;> first | rfl | cases unsigned
      refine .call hsubmission fun answer => ?_
      cases t.receipt answer with
      | error cause => exact .done _
      | ok sent => exact .count (.done _)

theorem Task.confined_ofLedgerRead {α : Type} (r : Except ReadFault α) :
    (ofLedgerRead r).run.Confined Call.Unsigned := by
  cases r with
  | error cause => exact .count (.done _)
  | ok a => exact .done _

theorem Task.confined_completionFlags (txs : List TransferId) :
    (completionFlags txs).run.Confined Call.Unsigned :=
  .flags confined_ofLedgerRead

/-- Reads need no signature, and neither does what is put together of them. -/
theorem Task.closed_confined : Closed fun _ x => x.run.Confined Call.Unsigned where
  pure a := .done _
  fail fault := .done _
  bind hx hf := by
    refine Confined.bind hx fun r => ?_
    cases r with
    | error fault => exact .done _
    | ok a => exact hf a
  isCompleted tx := .call rfl confined_ofLedgerRead
  rechargeData tx := .call rfl fun r => by cases r <;> exact .done _
  withdrawData tx := .call rfl fun r => by cases r <;> exact .done _

theorem Rpc.confined_handle {request : Json} (unsigned : ¬AsksToSign request) :
    (handle request).Confined Call.Unsigned := by
  have hresolve : (resolve request).Confined Call.Unsigned := by
    refine resolve_cases (fun refusal => .done _) fun m method => ?_
    refine Confined.bind ?_ fun r => .done _
    unfold Method.call
    cases parsed : Params.parse m (requestParams request) with
    | error cause => exact .done _
    | ok invocation =>
      refine Task.closed_confined.perform (fun _ => Task.confined_completionFlags) fun t ht => ?_
      subst ht
      refine t.confined_process (Bool.eq_false_iff.mpr fun signed => unsigned ?_)
      exact ⟨m, t, method, parsed, signed⟩
  rw [handle_eq]
  exact hresolve.bind fun r => .count (.done _)

theorem Http.confined_answerRpc {body : ByteArray}
    (unsigned : ∀ request, Json.parseUtf8 body = some request → ¬Rpc.AsksToSign request) :
    (answerRpc body).Confined Call.Unsigned := by
  unfold answerRpc
  split
  · next request read => exact Rpc.confined_handle (unsigned request read)
  · exact .count (.done _)

variable {d d' : Deployment σ}

theorem Http.handle_congr (agree : d.AgreeOn Call.Unsigned d') (uptime : Nat) {r : Request}
    (unsigned : ¬(Operation.http r).Signs) (w : World σ) :
    handle d uptime r w = handle d' uptime r w := by
  have hroute : r.route.handle d uptime w = r.route.handle d' uptime w := by
    cases route : r.route with
    | rpc body =>
      have hbody : (answerRpc body).Confined Call.Unsigned :=
        confined_answerRpc fun request read asks => unsigned ⟨body, request, route, read, asks⟩
      simp only [Route.handle, hbody.complete agree w]
    | _ => rfl
  rw [handle, handle, hroute]

/-- An operation that signs nothing is the same wherever calls that need no signature are. -/
theorem Operation.run_congr (agree : d.AgreeOn Call.Unsigned d') {op : Operation}
    (unsigned : ¬op.Signs) (w : World σ) : op.run d w = op.run d' w := by
  by_cases direct : op.isDirect = true
  · have processing : ∀ t : Transfer, op = .process t → Confined Call.Unsigned t.process := by
      rintro t rfl
      exact t.confined_process (Bool.eq_false_iff.mpr unsigned)
    obtain rfl | ⟨α, wrap, x, confined, hrun⟩ :=
      Task.closed_confined.operation Task.confined_completionFlags processing direct
    · rfl
    · rw [hrun, hrun, Operation.run.of, Operation.run.of, Confined.complete confined agree]
  · cases op with
    | request r =>
      simp only [Operation.run, Operation.run.of, (Rpc.confined_handle unsigned).complete agree w]
    | http r => simp only [Operation.run, Http.handle_congr agree 0 unsigned w]
    | race requests =>
      have hplans : ∀ p ∈ requests.map Rpc.handle, p.Confined Call.Unsigned := by
        intro p hp
        obtain ⟨r, hr, rfl⟩ := List.mem_map.mp hp
        exact Rpc.confined_handle fun asks => unsigned ⟨r, hr, asks⟩
      simp only [Operation.run, Plan.race_congr hplans agree w]
    | _ => exact absurd rfl direct

end Unsigned

/-! ## What all calls keep -/

theorem Call.alike_refl (c : Call) (a : c.Answer) : c.Alike a a := by
  have hends : ∀ {ε α : Type} (r : Except ε α), FailAlike r r := fun r =>
    match r with
    | .error _ => .error trivial
    | .ok _ => .ok rfl
  cases c <;> first | exact hends a | trivial

/-- What every call keeps of the chain is kept by every operation. -/
theorem Operation.keeps_chain {d : Deployment σ} {I : σ → Prop}
    (keeps : ∀ (c : Call) (chain : σ), I chain → I (d.answer c chain).2) (op : Operation)
    {w : World σ} (h : I w.chain) : I (op.run d w).2.chain := by
  -- the service beside itself: both sides make the same calls
  have coupled : d.Coupled d fun chain chain' => chain = chain' ∧ I chain := by
    refine ⟨fun c chain chain' same => ?_, rfl⟩
    obtain ⟨rfl, hchain⟩ := same
    exact ⟨c.alike_refl _, rfl, keeps c chain hchain⟩
  exact (alike_operation coupled ⟨⟨rfl, h⟩, rfl, rfl⟩ op).2.chain.2

namespace Node

/-! ## Clients without a key -/

/-- Whether a request prepares a transaction or sends one. -/
def Request.isForSigning : Request → Bool
  | .prepare _ _ _ _ | .send _ => true
  | _ => false

/-- A line over which no transaction has been prepared or sent. -/
def Line.Unsigned (l : Line ν) : Prop :=
  ∀ r ∈ l.requests, r.isForSigning = false

theorem Line.Unsigned.exchange {l : Line ν} (h : l.Unsigned) (n : Behaviour ν) {r : Request}
    (unsigned : r.isForSigning = false) : (l.exchange n r).2.Unsigned := by
  unfold Unsigned
  obtain hsame | hmore := Line.requests_exchange n r l
  · rw [hsame]
    exact h
  · rw [hmore]
    intro r' mem
    rcases List.mem_append.mp mem with mem | mem
    · exact h r' mem
    · rw [List.mem_singleton.mp mem]
      exact unsigned

section Keyless

variable {c : Client} (keyless : c.signer = none)
include keyless

/-- Without a key, what would have to be signed is refused, and the node sees nothing of it. -/
theorem answer_of_keyless (n : Behaviour ν) {call : Call} (signed : call.isSigned = true)
    (l : Line ν) : call.failed (c.answer n call l).1 = true ∧ (c.answer n call l).2 = l := by
  have haddress : c.signerAddress? = none := by rw [Client.signerAddress?, keyless]; rfl
  cases call with
  | submitRecharge tx data =>
    simp only [Client.answer, Client.act, haddress]
    exact ⟨rfl, trivial⟩
  | submitRefund tx =>
    simp only [Client.answer, Client.act, haddress]
    exact ⟨rfl, trivial⟩
  | _ => cases signed

/-- Without a key, no call prepares or sends a transaction. -/
theorem unsigned_answer (n : Behaviour ν) (call : Call) {l : Line ν} (h : l.Unsigned) :
    (c.answer n call l).2.Unsigned := by
  have hview : ∀ {α : Type} (v : ContractView) (decode : Bytes → Option α) (tx : TransferId),
      (c.view n v decode tx l).2.Unsigned := by
    intro α v decode tx
    rw [view_eq]
    exact h.exchange n rfl
  have hpass : ∀ (method : NodeMethod) (params : List String),
      (Client.pass n method params l).2.Unsigned := by
    intro method params
    have hnumbered : l.numbered.Unsigned := h
    rw [pass_eq]
    exact hnumbered.exchange n rfl
  by_cases signed : call.isSigned = true
  · rw [(answer_of_keyless keyless n signed l).2]
    exact h
  · cases call with
    | isCompleted tx => exact hview _ _ tx
    | rechargeData tx => exact hview _ _ tx
    | withdrawData tx => exact hview _ _ tx
    | sendInvalidWithdraw signature tx => exact hpass _ _
    | submitSmallTransfer signature rawTx => exact hpass _ _
    | notifyAccepted tx => exact hpass _ _
    | _ => exact absurd rfl signed

end Keyless

/-- Clients of one contract answer what needs no signature alike. -/
theorem agreeOn_unsigned {c c' : Client} (bridge : c.bridge = c'.bridge) (n : Behaviour ν)
    (counts : Component → Bool) (window : Nat) :
    (c.deployment n counts window).AgreeOn Call.Unsigned (c'.deployment n counts window) := by
  have hview : ∀ {α : Type} (v : ContractView) (decode : Bytes → Option α) (tx : TransferId),
      c.view n v decode tx = c'.view n v decode tx := by
    intro α v decode tx
    funext l
    rw [Client.view, Client.view, bridge]
  refine ⟨fun call unsigned => ?_, fun tx => funext fun l => ?_, fun tx => rfl, rfl, rfl⟩
  · funext l
    cases call with
    | isCompleted tx => exact congrFun (hview _ _ tx) l
    | rechargeData tx => exact congrFun (hview _ _ tx) l
    | withdrawData tx => exact congrFun (hview _ _ tx) l
    | submitRecharge tx data => cases unsigned
    | submitRefund tx => cases unsigned
    | _ => rfl
  · exact congrFun (hview _ _ tx) l

/-- How a transfer ends that would have to be signed, by what the ledger says of it. -/
inductive EndsUnsigned (t : Transfer) : Except ReadFault Bool → Except Fault TransferOutcome → Prop
  | unread (cause : ReadFault) : EndsUnsigned t (.error cause) (.error (.read cause))
  | completed : EndsUnsigned t (.ok true) (.ok ⟨true, t.finalState, none⟩)
  | refused : EndsUnsigned t (.ok false) (.error (.submit .noSigner))

/-- Without a key, a transfer that would have to be signed ends behind the read of the ledger. -/
theorem complete_process_of_keyless {c : Client} (keyless : c.signer = none) (n : Behaviour ν)
    (counts : Component → Bool) (window : Nat) {t : Transfer} (signed : t.isSigned = true)
    (l : Line ν) (metrics : Metrics) (log : List Event) :
    let after := t.process.run.complete (c.deployment n counts window) ⟨l, metrics, log, []⟩
    EndsUnsigned t (c.answer n (.isCompleted t.tx) l).1 after.1 ∧
      after.2.chain = (c.answer n (.isCompleted t.tx) l).2 := by
  intro after
  have haddress : c.signerAddress? = none := by rw [Client.signerAddress?, keyless]; rfl
  have hsubmission : ∀ line : Line ν,
      t.receipt (c.answer n t.submission line).1 = .error .noSigner ∧
        (c.answer n t.submission line).2 = line := by
    intro line
    cases t with
    | recharge tx data => simp [Transfer.submission, Client.answer, Client.act, haddress,
        Transfer.receipt, Except.map]
    | refundWithdraw tx => simp [Transfer.submission, Client.answer, Client.act, haddress,
        Transfer.receipt, Except.map]
    | _ => cases signed
  have hquiet : t.notified = [] := by cases t <;> first | rfl | cases signed
  have hafter : after = (t.afterRead (c.answer n (.isCompleted t.tx) l).1).complete
      (c.deployment n counts window) ⟨(c.answer n (.isCompleted t.tx) l).2, metrics,
        ⟨.isCompleted t.tx, Call.failed _ (c.answer n (.isCompleted t.tx) l).1⟩ :: log, []⟩ := by
    show t.process.run.complete _ _ = _
    rw [Transfer.process_run]
    rfl
  rw [hafter]
  generalize (c.answer n (.isCompleted t.tx) l).2 = behind
  rcases (c.answer n (.isCompleted t.tx) l).1 with cause | flag
  · refine ⟨.unread cause, ?_⟩
    rw [Transfer.afterRead, Plan.complete_count, Deployment.chain_tally]
    rfl
  · cases flag with
    | true =>
      rw [Transfer.afterRead, Transfer.afterCompletion, hquiet, Plan.complete_count,
        Deployment.chain_tally]
      exact ⟨.completed, rfl⟩
    | false =>
      obtain ⟨hreceipt, hline⟩ := hsubmission behind
      rw [Transfer.afterRead, Plan.complete_call]
      show EndsUnsigned t _
          ((t.afterSubmission (t.receipt (c.answer n t.submission behind).1)).complete _ _).1 ∧
        ((t.afterSubmission (t.receipt (c.answer n t.submission behind).1)).complete _ _).2.chain =
          _
      rw [hreceipt]
      exact ⟨.refused, hline⟩

end Node

namespace Session.OverNode

/-! ## Sessions -/

/-- A step that signs transfers. -/
def Step.Signs : Step ν → Prop
  | .operation op => op.Signs
  | .call c => c.isSigned = true
  | .change _ => False

theorem Step.run_congr {d d' : Deployment (Node.Line ν)} (agree : d.AgreeOn Call.Unsigned d')
    {step : Step ν} (unsigned : ¬step.Signs) (w : World (Node.Line ν)) :
    step.run d w = step.run d' w := by
  cases step with
  | operation op => simp only [Step.run, Operation.run_congr agree unsigned w]
  | call c => simp only [Step.run, agree.answer c (Bool.eq_false_iff.mpr unsigned)]
  | change f => rfl

/-- Without a key, no step of a session prepares or sends a transaction. -/
theorem unsigned_step {c : Node.Client} (keyless : c.signer = none) (n : Node.Behaviour ν)
    (counts : Component → Bool) (window : Nat) (step : Step ν) {w : World (Node.Line ν)}
    (h : w.chain.Unsigned) : (step.run (c.deployment n counts window) w).2.chain.Unsigned := by
  have keeps : ∀ (call : Call) (l : Node.Line ν), l.Unsigned →
      ((c.deployment n counts window).answer call l).2.Unsigned :=
    fun call l hl => Node.unsigned_answer keyless n call hl
  cases step with
  | operation op => exact op.keeps_chain keeps h
  | call call => exact keeps call _ h
  | change f => exact h

theorem unsigned_run {c : Node.Client} (keyless : c.signer = none) (n : Node.Behaviour ν)
    (counts : Component → Bool) (window : Nat) (steps : List (Step ν))
    (w : World (Node.Line ν)) :
    ∀ answer ∈ (run (c.deployment n counts window) steps w).1,
      ∀ r ∈ answer.requests, r.isForSigning = false := by
  induction steps generalizing w with
  | nil => exact List.forall_mem_nil _
  | cons step steps ih =>
    -- each step is answered with the requests made during it
    have hfresh : Node.Line.Unsigned { w.chain with requests := [] } := nofun
    exact List.forall_mem_cons.mpr
      ⟨unsigned_step keyless n counts window step hfresh, ih _⟩

/-- **Without a key nothing is signed.** Whatever the node does, in no run over a client without a
private key does the node receive a transaction, or a request that prepares one. A recharge or a
refund that the ledger has complete is answered so, one that it does not have complete is refused,
and one that cannot be read fails as a read; the node receives nothing of it but that read. Every
step that signs nothing has the same result, makes the same requests and leaves the same world as
over a client with a key. -/
theorem nothing_signed_without_key {url bridge key : String} {keyless keyed : Node.Client}
    (started : Node.Client.start url bridge none = .ok keyless)
    (startedWithKey : Node.Client.start url bridge (some key) = .ok keyed) (n : Node.Behaviour ν)
    (counts : Component → Bool) (window : Nat) :
    let d := keyless.deployment n counts window
    let d' := keyed.deployment n counts window
    (∀ (steps : List (Step ν)) (w : World (Node.Line ν)), ∀ answer ∈ (run d steps w).1,
      ∀ r ∈ answer.requests, r.isForSigning = false) ∧
    (∀ (t : Transfer), t.isSigned = true → ∀ (l : Node.Line ν) (metrics : Metrics)
      (log : List Event),
      let read := keyless.answer n (.isCompleted t.tx) l
      let after := (Operation.process t).run d ⟨l, metrics, log, []⟩
      (∃ outcome, after.1 = .outcome outcome ∧ Node.EndsUnsigned t read.1 outcome) ∧
        after.2.chain = read.2 ∧
        (after.2.chain.requests = l.requests ∨
          after.2.chain.requests = l.requests ++ [.view keyless.bridge .completed t.tx.bytes])) ∧
    ∀ step : Step ν, ¬step.Signs → ∀ w, step.run d w = step.run d' w := by
  intro d d'
  obtain ⟨hbridge, hkey, -⟩ := Node.Client.start_eq_ok_iff.mp started
  obtain ⟨hbridge', -, -⟩ := Node.Client.start_eq_ok_iff.mp startedWithKey
  have hkeyless : keyless.signer = none := (Except.ok.inj hkey).symm
  have hsame : keyless.bridge = keyed.bridge := Except.ok.inj (hbridge.symm.trans hbridge')
  refine ⟨unsigned_run hkeyless n counts window, fun t signed l metrics log => ?_,
    fun step unsigned w => Step.run_congr (Node.agreeOn_unsigned hsame n counts window) unsigned w⟩
  obtain ⟨hends, hchain⟩ :=
    Node.complete_process_of_keyless hkeyless n counts window signed l metrics log
  refine ⟨⟨_, rfl, hends⟩, hchain, ?_⟩
  have hrequests := Node.Line.requests_exchange n (.view keyless.bridge .completed t.tx.bytes) l
  show ((t.process.run.complete d ⟨l, metrics, log, []⟩).2.chain.requests = _) ∨
    ((t.process.run.complete d ⟨l, metrics, log, []⟩).2.chain.requests = _)
  rw [hchain]
  show (keyless.view n .completed Node.decodeFlag? t.tx l).2.requests = _ ∨
    (keyless.view n .completed Node.decodeFlag? t.tx l).2.requests = _
  rw [Node.view_eq]
  exact hrequests

/-- A refund, and a look at the ledger, over a node whose contract holds nothing. -/
theorem nothing_signed_without_key_of_refund :
    let url := "http://[::1]:8545"
    let bridge : Address := ⟨List.replicate 19 0 ++ [0x64], rfl⟩
    let key := "0x0000000000000000000000000000000000000000000000000000000000000001"
    let keyless : Node.Client := ⟨bridge, none⟩
    let keyed : Node.Client := ⟨bridge, some ⟨1, by decide, by decide⟩⟩
    let n := Node.Behaviour.knowing .empty
    let d := keyless.deployment n (fun _ => true) 8
    let d' := keyed.deployment n (fun _ => true) 8
    let t : Transfer := .refundWithdraw ⟨List.replicate 32 0xaa, rfl⟩
    let refund : Step Unit := .operation (.process t)
    let look : Step Unit := .operation (.isCompleted t.tx)
    let w := World.initial (Node.Line.initial ())
    Node.Client.start url bridge.text none = .ok keyless ∧
      Node.Client.start url bridge.text (some key) = .ok keyed ∧
      t.isSigned = true ∧ ¬look.Signs ∧
      (∀ answer ∈ (run d [refund, look] w).1, ∀ r ∈ answer.requests, r.isForSigning = false) ∧
      ((Operation.process t).run d w).1 = .outcome (.error (.submit .noSigner)) ∧
      look.run d w = look.run d' w := by
  intro url bridge key keyless keyed n d d' t refund look w
  have started : Node.Client.start url bridge.text none = .ok keyless :=
    Node.Client.start_eq_ok_iff.mpr ⟨bridge.parse_text, rfl, by decide +kernel⟩
  have hkey : Node.Client.readKey (some key) = .ok keyed.signer := by
    have hparse : Signer.parse? key = keyed.signer := by decide +kernel
    rw [Node.Client.readKey, hparse]
  have startedWithKey : Node.Client.start url bridge.text (some key) = .ok keyed :=
    Node.Client.start_eq_ok_iff.mpr ⟨bridge.parse_text, hkey, by decide +kernel⟩
  obtain ⟨hunsigned, hends, hsame⟩ :=
    nothing_signed_without_key started startedWithKey n (fun _ => true) 8
  have absent : (keyless.answer n (.isCompleted t.tx) (.initial ())).1 = Except.ok false :=
    Node.isCompleted_of_carries n keyless
      ((Node.serves_knowing keyless.bridge .empty).completed t.tx ())
  obtain ⟨⟨outcome, houtcome, ending⟩, -⟩ := hends t rfl (.initial ()) .empty []
  rw [absent] at ending
  cases ending
  exact ⟨started, startedWithKey, rfl, id, hunsigned _ w, houtcome, hsame look id w⟩

/-- Without a key, a recharge that the ledger does not have complete is no refused submission where
the ledger cannot be read: it is the read that fails. -/
theorem unread_without_key :
    let c : Node.Client := ⟨⟨List.replicate 19 0 ++ [0x64], rfl⟩, none⟩
    let t : Transfer := .recharge ⟨List.replicate 32 0x02, rfl⟩ []
    let d := c.deployment .unreachable (fun _ => true) 8
    let r := ((Operation.process t).run d (World.initial (.initial ()))).1
    t.isSigned = true ∧ r = .outcome (.error (.read (.noAnswer .completed t.tx))) ∧
      ¬((∃ outcome, r = .outcome (.ok outcome) ∧ outcome.alreadyCompleted = true) ∨
        ∃ fault, r = .outcome (.error fault) ∧ fault.kind = .submissionFailed) := by
  intro c t d r
  have hread : r = .outcome (.error (.read (.noAnswer .completed t.tx))) := rfl
  refine ⟨rfl, hread, ?_⟩
  rw [hread]
  rintro (⟨outcome, ⟨⟩, -⟩ | ⟨fault, ⟨⟩, ⟨⟩⟩)

end Session.OverNode

end TransferRelay

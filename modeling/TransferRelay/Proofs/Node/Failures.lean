import TransferRelay.Proofs.Chain.Endings
import TransferRelay.Proofs.Node.Replies
import TransferRelay.Proofs.Node.Returns
import TransferRelay.Proofs.Rpc.TransferRequest
import TransferRelay.Proofs.Transfer.Spelling

/-!
# Failures of a node

Whatever a node replies, a client never takes a failure for a flag, and tells failures of reads from
failures of submissions (`failures_keep_their_kind`): a read fails exactly with a reply that carries
no value, what is passed on exactly with one that does not take it, and a transaction exactly if it
cannot be signed or one of the replies on its way is of no use. So a transfer is submitted over a
node only behind a reply that carries the flag for it.
-/

namespace TransferRelay

variable {α σ : Type}

/-! ## Ends of submissions -/

/-- A transfer is submitted if there is a receipt. -/
theorem Transfer.run_submit (d : Deployment σ) (t : Transfer) (w : World σ) :
    (t.submit.run.run d w).1 =
      (t.receipt (d.answer t.submission w.chain).1).mapError .submit := by
  cases t <;> exact Task.run_ofSubmit d _ _

/-- A failure as a request is told of it comes of one failure of the chain. -/
theorem mapError_eq_error_iff {ε ε' : Type} {f : ε → ε'} {r : Except ε α} {e : ε'} :
    r.mapError f = .error e ↔ ∃ cause, r = .error cause ∧ e = f cause := by
  cases r with
  | error cause =>
    constructor
    · intro h
      exact ⟨cause, rfl, (Except.error.inj h).symm⟩
    · rintro ⟨_, ⟨⟩, rfl⟩
      rfl
  | ok a => exact ⟨nofun, fun ⟨_, h, _⟩ => nomatch h⟩

/-! ## Transfers that cannot be read -/

/-- A request for a transfer that cannot be read ends there: nothing is called behind the read. -/
theorem Rpc.complete_handle_of_unread (d : Deployment σ) {request : Json} {t : Transfer}
    (asks : Asks request t) {chain : σ} {cause : ReadFault}
    (unread : (d.answer (.isCompleted t.tx) chain).1 = Except.error cause) (metrics : Metrics)
    (log : List Event) :
    ((handle request).complete d ⟨chain, metrics, log, []⟩).1.answer =
        .error (.failed (.read cause)) ∧
      ((handle request).complete d ⟨chain, metrics, log, []⟩).2.chain =
        (d.answer (.isCompleted t.tx) chain).2 ∧
      ((handle request).complete d ⟨chain, metrics, log, []⟩).2.log =
        ⟨.isCompleted t.tx, true⟩ :: log := by
  obtain ⟨m, hm⟩ := handle_of_asks asks
  have hread := d.perform_eq (w := ⟨chain, metrics, log, []⟩) unread
  let rest : Plan Envelope := .count .ledger .queryFailure
    (answer request (.served m) (.error (.failed (.read cause))))
  have hrest : (handle request).complete d ⟨chain, metrics, log, []⟩ =
      rest.complete d ⟨(d.answer (.isCompleted t.tx) chain).2, metrics,
        ⟨.isCompleted t.tx, true⟩ :: log, []⟩ := by
    rw [hm, Transfer.process_run]
    show (Plan.call (.isCompleted t.tx) _).complete d _ = _
    rw [Plan.complete_call, hread]
    rfl
  have idle : rest.Idle := .count (.count (.done _))
  obtain ⟨metrics', hworld⟩ := idle.complete d (w := ⟨_, metrics, _ :: log, []⟩) rfl
  rw [hrest]
  exact ⟨rfl, by rw [hworld], by rw [hworld]⟩

/-! ## Clients -/

namespace Node

variable {ν : Type} (n : Behaviour ν) (c : Client)

/-- A flag is read exactly from a reply that carries the word of the flag. -/
theorem isCompleted_eq_ok_iff {tx : TransferId} {l : Line ν} {flag : Bool} :
    (c.answer n (.isCompleted tx) l).1 = Except.ok flag ↔
      ∃ last, (l.reply n (.view c.bridge .completed tx.bytes)).Carries
        (List.replicate 31 0 ++ [last]) ∧ flag = (last != 0) := by
  refine (view_eq_ok_iff n c).trans ?_
  constructor
  · rintro ⟨raw, carries, decoded⟩
    obtain ⟨last, rfl, hflag⟩ := decodeFlag?_eq_some_iff.mp decoded
    exact ⟨last, carries, hflag⟩
  · rintro ⟨last, carries, hflag⟩
    exact ⟨_, carries, decodeFlag?_eq_some_iff.mpr ⟨last, rfl, hflag⟩⟩

/-- What is passed on fails exactly if the reply does. -/
theorem failed_iff_of_passed {call : Call} {method : NodeMethod} {params : List String}
    (passed : call.passed? = some (method, params)) {l : Line ν} :
    call.failed (c.answer n call l).1 = true ↔
      (l.reply n (.pass l.nextId method params)).Fails := by
  have hpass : (∃ cause, (Client.pass n method params l).1 = .error cause) ↔
      (l.reply n (.pass l.nextId method params)).Fails := pass_eq_error_iff n
  rw [← hpass]
  -- the calls that are passed on differ in nothing but the method and what it is given
  cases call <;> cases passed
  all_goals
    simp only [Client.answer]
    rcases (Client.pass n _ _ l).1 with cause | _ <;> simp [Call.failed]

/-- What is signed fails exactly if the transaction is not made. -/
theorem failed_iff_of_signed {call : Call} {action : ContractAction} {tx : TransferId}
    {data : Bytes} (signed : call.signed? = some (action, tx, data)) {l : Line ν} :
    call.failed (c.answer n call l).1 = true ↔ ∀ sent, ¬c.Signs n action tx data l sent := by
  simp only [← act_eq_ok_iff]
  -- the calls that are signed differ in nothing but the action and its data
  cases call <;> cases signed
  all_goals
    simp only [Client.answer]
    rcases (c.act n _ _ _ l).1 with cause | sent <;> simp [Call.failed]

section Service

variable (counts : Component → Bool) (window : Nat)

theorem mapError_view_eq_error_iff {v : ContractView} {decode : Bytes → Option α}
    {tx : TransferId} {l : Line ν} {fault : Fault} :
    (c.view n v decode tx l).1.mapError Fault.read = .error fault ↔
      c.Unread n v decode tx l ∧ fault = .read (.noAnswer v tx) := by
  simp only [mapError_eq_error_iff, view_eq_error_iff, and_assoc, exists_and_left, exists_eq_left]

/-- A read of the service fails exactly if the reply carries no value, and the fault names the
read. -/
theorem run_read_eq_error_iff (tx : TransferId) (w : World (Line ν)) (fault : Fault) :
    (((Task.isCompleted tx).run.run (c.deployment n counts window) w).1 = .error fault ↔
      c.Unread n .completed decodeFlag? tx w.chain ∧ fault = .read (.noAnswer .completed tx)) ∧
    (((Task.rechargeData tx).run.run (c.deployment n counts window) w).1 = .error fault ↔
      c.Unread n .rechargeData decodeEntries? tx w.chain ∧
        fault = .read (.noAnswer .rechargeData tx)) ∧
    (((Task.withdrawData tx).run.run (c.deployment n counts window) w).1 = .error fault ↔
      c.Unread n .withdrawData decodeWithdrawal? tx w.chain ∧
        fault = .read (.noAnswer .withdrawData tx)) := by
  refine ⟨?flag, ?entries, ?record⟩
  case flag =>
    show ((Task.ofLedgerRead (c.view n .completed decodeFlag? tx w.chain).1).run.run _ _).1 = _ ↔ _
    rw [Task.run_ofLedgerRead, mapError_view_eq_error_iff]
  case entries =>
    show ((Task.ofRead (c.view n .rechargeData decodeEntries? tx w.chain).1).run.run _ _).1 = _ ↔ _
    rw [Task.run_ofRead, mapError_view_eq_error_iff]
  case record =>
    show ((Task.ofRead (c.view n .withdrawData decodeWithdrawal? tx w.chain).1).run.run _ _).1 =
      _ ↔ _
    rw [Task.run_ofRead, mapError_view_eq_error_iff]

/-- A submission of the service fails exactly if there is no receipt. -/
theorem run_submit_eq_error_iff (t : Transfer) (w : World (Line ν)) (fault : Fault) :
    (t.submit.run.run (c.deployment n counts window) w).1 = .error fault ↔
      ∃ cause, t.receipt (c.answer n t.submission w.chain).1 = .error cause ∧
        fault = .submit cause := by
  rw [Transfer.run_submit, mapError_eq_error_iff]
  rfl

end Service

/-- **A node that fails never reads as "not completed", and failures keep their kind.** Whatever the
node does, a flag is what its reply carries for the flag; reads fail as reads, exactly if the reply
carries no value; submissions fail as submissions, exactly if there is no receipt: what is passed on
fails with every reply that does not take it, where what the node says with a bad status is kept as
it stands, and a transaction fails if there is no address to sign for or the node does not see it
through, and the fault says which; and a transfer whose guarding read fails is answered with the
code of a failed read, and nothing of it reaches the node but that read. -/
theorem failures_keep_their_kind (counts : Component → Bool) (window : Nat) :
    let d := c.deployment n counts window
    (∀ (tx : TransferId) (l : Line ν) (flag : Bool),
      (c.answer n (.isCompleted tx) l).1 = Except.ok flag ↔
        ∃ last, (l.reply n (.view c.bridge .completed tx.bytes)).Carries
          (List.replicate 31 0 ++ [last]) ∧ flag = (last != 0)) ∧
    (∀ (tx : TransferId) (w : World (Line ν)) (fault : Fault),
      ((Task.isCompleted tx).run.run d w).1 = .error fault ∨
        ((Task.rechargeData tx).run.run d w).1 = .error fault ∨
        ((Task.withdrawData tx).run.run d w).1 = .error fault →
      fault.kind = .queryUnavailable) ∧
    (∀ (tx : TransferId) (w : World (Line ν)) (fault : Fault),
      (((Task.isCompleted tx).run.run d w).1 = .error fault ↔
        c.Unread n .completed decodeFlag? tx w.chain ∧ fault = .read (.noAnswer .completed tx)) ∧
      (((Task.rechargeData tx).run.run d w).1 = .error fault ↔
        c.Unread n .rechargeData decodeEntries? tx w.chain ∧
          fault = .read (.noAnswer .rechargeData tx)) ∧
      (((Task.withdrawData tx).run.run d w).1 = .error fault ↔
        c.Unread n .withdrawData decodeWithdrawal? tx w.chain ∧
          fault = .read (.noAnswer .withdrawData tx))) ∧
    (∀ (t : Transfer) (w : World (Line ν)) (fault : Fault),
      (t.submit.run.run d w).1 = .error fault → fault.kind = .submissionFailed) ∧
    (∀ (t : Transfer) (w : World (Line ν)) (fault : Fault),
      (t.submit.run.run d w).1 = .error fault ↔
        ∃ cause, t.receipt (c.answer n t.submission w.chain).1 = .error cause ∧
          fault = .submit cause) ∧
    (∀ (call : Call) (method : NodeMethod) (params : List String) (l : Line ν),
      call.passed? = some (method, params) →
      (call.failed (c.answer n call l).1 = true ↔
        (l.reply n (.pass l.nextId method params)).Fails)) ∧
    (∀ (method : NodeMethod) (params : List String) (l : Line ν) (status : Nat) (s : String),
      l.reply n (.pass l.nextId method params) = .response status s.toUTF8 →
      Http.isSuccess status = false → s.toList.head? ≠ some '\uFEFF' →
      (Client.pass n method params l).1 =
        .error (.badStatus method (Http.statusText status) s)) ∧
    (∀ (call : Call) (action : ContractAction) (tx : TransferId) (data : Bytes) (l : Line ν),
      call.signed? = some (action, tx, data) →
      (call.failed (c.answer n call l).1 = true ↔ ∀ sent, ¬c.Signs n action tx data l sent)) ∧
    (∀ (action : ContractAction) (tx : TransferId) (data : Bytes) (l : Line ν),
      (∀ cause, (c.act n action tx data l).1 = .error cause ↔
        (∀ sent, ¬c.Signs n action tx data l sent) ∧
          cause = if c.signerAddress? = none then .noSigner else .notSent action tx) ∧
      (c.signerAddress? = none → (c.act n action tx data l).2 = l)) ∧
    ∀ (request : Json) (t : Transfer) (l : Line ν) (cause : ReadFault) (metrics : Metrics)
      (log : List Event), Rpc.Asks request t →
      (c.answer n (.isCompleted t.tx) l).1 = Except.error cause →
      let after := (Rpc.handle request).complete d ⟨l, metrics, log, []⟩
      (∃ refusal, after.1.answer = .error refusal ∧ refusal.code = -32002) ∧
        after.2.log = ⟨.isCompleted t.tx, true⟩ :: log ∧
        (after.2.chain.requests = l.requests ∨
          after.2.chain.requests = l.requests ++ [.view c.bridge .completed t.tx.bytes]) := by
  intro d
  have reads := run_read_eq_error_iff n c counts window
  have submits := run_submit_eq_error_iff n c counts window
  refine ⟨fun tx l flag => isCompleted_eq_ok_iff n c, ?readKinds, reads, ?submitKinds, submits,
    fun call method params l passed => failed_iff_of_passed n c passed,
    fun method params l status s reply failure unmarked =>
      pass_of_status n reply failure unmarked,
    fun call action tx data l signed => failed_iff_of_signed n c signed,
    fun action tx data l => ⟨fun cause => act_eq_error_iff n c, fun h => ?unsigned⟩, ?guard⟩
  case readKinds =>
    rintro tx w fault (h | h | h)
    · rw [((reads tx w fault).1.mp h).2, Fault.kind]
    · rw [((reads tx w fault).2.1.mp h).2, Fault.kind]
    · rw [((reads tx w fault).2.2.mp h).2, Fault.kind]
  case submitKinds =>
    intro t w fault h
    obtain ⟨cause, -, rfl⟩ := (submits t w fault).mp h
    rfl
  case unsigned => rw [act_of_no_signer n c h]
  case guard =>
    intro request t l cause metrics log asks unread after
    obtain ⟨hanswer, hchain, hlog⟩ :=
      Rpc.complete_handle_of_unread d asks unread metrics log
    refine ⟨⟨_, hanswer, rfl⟩, hlog, ?_⟩
    rw [hchain]
    show (c.view n .completed decodeFlag? t.tx l).2.requests = _ ∨
      (c.view n .completed decodeFlag? t.tx l).2.requests = _
    rw [view_eq]
    exact Line.requests_exchange n _ l

/-- A node that is busy, a claim that is passed on to it, and a refund that is asked for and that
cannot be signed. -/
theorem failures_keep_their_kind_of_busy_node :
    let n : Behaviour Unit := ⟨fun _ node => (.response 503 "busy".toUTF8, node)⟩
    let c : Client := ⟨⟨List.replicate 20 0x64, rfl⟩, none⟩
    let t : Transfer := .refundWithdraw ⟨List.replicate 32 0xaa, rfl⟩
    let request : Json :=
      .obj [("method", .str "refundWithdraw"), ("params", .arr [.str t.tx.text])]
    let claim : Call := .sendInvalidWithdraw "0xsig" t.tx
    let refund : Call := .submitRefund t.tx
    claim.failed (c.answer n claim (.initial ())).1 = true ∧
      (Client.pass n .sendInvalidWithdraw ["0xsig", t.tx.text] (.initial ())).1 =
        .error (.badStatus .sendInvalidWithdraw (Http.statusText 503) "busy") ∧
      refund.failed (c.answer n refund (.initial ())).1 = true ∧ Rpc.Asks request t ∧
      (c.answer n (.isCompleted t.tx) (.initial ())).1 =
        Except.error (.noAnswer .completed t.tx) ∧
      let after := (Rpc.handle request).complete (c.deployment n (fun _ => true) 8)
        ⟨.initial (), .empty, [], []⟩
      (∃ refusal, after.1.answer = .error refusal ∧ refusal.code = -32002) ∧
        after.2.log = ⟨.isCompleted t.tx, true⟩ :: [] ∧
        (after.2.chain.requests = [] ∨
          after.2.chain.requests = [] ++ [.view c.bridge .completed t.tx.bytes]) := by
  intro n c t request claim refund
  obtain ⟨-, -, -, -, -, passes, told, signs, -, guards⟩ :=
    failures_keep_their_kind n c (fun _ => true) 8
  have busy : (Reply.response 503 "busy".toUTF8).Fails := .status rfl
  have keyless : ∀ sent, ¬c.Signs n .refundWithdraw t.tx [] (.initial ()) sent := by
    rintro sent ⟨signer, ⟨⟩, -⟩
  have asks : Rpc.Asks request t :=
    ⟨_, _, rfl, rfl, .refundWithdraw (@Rpc.Gives.listed _ _ 0 rfl) t.tx.parse_text⟩
  have unread : (c.answer n (.isCompleted t.tx) (.initial ())).1 =
      Except.error (.noAnswer .completed t.tx) := rfl
  exact ⟨(passes claim .sendInvalidWithdraw _ (.initial ()) rfl).mpr busy,
    told .sendInvalidWithdraw _ (.initial ()) 503 "busy" rfl rfl (by decide),
    (signs refund .refundWithdraw _ [] (.initial ()) rfl).mpr keyless, asks, unread,
    guards request t (.initial ()) _ .empty [] asks unread⟩

end Node

end TransferRelay

import TransferRelay.Proofs.Node.Failures
import TransferRelay.Proofs.Node.Serving

/-!
# What a node confirms

A claim or a small transfer is passed on to the node, and counts as submitted if the node takes it:
with a success in JSON that reports no error (`submitted_iff_taken`). The result itself is not
looked at, so a node need not give one (`submitted_without_result`).
-/

namespace TransferRelay

variable {σ : Type}

/-- A request for a transfer that is not complete is answered by how its submission ends, and counts
as a submission if there is a receipt. -/
theorem Rpc.complete_handle_of_absent (d : Deployment σ) {request : Json} {t : Transfer}
    (asks : Asks request t) {chain : σ}
    (absent : (d.answer (.isCompleted t.tx) chain).1 = Except.ok false) (metrics : Metrics)
    (log : List Event) :
    let behind := (d.answer (.isCompleted t.tx) chain).2
    let after := (handle request).complete d ⟨chain, metrics, log, []⟩
    (∀ cause, t.receipt (d.answer t.submission behind).1 = .error cause →
      after.1.answer = .error (.failed (.submit cause)) ∧
        after.2.metrics.count (.submission t.kind) = metrics.count (.submission t.kind)) ∧
    ∀ sent, t.receipt (d.answer t.submission behind).1 = .ok sent →
      after.1.answer = .ok (.bool false) ∧
        after.2.metrics.count (.submission t.kind) =
          metrics.count (.submission t.kind) + if d.counts .transfers = true then 1 else 0 := by
  obtain ⟨m, hm⟩ := handle_of_asks asks
  intro behind after
  -- the world behind the submission, and what is left to do there
  let last : World σ := ⟨(d.answer t.submission behind).2, metrics,
    ⟨t.submission, t.submission.failed (d.answer t.submission behind).1⟩ ::
      ⟨.isCompleted t.tx, false⟩ :: log, []⟩
  have hread := d.perform_eq (w := ⟨chain, metrics, log, []⟩) absent
  have hafter : after = ((t.afterSubmission (t.receipt (d.answer t.submission behind).1)).bind
      fun r => answer request (.served m) (told r)).complete d last := by
    show (handle request).complete d ⟨chain, metrics, log, []⟩ = _
    rw [hm, Transfer.process_run]
    show (Plan.call (.isCompleted t.tx) _).complete d _ = _
    rw [Plan.complete_call, hread]
    rfl
  have hlast : ∀ e : Envelope, (Plan.done e).complete d last = (e, last) := fun e => rfl
  constructor
  · intro cause hreceipt
    rw [hafter, hreceipt]
    refine ⟨rfl, ?_⟩
    show ((answer request (.served m) _).complete d last).2.metrics.count _ = _
    rw [answer_eq, Plan.complete_count, hlast, Deployment.count_tally]
    simp [last]
  · intro sent hreceipt
    rw [hafter, hreceipt]
    refine ⟨rfl, ?_⟩
    show ((Plan.count .transfers (.submission t.kind) (answer request (.served m) _)).complete d
      last).2.metrics.count _ = _
    rw [Plan.complete_count, Deployment.count_tally, answer_eq, Plan.complete_count, hlast,
      Deployment.count_tally]
    simp [last]

/-- A claim as a client may write it, with its parameters in their order. -/
def Rpc.claimRequest (signature hash : String) : Json :=
  .obj [("method", .str "receivedInvaliedwithrawtx"),
    ("params", .arr [.str signature, .str hash])]

theorem Rpc.asks_claimRequest {signature hash : String} {tx : TransferId}
    (signed : Text.isAllBlank signature = false) (parsed : TransferId.parse hash = .ok tx) :
    Asks (claimRequest signature hash) (.invalidWithdraw signature tx) :=
  ⟨_, _, rfl, rfl, .invalidWithdraw (@Gives.listed _ _ 0 rfl) signed parsed⟩

namespace Node

variable {ν : Type} (n : Behaviour ν) (c : Client)

theorem isCompleted_of_carries {tx : TransferId} {l : Line ν} {flag : Bool}
    (h : (l.reply n (.view c.bridge .completed tx.bytes)).Carries (encodeFlag flag)) :
    (c.answer n (.isCompleted tx) l).1 = Except.ok flag :=
  (view_eq_ok_iff n c).mpr ⟨_, h, decodeFlag?_encodeFlag flag⟩

/-- A transfer that is not complete and that the node takes is submitted. -/
theorem complete_handle_of_taken (counts : Component → Bool) (window : Nat) {request : Json}
    {t : Transfer} (asks : Rpc.Asks request t) {method : NodeMethod} {params : List String}
    (passed : t.submission.passed? = some (method, params)) {l : Line ν}
    (absent : (c.answer n (.isCompleted t.tx) l).1 = Except.ok false) {json : Json}
    (answers : ((c.answer n (.isCompleted t.tx) l).2.reply n
      ((c.answer n (.isCompleted t.tx) l).2.passing method params)).Answers json)
    (noError : ¬Reply.ReportsError json) (metrics : Metrics) (log : List Event) :
    let after := (Rpc.handle request).complete (c.deployment n counts window)
      ⟨l, metrics, log, []⟩
    after.1.answer = .ok (.bool false) ∧
      after.2.metrics.count (.submission t.kind) =
        metrics.count (.submission t.kind) + if counts .transfers = true then 1 else 0 := by
  obtain ⟨-, submitted⟩ := Rpc.complete_handle_of_absent (c.deployment n counts window) asks
    absent metrics log
  have unfailed : ¬t.submission.failed
      (c.answer n t.submission (c.answer n (.isCompleted t.tx) l).2).1 = true := by
    rw [failed_iff_of_passed n c passed, Reply.fails_iff, Classical.not_not]
    exact ⟨json, answers, noError⟩
  -- there is a receipt, since the submission has not failed
  cases receipt : t.receipt (c.answer n t.submission (c.answer n (.isCompleted t.tx) l).2).1 with
  | error cause => exact absurd ((t.failed_submission _).mpr ⟨cause, receipt⟩) unfailed
  | ok sent => exact submitted sent receipt

/-- **What a node takes counts as submitted.** A claim or a small transfer that is not complete is
passed on to the node. If the reply is a success in JSON that reports no error, the client is told
that the transfer was not complete before, and a submission is counted; with every other reply the
submission has failed. -/
theorem submitted_iff_taken (counts : Component → Bool) (window : Nat) {request : Json}
    {t : Transfer} (asks : Rpc.Asks request t) {method : NodeMethod} {params : List String}
    (passed : t.submission.passed? = some (method, params)) {l : Line ν}
    (absent : (c.answer n (.isCompleted t.tx) l).1 = Except.ok false) (metrics : Metrics)
    (log : List Event) :
    let behind := (c.answer n (.isCompleted t.tx) l).2
    let taken := ∃ json, (behind.reply n (.pass behind.nextId method params)).Answers json ∧
      ¬Reply.ReportsError json
    let after := (Rpc.handle request).complete (c.deployment n counts window)
      ⟨l, metrics, log, []⟩
    (t.submission.failed (c.answer n t.submission behind).1 = false ↔ taken) ∧
      (taken → after.1.answer = .ok (.bool false) ∧
        after.2.metrics.count (.submission t.kind) =
          metrics.count (.submission t.kind) + if counts .transfers = true then 1 else 0) ∧
      (¬taken → (∃ refusal, after.1.answer = .error refusal ∧ refusal.code = -32003) ∧
        after.2.metrics.count (.submission t.kind) = metrics.count (.submission t.kind)) := by
  intro behind taken after
  obtain ⟨hrefused, -⟩ := Rpc.complete_handle_of_absent (c.deployment n counts window) asks
    absent metrics log
  have hfailed : t.submission.failed (c.answer n t.submission behind).1 = true ↔ ¬taken :=
    (failed_iff_of_passed n c passed).trans Reply.fails_iff
  refine ⟨?_, fun ⟨json, answers, noError⟩ => ?_, fun hnot => ?_⟩
  · rw [← Bool.not_eq_true, hfailed, Classical.not_not]
  · exact complete_handle_of_taken n c counts window asks passed absent answers noError metrics log
  · obtain ⟨cause, hcause⟩ := (t.failed_submission _).mp (hfailed.mpr hnot)
    obtain ⟨hanswer, hcount⟩ := hrefused cause hcause
    exact ⟨⟨_, hanswer, rfl⟩, hcount⟩

/-- A claim that a node takes whose contract holds nothing. -/
theorem submitted_iff_taken_of_claim :
    let n := Behaviour.knowing .empty
    let c : Client := ⟨⟨List.replicate 20 0x64, rfl⟩, none⟩
    let t : Transfer := .invalidWithdraw "0xsig" ⟨List.replicate 32 0xaa, rfl⟩
    let request := Rpc.claimRequest "0xsig" t.tx.text
    let params := ["0xsig", t.tx.text]
    Rpc.Asks request t ∧ t.submission.passed? = some (.sendInvalidWithdraw, params) ∧
      (c.answer n (.isCompleted t.tx) (.initial ())).1 = Except.ok false ∧
      let behind := (c.answer n (.isCompleted t.tx) (.initial ())).2
      let taken := ∃ json,
        (behind.reply n (.pass behind.nextId .sendInvalidWithdraw params)).Answers json ∧
          ¬Reply.ReportsError json
      let after := (Rpc.handle request).complete (c.deployment n (fun _ => true) 8)
        ⟨.initial (), .empty, [], []⟩
      (t.submission.failed (c.answer n t.submission behind).1 = false ↔ taken) ∧
        (taken → after.1.answer = .ok (.bool false) ∧
          after.2.metrics.count (.submission t.kind) =
            Metrics.empty.count (.submission t.kind) + if true = true then 1 else 0) ∧
        (¬taken → (∃ refusal, after.1.answer = .error refusal ∧ refusal.code = -32003) ∧
          after.2.metrics.count (.submission t.kind) =
            Metrics.empty.count (.submission t.kind)) := by
  intro n c t request params
  have asks : Rpc.Asks request t := Rpc.asks_claimRequest (by decide) t.tx.parse_text
  have absent : (c.answer n (.isCompleted t.tx) (.initial ())).1 = Except.ok false :=
    isCompleted_of_carries n c ((serves_knowing c.bridge .empty).completed t.tx ())
  exact ⟨asks, rfl, absent,
    submitted_iff_taken n c (fun _ => true) 8 asks rfl absent .empty []⟩

/-- A node that has nothing to say to a claim but an empty list, which is no result: the client is
told that the claim was not complete before, and a submission is counted. -/
theorem submitted_without_result :
    let n : Behaviour Unit := ⟨fun r node => (match r with
      | .view _ _ _ => .carrying (encodeFlag false)
      | _ => .response 200 ⟨#[0x5b, 0x5d]⟩, node)⟩
    let c : Client := ⟨⟨List.replicate 20 0x64, rfl⟩, none⟩
    let t : Transfer := .invalidWithdraw "0xsig" ⟨List.replicate 32 0xaa, rfl⟩
    let request := Rpc.claimRequest "0xsig" t.tx.text
    let after := (Rpc.handle request).complete (c.deployment n (fun _ => true) 8)
      ⟨.initial (), .empty, [], []⟩
    Json.parseUtf8 ⟨#[0x5b, 0x5d]⟩ = some (.arr []) ∧ (Json.arr []).get? "result" = none ∧
      after.1.answer = .ok (.bool false) ∧
      after.2.metrics.count (.submission t.kind) = 1 := by
  have read : Json.parseUtf8 ⟨#[0x5b, 0x5d]⟩ = some (.arr []) := rfl
  intro n c t request
  have asks : Rpc.Asks request t := Rpc.asks_claimRequest (by decide) t.tx.parse_text
  have reply : (Line.initial ()).reply n (.view c.bridge .completed t.tx.bytes) =
      .carrying (encodeFlag false) := rfl
  have absent : (c.answer n (.isCompleted t.tx) (.initial ())).1 = Except.ok false :=
    isCompleted_of_carries n c (by rw [reply]; exact carries_carrying _)
  have answers : ∀ l : Line Unit,
      (l.reply n (l.passing .sendInvalidWithdraw ["0xsig", t.tx.text])).Answers (.arr []) :=
    fun l => ⟨rfl, read⟩
  have noError : ¬Reply.ReportsError (.arr []) := by
    rintro ⟨error, ⟨⟩, -⟩
  obtain ⟨told, counted⟩ := complete_handle_of_taken n c (fun _ => true) 8 asks rfl absent
    (answers _) noError .empty []
  exact ⟨read, rfl, told, counted⟩

end Node

end TransferRelay

import TransferRelay.Chain.Ledger
import TransferRelay.Proofs.Rpc.Demand
import TransferRelay.Proofs.Rpc.Handling
import TransferRelay.Proofs.Transfer.Guard

/-!
# Requests for transfers

A request `Asks` for a transfer if it names a method that demands the transfer with the parameters
of the request. The service processes that transfer and does nothing else (`handle_of_asks`), so
the course of the transfer is that of the request, and the client is told how it ended.
-/

namespace TransferRelay.Rpc

variable {σ : Type}

/-- A request asks for a transfer. -/
def Asks (request : Json) (t : Transfer) : Prop :=
  ∃ name params, request.get? "method" = some (.str name) ∧
    request.get? "params" = some params ∧ Demands params name t

/-! ## One request -/

/-- What a client is told of a transfer. -/
def told : Except Fault TransferOutcome → Except Refusal Json
  | .ok outcome => .ok (.bool outcome.alreadyCompleted)
  | .error fault => .error (.failed fault)

/-- Handling a request for a transfer is processing that transfer. -/
theorem handle_of_asks {request : Json} {t : Transfer} (asks : Asks request t) :
    ∃ m, handle request = t.process.run.bind fun r => answer request (.served m) (told r) := by
  obtain ⟨name, params, hmethod, hparams, demands⟩ := asks
  obtain ⟨m, hm, hparse⟩ := demands.parse
  refine ⟨m, ?_⟩
  refine (handle_of_parse hmethod hm hparams hparse rfl).trans ?_
  congr 1
  funext r
  cases r <;> rfl

/-- What the client gets to read of how a transfer ended. -/
inductive Told : Except Fault TransferOutcome → Except Refusal Json → Prop
  | unread {cause : ReadFault} {refusal : Refusal} (code : refusal.code = -32002) :
      Told (.error (.read cause)) (.error refusal)
  | refused {cause : SubmitFault} {refusal : Refusal} (code : refusal.code = -32003) :
      Told (.error (.submit cause)) (.error refusal)
  | result (outcome : TransferOutcome) :
      Told (.ok outcome) (.ok (.bool outcome.alreadyCompleted))

theorem told_of_course {d : Deployment σ} {t : Transfer} {chain : σ} {events : List Event}
    {outcome : Except Fault TransferOutcome} (h : Course d t chain events outcome) :
    Told outcome (told outcome) := by
  cases h with
  | unread read => exact .unread rfl
  | completed read => exact .result _
  | refused read receipt => exact .refused rfl
  | submitted read receipt => exact .result _

/-- A request for a transfer makes the calls of that transfer and no others, and the client is told
how it ended. -/
theorem handle_transfer (d : Deployment σ) {request : Json} {t : Transfer}
    (asks : Asks request t) (chain : σ) (metrics : Metrics) (log : List Event) :
    ∃ events outcome,
      (t.process.run.complete d ⟨chain, metrics, log, []⟩).1 = outcome ∧
      Course d t chain events outcome ∧ (∀ o, outcome = .ok o → Tells t o) ∧
      ((handle request).complete d ⟨chain, metrics, log, []⟩).2.log = events.reverse ++ log ∧
      ((handle request).complete d ⟨chain, metrics, log, []⟩).1.id = requestId request ∧
      Told outcome ((handle request).complete d ⟨chain, metrics, log, []⟩).1.answer := by
  obtain ⟨events, hcourse, hlog⟩ := process_course d t chain metrics log
  obtain ⟨m, hm⟩ := handle_of_asks asks
  obtain ⟨henvelope, hsame⟩ := complete_bind_answer d t.process.run request (.served m) told
    ⟨chain, metrics, log, []⟩
  rw [hm]
  refine ⟨events, _, rfl, hcourse, ?_, hsame.trans hlog, ?_, ?_⟩
  · intro o ho
    rw [ho] at hcourse
    exact tells_of_course hcourse
  · rw [henvelope]
  · rw [henvelope]
    exact told_of_course hcourse

/-- A recharge as a client may write it, with digits of both cases, on a chain in memory. -/
theorem handle_recharge_of_mixed_digits :
    let hash := "0XaAaAaAaAaAaAaAaAaAaAaAaAaAaAaAaAaAaAaAaAaAaAaAaAaAaAaAaAaAaAaAaA"
    let request : Json := .obj [("method", .str "recharge"),
      ("params", .obj [("smallRechargeData", .str "0xBEef"), ("txHash", .str hash)])]
    let t : Transfer := .recharge ⟨List.replicate 32 0xaa, rfl⟩ [0xbe, 0xef]
    let d : Deployment Ledger := ⟨Ledger.answer, fun _ => true, 8⟩
    Asks request t ∧
      ∃ events outcome,
        (t.process.run.complete d ⟨.empty, .empty, [], []⟩).1 = outcome ∧
        Course d t .empty events outcome ∧ (∀ o, outcome = .ok o → Tells t o) ∧
        ((handle request).complete d ⟨.empty, .empty, [], []⟩).2.log = events.reverse ++ [] ∧
        ((handle request).complete d ⟨.empty, .empty, [], []⟩).1.id = requestId request ∧
        Told outcome ((handle request).complete d ⟨.empty, .empty, [], []⟩).1.answer := by
  have parsed : TransferId.parse
      "0XaAaAaAaAaAaAaAaAaAaAaAaAaAaAaAaAaAaAaAaAaAaAaAaAaAaAaAaAaAaAaAaA" =
        .ok ⟨List.replicate 32 0xaa, rfl⟩ := rfl
  intro hash request t d
  have fields : Gives [("txHash", some (.str hash)), ("smallRechargeData", some (.str "0xBEef"))]
      (.obj [("smallRechargeData", .str "0xBEef"), ("txHash", .str hash)]) :=
    .named (by decide) (List.forall_mem_cons.mpr ⟨rfl, List.forall_mem_cons.mpr ⟨rfl, nofun⟩⟩)
  have digits : Hex.Denotes "0xBEef" [0xbe, 0xef] :=
    Hex.decode_stripMark_eq_ok_iff.mp rfl
  have asks : Asks request t := ⟨_, _, rfl, rfl, .recharge fields parsed (.digits digits)⟩
  exact ⟨asks, handle_transfer d asks .empty .empty []⟩

/-! ## Requests side by side -/

theorem servedBy_handle {request : Json} {t : Transfer} (asks : Asks request t) :
    t.ServedBy (handle request) := by
  obtain ⟨m, hm⟩ := handle_of_asks asks
  exact ⟨_, fun r => .count (.done _), hm⟩

/-- A race of requests has a history in which each transfer asked for is submitted once at most, and
only behind a read of its own that found it not complete. -/
theorem exists_history_of_race {d : Deployment σ} (ledger : GrowingLedger d) (requests : List Json)
    (w : World σ) :
    ∃ (s₀ s : Interleaving.Pool Nat σ Envelope) (ms : List (Interleaving.Moment Nat)),
      s₀.world = w ∧ s₀.Holds 0 (requests.map handle) ∧ Interleaving.Run ledger s₀ ms s ∧
      s.world = (Plan.race d (requests.map handle) w).2 ∧
      ∀ i request t, requests[i]? = some request → Asks request t →
        ms.countP (Interleaving.Moment.submits i) ≤ 1 ∧ Interleaving.ReadsFirst t i ms := by
  let s₀ : Interleaving.Pool Nat σ Envelope :=
    .ofList (requests.map handle) (.done ⟨.null, .error .notJson⟩) w
  have holds : s₀.Holds 0 (requests.map handle) := Interleaving.Pool.holds_ofList _ _ w
  obtain ⟨ms, s, run, hworld, -⟩ := Interleaving.exists_run_race ledger _ holds
  refine ⟨s₀, s, ms, rfl, holds, run, hworld, ?_⟩
  intro i request t hi asks
  have hplan : s₀.plans (0 + i) = handle request := holds i _ (by rw [List.getElem?_map, hi]; rfl)
  rw [Nat.zero_add] at hplan
  have serves : t.ServedBy (s₀.plans i) := hplan ▸ servedBy_handle asks
  obtain ⟨hstanding, hreads⟩ := Interleaving.standing_run serves run
  exact ⟨hstanding.once, hreads⟩

end TransferRelay.Rpc

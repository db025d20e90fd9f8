import TransferRelay.Proofs.Chain.Deeds
import TransferRelay.Proofs.Rpc.Calling
import TransferRelay.Proofs.Transfer.Course
import TransferRelay.Session.Basic

/-!
# Requests for transfers side by side

A request for a transfer reads the ledger before it does anything else, and then submits at most
(`looksFirst_handle`). So of requests that start together each is answered as if there were no
other (`raced_as_alone`), and it is submitted even if another has been submitted under the same
identifier. That is all that the service allows itself.
-/

namespace TransferRelay

/-! ## Transfers -/

namespace Transfer

theorem isSubmission_submission (t : Transfer) : t.submission.isSubmission = true := by
  cases t <;> rfl

theorem acts_afterRead (t : Transfer) (read : (Call.isCompleted t.tx).Answer) :
    (t.afterRead read).Acts := by
  rcases read with cause | flag
  · exact .count (.done _)
  · cases flag with
    | true =>
      refine .count ?_
      cases t with
      | smallTransfer signature rawTx tx => exact .notify (.done _)
      | _ => exact .done _
    | false =>
      refine .submit t.isSubmission_submission fun answer => ?_
      cases t.receipt answer with
      | error cause => exact .done _
      | ok sent => exact .count (.done _)

theorem looksFirst_process (t : Transfer) : t.process.run.LooksFirst := by
  rw [process_run]
  exact .look t.acts_afterRead

end Transfer

namespace Rpc

/-! ## Requests -/

/-- A request for a transfer is about a transfer, if its parameters can be read. -/
theorem exists_transfer_of_parse {request : Json} {m : Method} {invocation : Invocation}
    (changes : Changes request) (method : requestMethod? request = some m.name)
    (parsed : Params.parse m (requestParams request) = .ok invocation) :
    ∃ t, invocation = .transfer t := by
  obtain ⟨kind, hkind⟩ := changes_iff.mp changes
  have hname : m.name = kind.method.name := Option.some.inj (method.symm.trans hkind)
  have hmethod : m = kind.method := by
    have hserved := Method.ofName?_name m
    rw [hname, Method.ofName?_name] at hserved
    exact (Option.some.inj hserved).symm
  have hinvocation := (method_of_parse parsed).trans hmethod
  cases invocation with
  | transfer t => exact ⟨t, rfl⟩
  | _ => cases kind <;> cases hinvocation

/-- A request for a transfer looks at the ledger first. -/
theorem looksFirst_handle {request : Json} (changes : Changes request) :
    (handle request).LooksFirst := by
  have hresolve : (resolve request).LooksFirst := by
    refine resolve_cases (fun refusal => .idle (.done _)) fun m method => ?_
    unfold Method.call
    cases parsed : Params.parse m (requestParams request) with
    | error cause => exact .idle (.done _)
    | ok invocation =>
      obtain ⟨t, rfl⟩ := exists_transfer_of_parse changes method parsed
      have hperform : (Invocation.transfer t).perform.run.LooksFirst := by
        refine t.looksFirst_process.bind (fun r => ?_)
        cases r <;> exact .done _
      exact hperform.bind fun r => .done _
  rw [handle_eq]
  exact hresolve.bind fun r => .count (.done _)

/-- **A race of requests for transfers comes to what each of them comes to alone.** Whatever the
state of the chain and its switches, whichever identifiers the requests have in common, and
whichever of them cannot be read:

* each is answered as if it were alone;
* what is submitted is, in their order, what each of them submits alone, all of it behind all reads;
* complete is what one of them completes alone, and nothing else of the chain changes;
* each counter goes up by what the requests alone would add together. -/
theorem raced_as_alone (counting : Session.Counting) (window : Nat) (chain : Ledger)
    (metrics : Metrics) {requests : List Json} (changes : ∀ r ∈ requests, Changes r) :
    let d := Session.deployment counting window
    let w : World Ledger := ⟨chain, metrics, [], []⟩
    Plan.RacedAsAlone w requests (fun r => (handle r).complete d w)
      (Plan.race d (requests.map handle) w) := by
  have : Inhabited Envelope := ⟨⟨.null, .error .notJson⟩⟩
  exact Plan.race_of_looksFirst counting.counts window
    (fun r mem => looksFirst_handle (changes r mem)) chain metrics

/-- A refund asked for twice, a recharge without parameters, and a small transfer that is complete:
both refunds are submitted, and the notice goes out behind them. -/
theorem raced_as_alone_of_two_refunds :
    let tx : TransferId := ⟨List.replicate 32 0xaa, rfl⟩
    let other : TransferId := ⟨List.replicate 32 0xbb, rfl⟩
    let refund : Json := .obj [("method", .str "refundWithdraw"), ("params", .arr [
      .str "0xaaaaaaaaaaaaaaaaaaaaaaaaaaaaaaaaaaaaaaaaaaaaaaaaaaaaaaaaaaaaaaaa"])]
    let recharge : Json := .obj [("method", .str "recharge")]
    let small : Json := .obj [("method", .str "smallCrossChainTransaction"), ("params", .arr [
      .str "signed", .str "raw",
      .str "BBBBBBBBBBBBBBBBBBBBBBBBBBBBBBBBBBBBBBBBBBBBBBBBBBBBBBBBBBBBBBBB"])]
    let requests := [refund, refund, recharge, small]
    let chain := (Ledger.empty.apply (.autoComplete true)).apply (.complete [other])
    let d := Session.deployment ⟨true, true, true⟩ 8
    let w : World Ledger := ⟨chain, .empty, [], []⟩
    let raced := Plan.race d (requests.map handle) w
    (∀ r ∈ requests, Changes r) ∧
      Plan.RacedAsAlone w requests (fun r => (handle r).complete d w) raced ∧
      raced.2.log.reverse = [⟨.isCompleted tx, false⟩, ⟨.isCompleted tx, false⟩,
        ⟨.isCompleted other, false⟩, ⟨.submitRefund tx, false⟩, ⟨.submitRefund tx, false⟩,
        ⟨.notifyAccepted other, false⟩] := by
  intro tx other refund recharge small requests chain d w raced
  have refunds : Changes refund := ⟨"refundWithdraw", by decide, rfl⟩
  have recharges : Changes recharge := ⟨"recharge", by decide, rfl⟩
  have transfers : Changes small := ⟨"smallCrossChainTransaction", by decide, rfl⟩
  have changes : ∀ r ∈ requests, Changes r := by
    simp only [requests, List.forall_mem_cons]
    exact ⟨refunds, refunds, recharges, transfers, nofun⟩
  have alone := raced_as_alone ⟨true, true, true⟩ 8 chain .empty changes
  refine ⟨changes, alone, ?_⟩
  rw [alone.log]
  decide +kernel

end Rpc

end TransferRelay

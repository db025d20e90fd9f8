import TransferRelay.Proofs.Chain.Locality
import TransferRelay.Proofs.Rpc.Calling
import TransferRelay.Proofs.Rpc.Handling
import TransferRelay.Proofs.Transfer.Course
import TransferRelay.Session.Basic

/-!
# Requests about different transfers

A request names some identifiers, and all it has to do with are the transfers under these
(`about_handle`). So two requests that name no identifier in common can change places: each gets
the same envelope, and the chain and the counters end up the same (`handle_comm`).
-/

namespace TransferRelay

/-! ## What operations are about -/

/-- A transfer is about its identifier, whatever of it is submitted. -/
theorem Transfer.about_process (t : Transfer) : t.process.run.About [t.tx] := by
  have hsubmission : ∀ tx, t.submission.about? = some tx → tx ∈ [t.tx] := by
    intro tx h
    cases t <;> cases h <;> exact List.mem_singleton_self _
  rw [process_run]
  refine .call (fun tx h => by cases h; exact List.mem_singleton_self _) fun read => ?_
  rcases read with cause | flag
  · exact .count (.done _)
  · cases flag with
    | true =>
      refine .count ?_
      cases t with
      | smallTransfer signature rawTx tx => exact .notify (.done _)
      | _ => exact .done _
    | false =>
      refine .call hsubmission fun answer => ?_
      cases t.receipt answer with
      | error cause => exact .done _
      | ok sent => exact .count (.done _)

variable {ids : List TransferId}

theorem Task.about_ofLedgerRead {α : Type} (r : Except ReadFault α) :
    (ofLedgerRead r).run.About ids := by
  cases r with
  | error cause => exact .count (.done _)
  | ok a => exact .done _

theorem Task.about_ofRead {α : Type} (r : Except ReadFault α) : (ofRead r).run.About ids := by
  cases r <;> exact .done _

theorem Inquiry.about_filterBy {ι : Type} {key : ι → Except Fault TransferId} {items : List ι}
    (named : ∀ i ∈ items, ∀ tx, key i = .ok tx → tx ∈ ids) :
    (filterBy key items).run.About ids := by
  cases hkeys : keys key items with
  | error cause =>
    rw [filterBy, hkeys]
    exact .done _
  | ok txs =>
    have keyed := keys_eq_ok_iff.mp hkeys
    rw [filterBy_run keyed]
    refine .flags (fun tx mem => ?_) fun r => ?_
    · obtain ⟨i, hi, htx⟩ := exists_item_of_mem keyed mem
      exact named i hi tx htx
    · cases r with
      | error cause => exact .count (.done _)
      | ok flags => exact .done _

theorem Inquiry.about_withdrawal (tx : TransferId) : (withdrawal tx).run.About [tx] := by
  have hself : ∀ key, some tx = some key → key ∈ [tx] := by
    rintro _ ⟨⟩
    exact List.mem_singleton_self _
  refine Task.about_bind (.call hself Task.about_ofRead) fun record => ?_
  exact Task.about_bind (.call hself Task.about_ofLedgerRead) fun flag => .done _

namespace Rpc

/-! ## What requests name -/

/-- The identifiers that a method is asked about. Texts that spell no identifier name none. -/
def Invocation.identifiers : Invocation → List TransferId
  | .processed txs => txs.filterMap fun s => (TransferId.parse s).toOption
  | .transfer t => [t.tx]
  | .rechargeData tx | .withdrawData tx => [tx]
  | .decodeRechargeData _ | .encodeWithdraw _ => []

/-- The identifiers that a request names. A request that no method takes names none. -/
def identifiers (request : Json) : List TransferId :=
  match (requestMethod? request).bind Method.ofName? with
  | none => []
  | some m =>
    match Params.parse m (requestParams request) with
    | .error _ => []
    | .ok invocation => invocation.identifiers

theorem about_perform (invocation : Invocation) :
    invocation.perform.run.About invocation.identifiers := by
  cases invocation with
  | processed txs =>
    refine Task.about_bind (Inquiry.about_filterBy fun s hs tx htx => ?_) fun kept => .done _
    have hparse := htx
    exact List.mem_filterMap.mpr ⟨s, hs, by rw [hparse]; rfl⟩
  | transfer t => exact Task.about_bind t.about_process fun outcome => .done _
  | rechargeData tx =>
    refine Task.about_bind (.call ?_ Task.about_ofRead) fun entries => .done _
    rintro _ ⟨⟩
    exact List.mem_singleton_self _
  | decodeRechargeData data => exact Task.about_bind (.done _) fun entries => .done _
  | withdrawData tx => exact Task.about_bind (Inquiry.about_withdrawal tx) fun record => .done _
  | encodeWithdraw request => exact .done _

theorem identifiers_of_parse {request : Json} {m : Method} {invocation : Invocation}
    (method : requestMethod? request = some m.name)
    (parsed : Params.parse m (requestParams request) = .ok invocation) :
    identifiers request = invocation.identifiers := by
  simp only [identifiers, method, Option.bind_some, Method.ofName?_name, parsed]

/-- A request has to do with the transfers that it names, and no others. -/
theorem about_handle (request : Json) : (handle request).About (identifiers request) := by
  have hresolve : (resolve request).About (identifiers request) := by
    refine resolve_cases (fun refusal => .done _) fun m method => ?_
    refine Plan.About.bind ?_ fun r => .done _
    unfold Method.call
    cases parsed : Params.parse m (requestParams request) with
    | error cause => exact .done _
    | ok invocation =>
      rw [identifiers_of_parse method parsed]
      exact about_perform invocation
  rw [handle_eq]
  exact hresolve.bind fun r => .count (.done _)

/-! ## Requests one after the other -/

/-- Two requests that name different identifiers can be handled in either order: each is answered
the same, and what is complete, what is stored and what is counted comes out the same. -/
theorem handle_comm (counting : Session.Counting) (window : Nat) {request request' : Json}
    (independent : ∀ tx ∈ identifiers request, tx ∉ identifiers request') (w : World Ledger) :
    let d := Session.deployment counting window
    let first := (handle request).complete d w
    let second := (handle request').complete d first.2
    let first' := (handle request').complete d w
    let second' := (handle request).complete d first'.2
    first.1 = second'.1 ∧ second.1 = first'.1 ∧ second.2.chain = second'.2.chain ∧
      second.2.metrics = second'.2.metrics :=
  (about_handle request).complete_comm counting.counts window (about_handle request') independent w

/-- A refund on a chain that completes what is submitted, and a batch that asks for another
transfer. -/
theorem handle_comm_of_refund_and_batch :
    let refund : Json := .obj [("method", .str "refundWithdraw"), ("params", .obj [("txHash",
      .str "0xaaaaaaaaaaaaaaaaaaaaaaaaaaaaaaaaaaaaaaaaaaaaaaaaaaaaaaaaaaaaaaaa")])]
    let batch : Json := .obj [("method", .str "processedInvalidWithdrawtx"), ("params", .obj [
      ("txs", .arr [.str "BBBBBBBBBBBBBBBBBBBBBBBBBBBBBBBBBBBBBBBBBBBBBBBBBBBBBBBBBBBBBBBB"])])]
    let d := Session.deployment ⟨true, true, true⟩ 8
    let w := World.initial (Ledger.empty.apply (.autoComplete true))
    let first := (handle refund).complete d w
    let second := (handle batch).complete d first.2
    let first' := (handle batch).complete d w
    let second' := (handle refund).complete d first'.2
    (∀ tx ∈ identifiers refund, tx ∉ identifiers batch) ∧
      first.1 = second'.1 ∧ second.1 = first'.1 ∧ second.2.chain = second'.2.chain ∧
      second.2.metrics = second'.2.metrics := by
  intro refund batch d w
  have hrefund : identifiers refund = [⟨List.replicate 32 0xaa, rfl⟩] := by decide +kernel
  have hbatch : identifiers batch = [⟨List.replicate 32 0xbb, rfl⟩] := by decide +kernel
  have independent : ∀ tx ∈ identifiers refund, tx ∉ identifiers batch := by
    rw [hrefund, hbatch]
    decide
  -- nothing else of the requests matters
  clear_value refund batch w
  exact ⟨independent, handle_comm ⟨true, true, true⟩ 8 independent w⟩

end Rpc

end TransferRelay

import TransferRelay.Proofs.Chain.Ledger
import TransferRelay.Proofs.Rpc.Telling
import TransferRelay.Proofs.Session.Keeping
import TransferRelay.Session.Basic

/-!
# Failures, counters and notices do not show

Two sessions of the same steps, over chains in memory that fail together but for other reasons, that
take notices or do not, and in which other parts of the service count: clients are answered the same
in both, the chains see the same calls, and end in the same state.

A chain in memory is `Alike` to another if they differ in the reasons of failures and in what
becomes of notices at most. Alike chains are coupled (`coupled_deployment`), so every operation is
answered the same (`alike_operation`), and so is every session (`heard_alike`).
-/

namespace TransferRelay

/-! ## Chains in memory -/

namespace Ledger

/-- Chains that hold the same and fail together, whatever the reasons and whatever they do with
notices. -/
structure Alike (l l' : Ledger) : Prop where
  completed : l.completed = l'.completed
  recharges : l.recharges = l'.recharges
  withdrawals : l.withdrawals = l'.withdrawals
  autoComplete : l.autoComplete = l'.autoComplete
  reads : l.readOutage.isSome = l'.readOutage.isSome
  readsOf : ∀ tx, (l.readOutageOf tx).isSome = (l'.readOutageOf tx).isSome
  submissions : l.submitOutage.isSome = l'.submitOutage.isSome

variable {l l' : Ledger} {α : Type}

theorem Alike.refl (l : Ledger) : l.Alike l :=
  ⟨rfl, rfl, rfl, rfl, rfl, fun _ => rfl, rfl⟩

/-- Settings of a switch that are both off, or both on. -/
theorem eq_none_or_some {o o' : Option String} (h : o.isSome = o'.isSome) :
    (o = none ∧ o' = none) ∨ ∃ reason reason', o = some reason ∧ o' = some reason' := by
  cases o with
  | none =>
    cases o' with
    | none => exact .inl ⟨rfl, rfl⟩
    | some reason' => cases h
  | some reason =>
    cases o' with
    | none => cases h
    | some reason' => exact .inr ⟨reason, reason', rfl, rfl⟩

theorem Alike.read (h : l.Alike l') (tx : TransferId) (value : Except ReadFault α) :
    FailAlike (l.read tx value) (l'.read tx value) := by
  have houtage : (l.outageOf tx).isSome = (l'.outageOf tx).isSome := by
    unfold outageOf
    rcases eq_none_or_some h.reads with ⟨hnone, hnone'⟩ | ⟨reason, reason', hsome, hsome'⟩
    · rw [hnone, hnone']
      exact h.readsOf tx
    · rw [hsome, hsome']
      rfl
  unfold Ledger.read
  rcases eq_none_or_some houtage with ⟨hnone, hnone'⟩ | ⟨reason, reason', hsome, hsome'⟩
  · rw [hnone, hnone']
    cases value with
    | error cause => exact .error trivial
    | ok a => exact .ok rfl
  · rw [hsome, hsome']
    exact .error trivial

theorem Alike.mark (h : l.Alike l') (flag : Bool) (txs : List TransferId) :
    (l.mark flag txs).Alike (l'.mark flag txs) :=
  { h with completed := by unfold Ledger.mark; rw [h.completed] }

theorem Alike.submit (h : l.Alike l') (tx : TransferId) (value : α) :
    FailAlike (l.submit tx value).1 (l'.submit tx value).1 ∧
      (l.submit tx value).2.Alike (l'.submit tx value).2 := by
  unfold Ledger.submit
  rcases eq_none_or_some h.submissions with ⟨hnone, hnone'⟩ | ⟨reason, reason', hsome, hsome'⟩
  · rw [hnone, hnone']
    refine ⟨.ok rfl, ?_⟩
    by_cases auto : l.autoComplete = true
    · dsimp only
      rw [if_pos auto, if_pos (h.autoComplete.symm.trans auto)]
      exact h.mark true [tx]
    · dsimp only
      rw [if_neg auto, if_neg fun auto' => auto (h.autoComplete.trans auto')]
      exact h
  · rw [hsome, hsome']
    exact ⟨.error trivial, h⟩

/-- Alike chains answer alike, and stay alike. -/
theorem Alike.answer (h : l.Alike l') (c : Call) :
    c.Alike (Ledger.answer c l).1 (Ledger.answer c l').1 ∧
      (Ledger.answer c l).2.Alike (Ledger.answer c l').2 := by
  cases c with
  | isCompleted tx =>
    refine ⟨?_, h⟩
    show FailAlike (l.read tx (.ok (l.completed tx))) (l'.read tx (.ok (l'.completed tx)))
    rw [h.completed]
    exact h.read tx _
  | rechargeData tx =>
    refine ⟨?_, h⟩
    show FailAlike (l.read tx (.ok (l.recharges tx))) (l'.read tx (.ok (l'.recharges tx)))
    rw [h.recharges]
    exact h.read tx _
  | withdrawData tx =>
    refine ⟨?_, h⟩
    show FailAlike (Ledger.answer (.withdrawData tx) l).1 (Ledger.answer (.withdrawData tx) l').1
    simp only [Ledger.answer, h.withdrawals]
    exact h.read tx _
  | sendInvalidWithdraw signature tx => exact h.submit tx ()
  | submitSmallTransfer signature rawTx =>
    simp only [Ledger.answer]
    rcases eq_none_or_some h.submissions with ⟨hnone, hnone'⟩ | ⟨reason, reason', hsome, hsome'⟩
    · rw [hnone, hnone']
      exact ⟨.ok rfl, h⟩
    · rw [hsome, hsome']
      exact ⟨.error trivial, h⟩
  | submitRecharge tx data => exact h.submit tx rechargeReceipt
  | submitRefund tx => exact h.submit tx refundReceipt
  | notifyAccepted tx =>
    -- one chain may take the notice and the other not, and neither changes by it
    refine ⟨trivial, ?_⟩
    rw [answer_notifyAccepted, answer_notifyAccepted]
    exact h

/-- Changes that differ in the reason of a failure at most. -/
inductive Change.Alike : Change → Change → Prop
  | same (c : Change) : Alike c c
  | failReads {reason reason' : Option String} (set : reason.isSome = reason'.isSome) :
      Alike (.failReads reason) (.failReads reason')
  | failReadsOf {tx : TransferId} {reason reason' : Option String}
      (set : reason.isSome = reason'.isSome) :
      Alike (.failReadsOf tx reason) (.failReadsOf tx reason')
  | failSubmissions {reason reason' : Option String} (set : reason.isSome = reason'.isSome) :
      Alike (.failSubmissions reason) (.failSubmissions reason')

theorem Alike.failReadsOf (h : l.Alike l') (tx : TransferId) {reason reason' : Option String}
    (set : reason.isSome = reason'.isSome) :
    (l.apply (.failReadsOf tx reason)).Alike (l'.apply (.failReadsOf tx reason')) := by
  refine { h with readsOf := fun key => ?_ }
  show (update l.readOutageOf tx reason key).isSome = (update l'.readOutageOf tx reason' key).isSome
  by_cases heq : key = tx
  · subst heq
    rw [update_self, update_self]
    exact set
  · rw [update_other _ _ heq, update_other _ _ heq]
    exact h.readsOf key

theorem Alike.failNotices_left (h : l.Alike l') (reason : Option String) :
    (l.apply (.failNotices reason)).Alike l' :=
  { h with }

theorem Alike.failNotices_right (h : l.Alike l') (reason : Option String) :
    l.Alike (l'.apply (.failNotices reason)) :=
  { h with }

/-- Alike chains stay alike under changes that are. -/
theorem Alike.apply (h : l.Alike l') {c c' : Change} (hc : c.Alike c') :
    (l.apply c).Alike (l'.apply c') := by
  cases hc with
  | same c =>
    cases c with
    | complete txs => exact h.mark true txs
    | uncomplete txs => exact h.mark false txs
    | failReads reason => exact { h with reads := rfl }
    | failReadsOf tx reason => exact h.failReadsOf tx rfl
    | failSubmissions reason => exact { h with submissions := rfl }
    | failNotices reason => exact { h with }
    | autoComplete on => exact { h with autoComplete := rfl }
    | setRecharge tx entries =>
      refine { h with recharges := ?_ }
      show update l.recharges tx entries = update l'.recharges tx entries
      rw [h.recharges]
    | setWithdraw tx record =>
      refine { h with withdrawals := ?_ }
      show update l.withdrawals tx _ = update l'.withdrawals tx _
      rw [h.withdrawals]
  | failReads set => exact { h with reads := set }
  | failReadsOf set => exact h.failReadsOf _ set
  | failSubmissions set => exact { h with submissions := set }

end Ledger

/-! ## Operations -/

section Operations

variable {σ σ' : Type} {d : Deployment σ} {d' : Deployment σ'} {S : σ → σ' → Prop} {w : World σ}
  {w' : World σ'}

namespace Http

/-- On every route, clients of the two services get the same, but for what is published of the
counters. -/
theorem alike_route (coupled : d.Coupled d' S) (uptime : Nat) (alike : World.Alike S w w')
    (route : Route) :
    (route.handle d uptime w).1.status = (route.handle d' uptime w').1.status ∧
      (route ≠ .health → route ≠ .metrics →
        (route.handle d uptime w).1 = (route.handle d' uptime w').1) ∧
      World.Alike S (route.handle d uptime w).2 (route.handle d' uptime w').2 := by
  cases route with
  | rpc body =>
    obtain ⟨hjson, hafter⟩ := (alike_answerRpc body).complete coupled alike
    exact ⟨rfl, fun _ _ => congrArg (fun json => ok jsonType (.json json)) hjson, hafter⟩
  | health =>
    refine ⟨?_, fun health _ => absurd rfl health, alike⟩
    simp only [Route.handle, ok]
  | metrics =>
    refine ⟨?_, fun _ metrics => absurd rfl metrics, alike⟩
    simp only [Route.handle, ok]
  | _ => exact ⟨rfl, fun _ _ => rfl, alike⟩

theorem alike_handle (coupled : d.Coupled d' S) (uptime : Nat) (alike : World.Alike S w w')
    (r : Request) :
    (handle d uptime r w).1.status = (handle d' uptime r w').1.status ∧
      (r.route ≠ .health → r.route ≠ .metrics →
        (handle d uptime r w).1 = (handle d' uptime r w').1) ∧
      World.Alike S (handle d uptime r w).2 (handle d' uptime r w').2 := by
  obtain ⟨hstatus, hsame, hafter⟩ := alike_route coupled uptime alike r.route
  unfold handle
  by_cases head : r.method = "HEAD"
  · simp only [if_pos head]
    exact ⟨hstatus, fun health metrics => congrArg Response.head (hsame health metrics), hafter⟩
  · simp only [if_neg head]
    exact ⟨hstatus, hsame, hafter⟩

end Http

/-- Results of an operation by which clients cannot tell two services apart. -/
inductive Operation.SameAnswer : Operation → Result → Result → Prop
  | request {r : Json} {e e' : Rpc.Envelope} (json : e.json = e'.json) :
      SameAnswer (.request r) (.envelope e) (.envelope e')
  | race {rs : List Json} {es es' : List Rpc.Envelope}
      (json : es.map Rpc.Envelope.json = es'.map Rpc.Envelope.json) :
      SameAnswer (.race rs) (.envelopes es) (.envelopes es')
  /-- A response may show the counters where these are asked for. -/
  | http {r : Http.Request} {response response' : Http.Response}
      (status : response.status = response'.status)
      (same : r.route ≠ .health → r.route ≠ .metrics → response = response') :
      SameAnswer (.http r) (.response response) (.response response')
  /-- What goes around the requests is no answer to a client. -/
  | direct {op : Operation} {result result' : Result} (direct : op.isDirect = true) :
      SameAnswer op result result'

/-- On coupled chains, clients get the same answers to every operation. -/
theorem alike_operation (coupled : d.Coupled d' S) (alike : World.Alike S w w') (op : Operation) :
    op.SameAnswer (op.run d w).1 (op.run d' w').1 ∧
      World.Alike S (op.run d w).2 (op.run d' w').2 := by
  by_cases direct : op.isDirect = true
  · obtain rfl | ⟨α, wrap, x, discreet, hrun⟩ := Task.closed_discreet.operation
      Task.discreet_completionFlags (fun t _ => t.discreet_process) direct
    · exact ⟨.direct rfl, alike⟩
    · rw [hrun, hrun]
      exact ⟨.direct direct, (Plan.Alike.complete discreet coupled alike).2⟩
  · cases op with
    | request r =>
      obtain ⟨hjson, hafter⟩ := (Rpc.alike_handle r).complete coupled alike
      exact ⟨.request hjson, hafter⟩
    | http r =>
      obtain ⟨hstatus, hsame, hafter⟩ := Http.alike_handle coupled 0 alike r
      exact ⟨.http hstatus hsame, hafter⟩
    | race rs =>
      have hplans : List.Forall₂ (Plan.Alike fun e e' => e.json = e'.json) (rs.map Rpc.handle)
          (rs.map Rpc.handle) := by
        refine List.forall₂_same.mpr fun p hp => ?_
        obtain ⟨r, -, rfl⟩ := List.mem_map.mp hp
        exact Rpc.alike_handle r
      obtain ⟨hjson, hafter⟩ := Plan.alike_race hplans coupled alike
      refine ⟨.race ?_, hafter⟩
      rw [← List.forall₂_eq_eq_eq]
      exact List.forall₂_map_left_iff.mpr (List.forall₂_map_right_iff.mpr hjson)
    | _ => exact absurd rfl direct

end Operations

/-! ## Sessions -/

namespace Session

/-- Whatever parts of them count, services over alike chains are coupled. -/
theorem coupled_deployment (counting counting' : Counting) (window : Nat) :
    (deployment counting window).Coupled (deployment counting' window) Ledger.Alike where
  answer c _ _ h := h.answer c
  width := rfl

/-- Steps of sessions that differ in the reasons of failures and in what becomes of notices at
most. -/
inductive StepsAlike : List Step → List Step → Prop
  | nil : StepsAlike [] []
  | operation (op : Operation) {steps steps' : List Step} (rest : StepsAlike steps steps') :
      StepsAlike (.operation op :: steps) (.operation op :: steps')
  | change {c c' : Ledger.Change} (alike : c.Alike c') {steps steps' : List Step}
      (rest : StepsAlike steps steps') : StepsAlike (.change c :: steps) (.change c' :: steps')
  | noticesLeft (reason : Option String) {steps steps' : List Step}
      (rest : StepsAlike steps steps') :
      StepsAlike (.change (.failNotices reason) :: steps) steps'
  | noticesRight (reason : Option String) {steps steps' : List Step}
      (rest : StepsAlike steps steps') :
      StepsAlike steps (.change (.failNotices reason) :: steps')

/-- The operations of a session, each with its answer. -/
def heard : List Step → List Answer → List (Operation × Answer)
  | .operation op :: steps, answer :: answers => (op, answer) :: heard steps answers
  | .change _ :: steps, _ :: answers => heard steps answers
  | _, _ => []

/-- The same operation, with the same answer to clients and the same calls to the chain. -/
structure HeardAlike (x x' : Operation × Answer) : Prop where
  operation : x.1 = x'.1
  result : ∃ result result', x.2.result = some result ∧ x'.2.result = some result' ∧
    x.1.SameAnswer result result'
  calls : x.2.log.map Event.call = x'.2.log.map Event.call

/-- Sessions that start on alike worlds stay side by side. -/
theorem alike_run {d d' : Deployment Ledger} (coupled : d.Coupled d' Ledger.Alike)
    {steps steps' : List Step} (h : StepsAlike steps steps') {w w' : World Ledger}
    (alike : World.Alike Ledger.Alike w w') :
    List.Forall₂ HeardAlike (heard steps (run d steps w).1) (heard steps' (run d' steps' w').1) ∧
      World.Alike Ledger.Alike (run d steps w).2 (run d' steps' w').2 := by
  induction h generalizing w w' with
  | nil => exact ⟨.nil, alike⟩
  | @operation op steps steps' rest ih =>
    -- a step keeps a log of its own
    have hfresh : World.Alike Ledger.Alike { w with log := [] } { w' with log := [] } :=
      ⟨alike.chain, rfl, alike.notices⟩
    obtain ⟨hsame, hafter⟩ := alike_operation coupled hfresh op
    obtain ⟨hrest, hlast⟩ := ih hafter
    refine ⟨.cons ⟨rfl, ⟨_, _, rfl, rfl, hsame⟩, ?_⟩ hrest, hlast⟩
    show (op.run d { w with log := [] }).2.log.reverse.map Event.call =
      (op.run d' { w' with log := [] }).2.log.reverse.map Event.call
    rw [List.map_reverse, List.map_reverse, hafter.calls]
  | change hchange rest ih => exact ih ⟨alike.chain.apply hchange, alike.calls, alike.notices⟩
  | noticesLeft reason rest ih =>
    exact ih ⟨alike.chain.failNotices_left reason, alike.calls, alike.notices⟩
  | noticesRight reason rest ih =>
    exact ih ⟨alike.chain.failNotices_right reason, alike.calls, alike.notices⟩

/-- **Clients learn nothing of failures, counters and notices.** Over two sessions on the same chain
that differ in the reasons of failures, in what becomes of notices and in the parts of the service
that count at most, every operation is answered the same and makes the same calls, and the chains
end alike. -/
theorem heard_alike (chain : Ledger) (counting counting' : Counting) (window : Nat)
    {steps steps' : List Step} (h : StepsAlike steps steps') :
    let session := run (deployment counting window) steps (.initial chain)
    let session' := run (deployment counting' window) steps' (.initial chain)
    List.Forall₂ HeardAlike (heard steps session.1) (heard steps' session'.1) ∧
      session.2.chain.Alike session'.2.chain := by
  have hstart : World.Alike Ledger.Alike (World.initial chain) (World.initial chain) :=
    ⟨.refl chain, rfl, rfl⟩
  obtain ⟨hheard, hend⟩ := alike_run (coupled_deployment counting counting' window) h hstart
  exact ⟨hheard, hend.chain⟩

/-- A refund behind an outage of the ledger, then a small transfer that is found complete: once with
the words of the node, notices that fail and everything counted, and once with other words and
nothing counted but by the server. -/
theorem heard_alike_of_outages :
    let tx : TransferId := ⟨List.replicate 32 0xaa, rfl⟩
    let hash := "aaaaaaaaaaaaaaaaaaaaaaaaaaaaaaaaaaaaaaaaaaaaaaaaaaaaaaaaaaaaaaaa"
    let refund : Json := .obj [("method", .str "refundWithdraw"),
      ("params", .obj [("txHash", .str hash)])]
    let small : Json := .obj [("method", .str "smallCrossChainTransaction"),
      ("params", .obj [("signature", .str "s"), ("rawTx", .str "r"), ("txHash", .str hash)])]
    let steps : List Step := [.change (.failReads (some "node 7 is down")),
      .operation (.request refund), .change (.failReads none), .change (.complete [tx]),
      .change (.failNotices (some "node 7 is down")), .operation (.race [small, refund])]
    let steps' : List Step := [.change (.failReads (some "timeout")),
      .operation (.request refund), .change (.failReads none), .change (.complete [tx]),
      .operation (.race [small, refund])]
    StepsAlike steps steps' ∧
      (let session := run (deployment ⟨true, true, true⟩ 8) steps (.initial .empty)
      let session' := run (deployment ⟨false, false, false⟩ 8) steps' (.initial .empty)
      List.Forall₂ HeardAlike (heard steps session.1) (heard steps' session'.1) ∧
        session.2.chain.Alike session'.2.chain) := by
  intro tx hash refund small steps steps'
  have h : StepsAlike steps steps' := by
    refine .change (.failReads (by rfl)) (.operation _ ?_)
    refine .change (.same _) (.change (.same _) ?_)
    exact .noticesLeft _ (.operation _ .nil)
  exact ⟨h, heard_alike .empty ⟨true, true, true⟩ ⟨false, false, false⟩ 8 h⟩

end Session

end TransferRelay

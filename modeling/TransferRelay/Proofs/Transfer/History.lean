import Mathlib.Data.List.Chain
import TransferRelay.Proofs.Chain.Interleaving
import TransferRelay.Proofs.Rpc.InputFaults
import TransferRelay.Proofs.Transfer.Course

/-!
# The history of a transfer

Nothing is remembered of a transfer but the flag that the ledger has for it: each time it is
processed, its state is made up anew. A `History` is any number of transfers processed one after the
other, on a chain that changes in between but loses no completion, with what has been reported.

What is reported of one identifier is nevertheless a life of the transfer (`legal_reported`), for
all kinds of transfers that end in the same state. The invariant is `Behind`: a state that has been
reported is not ahead of the ledger.
-/

namespace TransferRelay

variable {σ α : Type} {d : Deployment σ}

/-! ## Families of kinds -/

/-- The kinds of transfers that end in the same state when the ledger has them complete. -/
inductive TransferFamily
  /-- Transfers to the side chain. -/
  | deposit
  /-- Claims on withdrawals that failed. -/
  | claim
deriving DecidableEq

/-- The family of a kind. -/
def TransferKind.family : TransferKind → TransferFamily
  | .recharge | .smallTransfer => .deposit
  | .invalidWithdraw | .refundWithdraw => .claim

/-- The state in which the transfers of a family end. -/
def TransferFamily.finalState : TransferFamily → TransferState
  | .deposit => .completed
  | .claim => .refunded

theorem Transfer.finalState_family (t : Transfer) : t.kind.family.finalState = t.finalState := by
  cases t <;> rfl

/-! ## Lives of transfers -/

/-- The states of a transfer in their order: it has been seen, each step is allowed, and the
terminal state it comes to, if it does, is its state for ever. -/
structure TransferState.Legal (states : List TransferState) : Prop where
  seen : .unseen ∉ states
  steps : states.IsChain fun source target => source.transition target = .ok target
  settles : states.Pairwise fun source target => source.isTerminal = true → target = source

/-- There is no step out of a terminal state. -/
theorem TransferState.eq_of_transition {source target : TransferState}
    (step : source.transition target = .ok target) (terminal : source.isTerminal = true) :
    target = source := by
  cases source <;> cases terminal <;> cases target <;> first | rfl | cases step

/-- Where each step is allowed, a terminal state is left at no later time either. -/
theorem TransferState.settles_of_steps {states : List TransferState}
    (steps : states.IsChain fun source target => source.transition target = .ok target) :
    states.Pairwise fun source target => source.isTerminal = true → target = source := by
  have hstays : states.IsChain fun source target => source.isTerminal = true → target = source :=
    steps.imp fun _ _ step => eq_of_transition step
  -- staying in a terminal state is transitive, so it goes over from neighbours to all pairs
  have : Trans (fun source target : TransferState => source.isTerminal = true → target = source)
      (fun source target => source.isTerminal = true → target = source)
      (fun source target => source.isTerminal = true → target = source) := by
    refine ⟨?_⟩
    intro a b c hab hbc terminal
    obtain rfl := hab terminal
    exact hbc terminal
  exact List.isChain_iff_pairwise.mp hstays

/-! ## Reports -/

/-- What has been reported of a transfer when it was processed. -/
structure Report where
  transfer : Transfer
  result : Except Fault TransferOutcome

/-- The state that a report tells of the transfers of a family under an identifier. -/
def Report.state? (family : TransferFamily) (tx : TransferId) (r : Report) :
    Option TransferState :=
  match r.result with
  | .error _ => none
  | .ok outcome =>
    if r.transfer.kind.family = family ∧ r.transfer.tx = tx then some outcome.state else none

/-- The states that reports tell, in their order. -/
def reported (family : TransferFamily) (tx : TransferId) (reports : List Report) :
    List TransferState :=
  reports.filterMap (Report.state? family tx)

theorem reported_snoc (family : TransferFamily) (tx : TransferId) (reports : List Report)
    (r : Report) :
    reported family tx (reports ++ [r]) =
      reported family tx reports ++ (r.state? family tx).toList := by
  rw [reported, List.filterMap_append]
  cases hstate : r.state? family tx <;> simp [reported, hstate]

/-- Transfers that are processed one after the other, with what is reported of them, on a chain that
loses no completion meanwhile. -/
inductive History (ledger : GrowingLedger d) (first : World σ) : List Report → World σ → Prop
  | start : History ledger first [] first
  | process {reports : List Report} {w : World σ} (before : History ledger first reports w)
      (t : Transfer) :
      History ledger first (reports ++ [⟨t, (t.process.run.complete d w).1⟩])
        (t.process.run.complete d w).2
  /-- Other parties change the chain, or the service is restarted. -/
  | outside {reports : List Report} {w after : World σ} (before : History ledger first reports w)
      (grows : ∀ tx, ledger.completed w.chain tx = true → ledger.completed after.chain tx = true) :
      History ledger first reports after

/-! ## What running does to the ledger -/

namespace GrowingLedger

variable (ledger : GrowingLedger d) (tx : TransferId)

/-- A completion is not taken back by any call, nor by what happens beside calls. -/
theorem stable_completed : d.Stable fun w => ledger.completed w.chain tx = true where
  read c _ _ h := ledger.grows c h
  tally component series w h := by rwa [d.chain_tally]
  note _ _ h := h
  notice key _ h := ledger.grows (.notifyAccepted key) h

/-- Running a plan takes no completion back, whatever the plan does. -/
theorem keeps_completed (p : Plan α) : p.Keeps d fun w => ledger.completed w.chain tx = true := by
  induction p with
  | done a => exact .done a
  | call c next ih => exact .call (fun w h => ledger.grows c h) ih
  | flags txs next ih => exact (ledger.stable_completed tx).flags ih
  | count component series next ih => exact (ledger.stable_completed tx).count ih
  | notify tx' next ih => exact (ledger.stable_completed tx).notify ih

end GrowingLedger

namespace Transfer

/-- A transfer whose submission has been answered is reported as submitted, if at all. -/
theorem ends_afterSubmission (t : Transfer) (receipt : Except SubmitFault (Option TransferId)) :
    (t.afterSubmission receipt).Ends fun r =>
      ∀ outcome, r = .ok outcome → outcome.state = .submitted := by
  cases receipt with
  | error cause => exact .done nofun
  | ok sent =>
    refine .count (.done ?_)
    rintro outcome ⟨⟩
    rfl

/-- A transfer that is complete is reported in its final state. -/
theorem ends_afterCompletion (t : Transfer) :
    t.afterCompletion.Ends fun r =>
      ∀ outcome, r = .ok outcome → outcome.state = t.finalState := by
  have hdone : (Plan.done (.ok ⟨true, t.finalState, none⟩) :
      Plan (Except Fault TransferOutcome)).Ends fun r =>
        ∀ outcome, r = .ok outcome → outcome.state = t.finalState := by
    refine .done ?_
    rintro outcome ⟨⟩
    rfl
  refine .count ?_
  cases t with
  | smallTransfer signature rawTx tx => exact .notify hdone
  | _ => exact hdone

/-- What is reported of a transfer is what the ledger has of it when it is read. -/
theorem state_of_process (ledger : GrowingLedger d) (t : Transfer) (w : World σ)
    {outcome : TransferOutcome} (h : (t.process.run.complete d w).1 = .ok outcome) :
    (outcome.state = .submitted ∧ ledger.completed w.chain t.tx = false) ∨
      (outcome.state = t.finalState ∧ ledger.completed w.chain t.tx = true) := by
  rw [process_run, Plan.complete_call] at h
  cases hread : (d.answer (.isCompleted t.tx) w.chain).1 with
  | error cause =>
    rw [d.perform_eq hread] at h
    cases h
  | ok flag =>
    have hledger := ledger.reads hread
    rw [d.perform_eq hread] at h
    cases flag with
    | true => exact .inr ⟨t.ends_afterCompletion.complete d _ outcome h, hledger⟩
    | false =>
      exact .inl ⟨(t.ends_afterSubmission _).run d _ outcome h, hledger⟩

end Transfer

/-! ## Histories -/

/-- What has been reported of a transfer is not ahead of the ledger: it has been submitted, or it is
complete there. -/
structure Behind (ledger : GrowingLedger d) (family : TransferFamily) (tx : TransferId) (chain : σ)
    (states : List TransferState) : Prop where
  told : ∀ s ∈ states,
    s = .submitted ∨ s = family.finalState ∧ ledger.completed chain tx = true
  steps : states.IsChain fun source target => source.transition target = .ok target

namespace Behind

variable {ledger : GrowingLedger d} {family : TransferFamily} {tx : TransferId} {chain : σ}
  {states : List TransferState}

theorem nil : Behind ledger family tx chain [] :=
  ⟨nofun, .nil⟩

/-- A ledger that grows stays ahead. -/
theorem grow (h : Behind ledger family tx chain states) {after : σ}
    (grows : ledger.completed chain tx = true → ledger.completed after tx = true) :
    Behind ledger family tx after states := by
  refine ⟨fun s hs => ?_, h.steps⟩
  rcases h.told s hs with hsubmitted | ⟨hfinal, hcompleted⟩
  · exact .inl hsubmitted
  · exact .inr ⟨hfinal, grows hcompleted⟩

/-- The next report says what the ledger has. -/
theorem snoc (h : Behind ledger family tx chain states) {next : TransferState}
    (tells : (next = .submitted ∧ ledger.completed chain tx = false) ∨
      (next = family.finalState ∧ ledger.completed chain tx = true)) :
    Behind ledger family tx chain (states ++ [next]) := by
  constructor
  · intro s hs
    rcases List.mem_append.mp hs with hs | hs
    · exact h.told s hs
    · obtain rfl := List.mem_singleton.mp hs
      exact tells.imp And.left id
  · refine List.isChain_append.mpr ⟨h.steps, .singleton next, fun last hlast target htarget => ?_⟩
    obtain rfl : next = target := by simpa using htarget
    rcases h.told last (List.mem_of_mem_getLast? hlast) with rfl | ⟨rfl, hcompleted⟩
    · -- from submitted, a transfer may stay or end
      rcases tells with ⟨rfl, -⟩ | ⟨rfl, -⟩
      · rfl
      · cases family <;> rfl
    · -- the ledger has the transfer complete, so no report says less
      rcases tells with ⟨-, hopen⟩ | ⟨rfl, -⟩
      · rw [hcompleted] at hopen
        cases hopen
      · cases family <;> rfl

theorem legal (h : Behind ledger family tx chain states) : TransferState.Legal states := by
  refine ⟨fun hunseen => ?_, h.steps, TransferState.settles_of_steps h.steps⟩
  rcases h.told _ hunseen with hstate | ⟨hstate, -⟩
  · cases hstate
  · cases family <;> cases hstate

end Behind

namespace History

variable {ledger : GrowingLedger d} {first last : World σ} {reports : List Report}

/-- What a history keeps: no report is ahead of the ledger. -/
theorem behind (h : History ledger first reports last) (family : TransferFamily)
    (tx : TransferId) : Behind ledger family tx last.chain (reported family tx reports) := by
  induction h with
  | start => exact .nil
  | @process reports w before t ih =>
    have hgrows : ledger.completed w.chain tx = true →
        ledger.completed (t.process.run.complete d w).2.chain tx = true :=
      (ledger.stable_completed tx).complete (ledger.keeps_completed tx t.process.run)
    rw [reported_snoc]
    cases hresult : (t.process.run.complete d w).1 with
    | error fault => simpa [Report.state?] using ih.grow hgrows
    | ok outcome =>
      by_cases hsame : t.kind.family = family ∧ t.tx = tx
      · have htells := t.state_of_process ledger w hresult
        obtain ⟨rfl, rfl⟩ := hsame
        rw [← t.finalState_family] at htells
        simpa [Report.state?] using (ih.snoc htells).grow hgrows
      · simpa [Report.state?, hsame] using ih.grow hgrows
  | outside before grows ih => exact ih.grow (grows tx)

/-- A transfer that is processed is never refused for what is wrong with its input. -/
theorem not_input (h : History ledger first reports last) :
    ∀ r ∈ reports, ∀ cause, r.result ≠ .error (.input cause) := by
  induction h with
  | start =>
    intro r hr
    cases hr
  | @process reports w before t ih =>
    intro r hr cause hresult
    rcases List.mem_append.mp hr with hr | hr
    · exact ih r hr cause hresult
    · obtain rfl := List.mem_singleton.mp hr
      have hchain : (Fault.input cause).isOfChain = true :=
        t.failsByChain_process.complete d w _ hresult
      exact Bool.false_ne_true hchain
  | outside before grows ih => exact ih

/-- **What is reported of a transfer is a life of it.** Whatever fails, and whatever else completes
transfers in between, the states that are reported under an identifier for the kinds of one family
are such that the transfer has been seen, that each step from one to the next is allowed, and that
a terminal state once reported is reported for ever. No transfer is refused for a step that is not
allowed, nor for anything else that is wrong with its input. -/
theorem legal_reported (h : History ledger first reports last) :
    (∀ family tx, TransferState.Legal (reported family tx reports)) ∧
      ∀ r ∈ reports, ∀ cause, r.result ≠ .error (.input cause) :=
  ⟨fun family tx => (h.behind family tx).legal, h.not_input⟩

/-- A refund that is not taken, the same refund when it is, and a claim on that withdrawal when it
has been completed by someone else. -/
theorem legal_reported_of_refund_and_claim :
    let tx : TransferId := ⟨List.replicate 32 0xaa, rfl⟩
    let ledger := Ledger.growing (fun _ => true) 8
    let w : World Ledger := .initial (Ledger.empty.apply (.failSubmissions (some "down")))
    let reports : List Report :=
      [⟨.refundWithdraw tx, .error (.submit (.outage "down"))⟩,
        ⟨.refundWithdraw tx, .ok ⟨false, .submitted, some Ledger.refundReceipt⟩⟩,
        ⟨.invalidWithdraw "signed" tx, .ok ⟨true, .refunded, none⟩⟩]
    (∃ last, History ledger w reports last) ∧
      reported .claim tx reports = [.submitted, .refunded] ∧
      TransferState.Legal (reported .claim tx reports) := by
  intro tx ledger w reports
  let d : Deployment Ledger := ⟨Ledger.answer, fun _ => true, 8⟩
  let refund : Transfer := .refundWithdraw tx
  let claim : Transfer := .invalidWithdraw "signed" tx
  -- the world behind each refund, changed by someone else
  let w₁ := (refund.process.run.complete d w).2
  let w₂ : World Ledger := { w₁ with chain := w₁.chain.apply (.failSubmissions none) }
  let w₃ := (refund.process.run.complete d w₂).2
  let w₄ : World Ledger := { w₃ with chain := w₃.chain.apply (.complete [tx]) }
  have refused : History ledger w _ w₁ := .process .start refund
  have restored : History ledger w _ w₂ := .outside refused fun _ h => h
  have taken : History ledger w _ w₃ := .process restored refund
  have completed : History ledger w _ w₄ :=
    .outside taken fun _ h => Ledger.completed_mark h [tx]
  have history : History ledger w reports _ := .process completed claim
  exact ⟨⟨_, history⟩, rfl, (legal_reported history).1 .claim tx⟩

end History

end TransferRelay

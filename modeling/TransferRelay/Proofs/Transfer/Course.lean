import TransferRelay.Proofs.Chain.Running
import TransferRelay.Transfer.Process

/-!
# The course of a transfer

`Transfer.process` asks the ledger and then, at most once, submits. `process_run` writes that out:
one read, and behind each of its answers what is left to do (`afterRead`). Everything else about
transfers is read off this form.

`Course` lists the courses that a transfer can take on a chain in a given state, with the calls that
the chain sees; `process_course` says that processing takes one of them.
-/

namespace TransferRelay

variable {σ : Type}

namespace Transfer

/-- The call that submits a transfer, with what the client gave. -/
def submission : Transfer → Call
  | .invalidWithdraw signature tx => .sendInvalidWithdraw signature tx
  | .smallTransfer signature rawTx _ => .submitSmallTransfer signature rawTx
  | .recharge tx data => .submitRecharge tx data
  | .refundWithdraw tx => .submitRefund tx

/-- What the answer to the submission tells of the transaction that was sent: its hash for a
recharge or a refund, nothing for the transfers that the node signs itself. -/
def receipt : (t : Transfer) → t.submission.Answer → Except SubmitFault (Option TransferId)
  | .invalidWithdraw _ _, answer => Except.map (fun _ => none) answer
  | .smallTransfer _ _ _, answer => Except.map (fun _ => none) answer
  | .recharge _ _, answer => Except.map some answer
  | .refundWithdraw _, answer => Except.map some answer

/-- The notices that go out when a transfer is found complete. -/
def notified : Transfer → List TransferId
  | .smallTransfer _ _ tx => [tx]
  | _ => []

/-- The state that a completed transfer is in. -/
def finalState : Transfer → TransferState
  | .invalidWithdraw _ _ | .refundWithdraw _ => .refunded
  | .smallTransfer _ _ _ | .recharge _ _ => .completed

theorem completedState_kind (t : Transfer) : t.kind.completedState = t.finalState := by
  cases t <;> rfl

/-- A submission fails exactly when there is no receipt. -/
theorem failed_submission (t : Transfer) (answer : t.submission.Answer) :
    t.submission.failed answer = true ↔ ∃ cause, t.receipt answer = .error cause := by
  cases t <;> rcases answer with cause | result <;>
    simp [submission, receipt, Call.failed, Except.map]

/-- A receipt has a hash for the transfers that are signed here, and for no others. -/
theorem isSome_of_receipt (t : Transfer) {answer : t.submission.Answer}
    {sent : Option TransferId} (h : t.receipt answer = .ok sent) :
    sent.isSome = true ↔ t.kind = .recharge ∨ t.kind = .refundWithdraw := by
  cases t <;> rcases answer with cause | result <;> cases h <;> simp [kind]

/-! ## Processing, written out -/

/-- What is left of a transfer when its submission has been answered. -/
def afterSubmission (t : Transfer) :
    Except SubmitFault (Option TransferId) → Plan (Except Fault TransferOutcome)
  | .error cause => .done (.error (.submit cause))
  | .ok sent => .count .transfers (.submission t.kind) (.done (.ok ⟨false, .submitted, sent⟩))

/-- What is left of a transfer that is complete. -/
def afterCompletion (t : Transfer) : Plan (Except Fault TransferOutcome) :=
  .count .transfers (.alreadyCompleted t.kind)
    (t.notified.foldr .notify (.done (.ok ⟨true, t.finalState, none⟩)))

/-- What is left of a transfer when the ledger has been read. -/
def afterRead (t : Transfer) :
    (Call.isCompleted t.tx).Answer → Plan (Except Fault TransferOutcome)
  | .error cause => .count .ledger .queryFailure (.done (.error (.read cause)))
  | .ok true => t.afterCompletion
  | .ok false => .call t.submission fun answer => t.afterSubmission (t.receipt answer)

theorem process_run (t : Transfer) : t.process.run = .call (.isCompleted t.tx) t.afterRead := by
  refine congrArg (Plan.call _) (funext fun read => ?_)
  rcases read with cause | flag
  · rfl
  · cases flag with
    | true => cases t <;> rfl
    | false =>
      -- the submissions differ in the type of their answer, so each is looked at by itself
      cases t <;> refine congrArg (Plan.call _) (funext fun answer => ?_) <;> cases answer <;> rfl

/-- A property of plans that passes along calls, notices and what is counted of transfers holds of
processing. -/
theorem process_of_passes {P : Plan (Except Fault TransferOutcome) → Prop}
    (done : ∀ r, P (.done r))
    (call : ∀ {c : Call} {next : c.Answer → Plan (Except Fault TransferOutcome)},
      (∀ answer, P (next answer)) → P (.call c next))
    (count : ∀ {component : Component} {series : Series} {next},
      (∀ name outcome, series ≠ .request name outcome) → P next →
        P (.count component series next))
    (notify : ∀ {tx : TransferId} {next}, P next → P (.notify tx next)) (t : Transfer) :
    P t.process.run := by
  rw [process_run]
  refine call fun read => ?_
  rcases read with cause | flag
  · exact count nofun (done _)
  · cases flag with
    | true =>
      refine count nofun ?_
      cases t with
      | smallTransfer signature rawTx tx => exact notify (done _)
      | _ => exact done _
    | false =>
      refine call fun answer => ?_
      cases t.receipt answer with
      | error cause => exact done _
      | ok sent => exact count nofun (done _)

end Transfer

/-! ## What is left keeps stable invariants -/

namespace Deployment.Stable

variable {d : Deployment σ} {I : World σ → Prop}

theorem keeps_afterSubmission (stable : d.Stable I) (t : Transfer)
    (receipt : Except SubmitFault (Option TransferId)) : (t.afterSubmission receipt).Keeps d I := by
  cases receipt with
  | error cause => exact .done _
  | ok sent => exact stable.count (.done _)

theorem keeps_afterCompletion (stable : d.Stable I) (t : Transfer) :
    t.afterCompletion.Keeps d I := by
  refine stable.count ?_
  cases t with
  | smallTransfer signature rawTx tx => exact stable.notify (.done _)
  | _ => exact .done _

end Deployment.Stable

/-! ## Courses -/

/-- The notices of a complete transfer as the chain sees them. -/
def Transfer.noticeEvents (d : Deployment σ) (t : Transfer) (chain : σ) : List Event :=
  t.notified.map fun tx =>
    ⟨.notifyAccepted tx, Call.failed _ (d.answer (.notifyAccepted tx) chain).1⟩

/-- The courses of a transfer on a chain in a given state: the calls that the chain sees, in order,
and the outcome. -/
inductive Course (d : Deployment σ) (t : Transfer) (chain : σ) :
    List Event → Except Fault TransferOutcome → Prop
  /-- The ledger cannot be read, and nothing is submitted. -/
  | unread {cause : ReadFault} {after : σ}
      (read : d.answer (.isCompleted t.tx) chain = (.error cause, after)) :
      Course d t chain [⟨.isCompleted t.tx, true⟩] (.error (.read cause))
  /-- The transfer is complete, and nothing is submitted. -/
  | completed {after : σ} (read : d.answer (.isCompleted t.tx) chain = (.ok true, after)) :
      Course d t chain (⟨.isCompleted t.tx, false⟩ :: t.noticeEvents d after)
        (.ok ⟨true, t.finalState, none⟩)
  /-- The transfer is submitted, and the submission fails. -/
  | refused {after : σ} {cause : SubmitFault}
      (read : d.answer (.isCompleted t.tx) chain = (.ok false, after))
      (receipt : t.receipt (d.answer t.submission after).1 = .error cause) :
      Course d t chain [⟨.isCompleted t.tx, false⟩, ⟨t.submission, true⟩] (.error (.submit cause))
  /-- The transfer is submitted. -/
  | submitted {after : σ} {sent : Option TransferId}
      (read : d.answer (.isCompleted t.tx) chain = (.ok false, after))
      (receipt : t.receipt (d.answer t.submission after).1 = .ok sent) :
      Course d t chain [⟨.isCompleted t.tx, false⟩, ⟨t.submission, false⟩]
        (.ok ⟨false, .submitted, sent⟩)

/-- What an outcome says of a transfer: being complete is being in its terminal state, and only the
transfers that are signed here have the hash of what was sent. -/
structure Tells (t : Transfer) (outcome : TransferOutcome) : Prop where
  terminal : outcome.alreadyCompleted = true ↔ outcome.state.isTerminal = true
  completed : outcome.alreadyCompleted = true → outcome.state = t.kind.completedState
  submitted : outcome.alreadyCompleted = false → outcome.state = .submitted
  sent : outcome.submittedTx.isSome = true ↔
    outcome.alreadyCompleted = false ∧ (t.kind = .recharge ∨ t.kind = .refundWithdraw)

theorem tells_of_course {d : Deployment σ} {t : Transfer} {chain : σ} {events : List Event}
    {outcome : TransferOutcome} (h : Course d t chain events (.ok outcome)) : Tells t outcome := by
  cases h with
  | completed read =>
    have hterminal : t.finalState.isTerminal = true := by cases t <;> rfl
    exact ⟨by simp [hterminal], fun _ => t.completedState_kind.symm, nofun, by simp⟩
  | submitted read receipt =>
    have hsent := t.isSome_of_receipt receipt
    exact ⟨by simp [TransferState.isTerminal], nofun, fun _ => rfl, by simpa using hsent⟩

section Completing

variable (d : Deployment σ) (t : Transfer) (chain : σ) (metrics : Metrics) (log : List Event)

/-- A transfer found complete sends its notices and ends. -/
theorem complete_afterCompletion :
    (t.afterCompletion.complete d ⟨chain, metrics, log, []⟩).1 =
        .ok ⟨true, t.finalState, none⟩ ∧
      (t.afterCompletion.complete d ⟨chain, metrics, log, []⟩).2.log =
        t.noticeEvents d chain ++ log := by
  rw [Transfer.afterCompletion, Plan.complete_count, Plan.complete_foldr_notify,
    Deployment.log_tally]
  cases t <;> exact ⟨rfl, rfl⟩

/-- A transfer that has been submitted calls the chain no more. -/
theorem log_afterSubmission (receipt : Except SubmitFault (Option TransferId)) :
    ((t.afterSubmission receipt).complete d ⟨chain, metrics, log, []⟩).2.log = log := by
  cases receipt with
  | error cause => rfl
  | ok sent =>
    rw [Transfer.afterSubmission, Plan.complete_count, Deployment.log_tally]
    rfl

/-- Processing a transfer takes one of its courses. -/
theorem process_course :
    ∃ events, Course d t chain events (t.process.run.complete d ⟨chain, metrics, log, []⟩).1 ∧
      (t.process.run.complete d ⟨chain, metrics, log, []⟩).2.log = events.reverse ++ log := by
  rw [Transfer.process_run, Plan.complete_call]
  rcases hread : d.answer (.isCompleted t.tx) chain with ⟨read, after⟩
  have hperform : d.perform (.isCompleted t.tx) ⟨chain, metrics, log, []⟩ =
      (read, ⟨after, metrics, ⟨.isCompleted t.tx, Call.failed _ read⟩ :: log, []⟩) := by
    rw [Deployment.perform, hread]
  rw [hperform]
  -- the answer to the read decides what is left to do
  rcases read with cause | flag
  · refine ⟨_, .unread hread, ?_⟩
    show ((Plan.count _ _ (.done _)).complete d _).2.log = _
    rw [Plan.complete_count, Deployment.log_tally]
    rfl
  · cases flag with
    | true =>
      obtain ⟨houtcome, hlog⟩ := complete_afterCompletion d t after metrics
        (⟨.isCompleted t.tx, false⟩ :: log)
      refine ⟨⟨.isCompleted t.tx, false⟩ :: t.noticeEvents d after, ?_, hlog.trans ?_⟩
      · show Course d t chain _ (t.afterCompletion.complete d
          ⟨after, metrics, ⟨.isCompleted t.tx, false⟩ :: log, []⟩).1
        rw [houtcome]
        exact .completed hread
      · cases t <;> rfl
    | false =>
      have hlog := log_afterSubmission d t (d.answer t.submission after).2 metrics
        (⟨t.submission, Call.failed _ (d.answer t.submission after).1⟩ ::
          ⟨.isCompleted t.tx, false⟩ :: log) (t.receipt (d.answer t.submission after).1)
      -- whether the submission failed is seen by the chain and by the client alike
      have hfailed := t.failed_submission (d.answer t.submission after).1
      refine ⟨[⟨.isCompleted t.tx, false⟩,
        ⟨t.submission, Call.failed _ (d.answer t.submission after).1⟩], ?_, hlog⟩
      show Course d t chain _
        ((t.afterSubmission (t.receipt (d.answer t.submission after).1)).complete d _).1
      rcases hreceipt : t.receipt (d.answer t.submission after).1 with cause | sent
      · rw [hfailed.mpr ⟨cause, hreceipt⟩]
        exact .refused hread hreceipt
      · have hok : t.submission.failed (d.answer t.submission after).1 = false := by
          rw [Bool.eq_false_iff, Ne, hfailed, hreceipt]
          rintro ⟨cause, h⟩
          cases h
        rw [hok]
        exact .submitted hread hreceipt

end Completing

end TransferRelay

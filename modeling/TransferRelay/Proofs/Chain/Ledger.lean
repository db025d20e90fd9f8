import TransferRelay.Chain.Ledger

/-!
# Completions on a chain in memory

The ledger is read as it stands (`completed_of_answer`), and no call takes a completion back
(`completed_answer`).
-/

namespace TransferRelay.Ledger

/-- A service over a chain in memory. -/
abbrev service (counts : Component → Bool) (window : Nat) : Deployment Ledger :=
  ⟨answer, counts, window⟩

theorem completed_mark_self (l : Ledger) (tx : TransferId) :
    (l.mark true [tx]).completed tx = true :=
  update_self _ _ _

theorem completed_mark_other (l : Ledger) {key tx : TransferId} (h : tx ≠ key) :
    (l.mark true [key]).completed tx = l.completed tx :=
  update_other _ _ h

theorem mark_append (l : Ledger) (flag : Bool) (txs more : List TransferId) :
    l.mark flag (txs ++ more) = (l.mark flag txs).mark flag more := by
  simp only [mark, List.foldl_append]

/-- What is complete when more is completed. -/
theorem completed_mark_eq (l : Ledger) (txs : List TransferId) (tx : TransferId) :
    (l.mark true txs).completed tx = (l.completed tx || decide (tx ∈ txs)) := by
  induction txs generalizing l with
  | nil => simp [mark]
  | cons key txs ih =>
    show ((l.mark true [key]).mark true txs).completed tx = _
    rw [ih]
    by_cases h : tx = key
    · subst h
      simp [completed_mark_self]
    · simp [completed_mark_other l h, h]

/-- What is complete stays so when more is completed. -/
theorem completed_mark {l : Ledger} {tx : TransferId} (h : l.completed tx = true)
    (txs : List TransferId) : (l.mark true txs).completed tx = true := by
  rw [completed_mark_eq, h, Bool.true_or]

/-- Completing some transfers and then others is completing them the other way round. -/
theorem mark_comm (l : Ledger) (txs more : List TransferId) :
    (l.mark true txs).mark true more = (l.mark true more).mark true txs := by
  have hsame : ((l.mark true txs).mark true more).completed =
      ((l.mark true more).mark true txs).completed := by
    funext tx
    simp only [completed_mark_eq, Bool.or_right_comm]
  exact congrArg (fun table => { l with completed := table }) hsame

/-- A notice leaves the chain as it is, taken or not. -/
theorem answer_notifyAccepted (tx : TransferId) (l : Ledger) :
    (answer (.notifyAccepted tx) l).2 = l := by
  simp only [answer]
  split <;> rfl

/-- A read that succeeds has looked at the table. -/
theorem completed_of_answer {l : Ledger} {tx : TransferId} {flag : Bool}
    (h : (answer (.isCompleted tx) l).1 = .ok flag) : l.completed tx = flag := by
  have h : l.read tx (.ok (l.completed tx)) = .ok flag := h
  unfold read at h
  split at h
  · cases h
  · exact Except.ok.inj h

theorem completed_submit {α : Type} {l : Ledger} {tx : TransferId} (h : l.completed tx = true)
    (key : TransferId) (value : α) : (l.submit key value).2.completed tx = true := by
  unfold submit
  split
  · exact h
  · by_cases hauto : l.autoComplete = true
    · rw [if_pos hauto]
      exact completed_mark h [key]
    · rw [if_neg hauto]
      exact h

/-- No call takes a completion back. -/
theorem completed_answer {l : Ledger} {tx : TransferId} (h : l.completed tx = true) (c : Call) :
    (answer c l).2.completed tx = true := by
  cases c with
  | sendInvalidWithdraw signature key => exact completed_submit h key _
  | submitRecharge key data => exact completed_submit h key _
  | submitRefund key => exact completed_submit h key _
  | submitSmallTransfer signature rawTx =>
    simp only [answer]
    split <;> exact h
  | notifyAccepted key =>
    simp only [answer]
    split <;> exact h
  | _ => exact h

end TransferRelay.Ledger

import TransferRelay.Proofs.Chain.Ledger
import TransferRelay.Proofs.Session.Keeping
import TransferRelay.Proofs.Transfer.Course
import TransferRelay.Session.Basic

/-!
# Submissions over a session

On a chain that completes what is submitted to it, a transfer is submitted once at most, whatever
the operations of the session are and however they spell its identifier.

The chain has *room* for one submission under an identifier until it has the identifier complete,
and no room afterwards. What is submitted takes up the room: `Within tx n w` bounds what the log has
and the room that is left together. Processing keeps this bound (`keeps_process`), so every
operation does, and a step of a session passes on the room that it does not use (`step_room`).
-/

namespace TransferRelay

/-! ## Room for submissions -/

/-- Whether a call is a submission under an identifier. A small transfer is submitted under none. -/
def Call.carries (tx : TransferId) : Call → Bool
  | .sendInvalidWithdraw _ key => key = tx
  | .submitRecharge key _ => key = tx
  | .submitRefund key => key = tx
  | _ => false

/-- Whether an event is a submission under an identifier that the chain has taken. -/
def Event.submits (tx : TransferId) (e : Event) : Bool :=
  !e.failed && e.call.carries tx

theorem Event.submits_of_not_carries {tx : TransferId} {c : Call} (h : c.carries tx = false)
    (failed : Bool) : Event.submits tx ⟨c, failed⟩ = false := by
  rw [Event.submits, h, Bool.and_false]

namespace Ledger

/-- The number of submissions under an identifier that a chain has room for. -/
def room (tx : TransferId) (l : Ledger) : Nat :=
  if l.completed tx then 0 else 1

theorem room_le_of_completed {l l' : Ledger} {tx : TransferId}
    (h : l.completed tx = true → l'.completed tx = true) : l'.room tx ≤ l.room tx := by
  unfold room
  by_cases hl : l.completed tx = true
  · rw [if_pos (h hl)]
    exact Nat.zero_le _
  · rw [if_neg hl]
    split <;> decide

/-- What submitting does to a chain that completes what is submitted: nothing, if the submission
fails or is under no identifier, and otherwise it completes the transfer. -/
theorem answer_submission (t : Transfer) {l : Ledger} (auto : l.autoComplete = true) :
    ((answer t.submission l).2 = l ∧
        (t.submission.failed (answer t.submission l).1 = true ∨
          ∀ tx, t.submission.carries tx = false)) ∨
      ((answer t.submission l).2 = l.mark true [t.tx] ∧
        t.submission.failed (answer t.submission l).1 = false ∧
        ∀ tx, t.submission.carries tx = decide (t.tx = tx)) := by
  cases hout : l.submitOutage with
  | some reason =>
    left
    cases t <;>
      simp [Transfer.submission, answer, submit, hout, Call.failed]
  | none =>
    cases t with
    | smallTransfer signature rawTx key =>
      left
      simp [Transfer.submission, answer, hout, Call.carries]
    | _ =>
      right
      refine ⟨?_, ?_, fun tx => rfl⟩ <;>
        simp [Transfer.submission, Transfer.tx, answer, submit, hout, auto, Call.failed]

end Ledger

/-! ## Within the room -/

/-- The chain completes what is submitted, and the submissions made and the room left are at most
`n`. -/
structure Within (tx : TransferId) (n : Nat) (w : World Ledger) : Prop where
  auto : w.chain.autoComplete = true
  bound : w.log.countP (Event.submits tx) + w.chain.room tx ≤ n

namespace Within

variable {tx : TransferId} {n : Nat} {w w' : World Ledger}

/-- An event that takes no room leaves the bound as it is. -/
theorem of_event (h : Within tx n w) {e : Event} (he : e.submits tx = false)
    (hchain : w'.chain = w.chain) (hlog : w'.log = e :: w.log) : Within tx n w' := by
  refine ⟨hchain ▸ h.auto, ?_⟩
  rw [hchain, hlog, List.countP_cons_of_neg (by rw [he]; exact Bool.false_ne_true)]
  exact h.bound

/-- A submission that is taken completes its transfer, for which there was room. -/
theorem of_taken (h : Within tx n w) {c : Call} {key : TransferId}
    (hc : c.carries tx = decide (key = tx)) (hkey : w.chain.completed key = false)
    (hchain : w'.chain = w.chain.mark true [key]) (hlog : w'.log = ⟨c, false⟩ :: w.log) :
    Within tx n w' := by
  refine ⟨hchain ▸ h.auto, ?_⟩
  have hbound := h.bound
  have hsubmits : Event.submits tx ⟨c, false⟩ = decide (key = tx) := hc
  rw [hchain, hlog, List.countP_cons, hsubmits]
  unfold Ledger.room at hbound ⊢
  by_cases heq : key = tx
  · -- the submission takes up the room that there was
    subst heq
    rw [hkey] at hbound
    rw [Ledger.completed_mark_self]
    simpa using hbound
  · rw [Ledger.completed_mark_other _ (Ne.symm heq)]
    simpa [heq] using hbound

end Within

namespace Session

variable (counting : Counting) (window : Nat) {tx : TransferId} {n : Nat}

theorem stable_within : (deployment counting window).Stable (Within tx n) where
  read c w hc h := by
    cases c with
    | isCompleted key => exact h.of_event (Event.submits_of_not_carries rfl _) rfl rfl
    | rechargeData key => exact h.of_event (Event.submits_of_not_carries rfl _) rfl rfl
    | withdrawData key => exact h.of_event (Event.submits_of_not_carries rfl _) rfl rfl
    | _ => cases hc
  tally component series w h := by
    constructor
    · rw [Deployment.chain_tally]
      exact h.auto
    · rw [Deployment.chain_tally, Deployment.log_tally]
      exact h.bound
  note txs w h := ⟨h.auto, h.bound⟩
  notice key w h := by
    have hchain : (Ledger.answer (.notifyAccepted key) w.chain).2 = w.chain := by
      simp only [Ledger.answer]
      split <;> rfl
    exact h.of_event (Event.submits_of_not_carries rfl _) hchain rfl

/-- A submission under an identifier that the chain does not have complete keeps within the room. -/
theorem within_submission (t : Transfer) {w : World Ledger} (h : Within tx n w)
    (hopen : w.chain.completed t.tx = false) :
    Within tx n ((deployment counting window).perform t.submission w).2 := by
  rcases Ledger.answer_submission t h.auto with ⟨hchain, hnone⟩ | ⟨hchain, htaken, hcarries⟩
  · refine h.of_event ?_ hchain rfl
    rcases hnone with hfailed | hcarries
    · show (!t.submission.failed (Ledger.answer t.submission w.chain).1 && _) = false
      rw [hfailed]
      rfl
    · exact Event.submits_of_not_carries (hcarries tx) _
  · refine h.of_taken (hcarries tx) hopen hchain ?_
    show ⟨t.submission, t.submission.failed (Ledger.answer t.submission w.chain).1⟩ :: w.log = _
    rw [htaken]

/-- Processing keeps within the room: what is submitted was found incomplete just before. -/
theorem keeps_process (t : Transfer) :
    t.process.run.Keeps (deployment counting window) (Within tx n) := by
  have stable : (deployment counting window).Stable (Within tx n) := stable_within counting window
  intro w h
  have hread := stable.read (.isCompleted t.tx) w rfl h
  rw [Transfer.process_run]
  show Within tx n ((t.afterRead ((deployment counting window).perform (.isCompleted t.tx) w).1).run
    (deployment counting window) ((deployment counting window).perform (.isCompleted t.tx) w).2).2
  rcases hanswer : ((deployment counting window).perform (.isCompleted t.tx) w).1 with cause | flag
  · -- a failed read ends the transfer
    exact stable.count (.done _) _ hread
  · cases flag with
    | true => exact stable.keeps_afterCompletion t _ hread
    | false =>
      have hopen : w.chain.completed t.tx = false := Ledger.completed_of_answer hanswer
      have hsubmit := within_submission counting window t hread hopen
      exact stable.keeps_afterSubmission t _ _ hsubmit

/-! ## Sessions -/

/-- A step after which the chain still completes what is submitted, and which takes back no
completion and runs no operations at once. -/
def Step.Steady : Step → Prop
  | .change (.uncomplete _) => False
  | .change (.autoComplete on) => on = true
  | .change _ => True
  | .operation op => op.isAlone = true

/-- The number of submissions under an identifier that the chain has taken. -/
def submitted (tx : TransferId) (answers : List Answer) : Nat :=
  (answers.flatMap Answer.log).countP (Event.submits tx)

theorem submitted_cons (tx : TransferId) (a : Answer) (rest : List Answer) :
    submitted tx (a :: rest) = a.log.countP (Event.submits tx) + submitted tx rest := by
  rw [submitted, List.flatMap_cons, List.countP_append]
  rfl

/-- A change in a steady session makes no room. -/
theorem room_apply_le {c : Ledger.Change} (steady : Step.Steady (.change c)) (l : Ledger) :
    (l.apply c).room tx ≤ l.room tx := by
  cases c with
  | complete txs => exact Ledger.room_le_of_completed fun h => Ledger.completed_mark h txs
  | uncomplete txs => cases steady
  | _ => exact Nat.le_refl _

theorem autoComplete_apply {c : Ledger.Change} (steady : Step.Steady (.change c)) {l : Ledger}
    (auto : l.autoComplete = true) : (l.apply c).autoComplete = true := by
  cases c with
  | autoComplete on => exact steady
  | _ => exact auto

/-- A step passes on the room that it does not use. -/
theorem step_room {s : Step} (steady : s.Steady) {w : World Ledger}
    (auto : w.chain.autoComplete = true) (tx : TransferId) :
    (s.run (deployment counting window) w).2.chain.autoComplete = true ∧
      (s.run (deployment counting window) w).1.log.countP (Event.submits tx) +
        (s.run (deployment counting window) w).2.chain.room tx ≤ w.chain.room tx := by
  cases s with
  | change c =>
    refine ⟨autoComplete_apply steady auto, ?_⟩
    show 0 + (w.chain.apply c).room tx ≤ w.chain.room tx
    rw [Nat.zero_add]
    exact room_apply_le steady _
  | operation op =>
    -- the log of a step begins empty, so all the room of the chain is there for it
    have hstart : Within tx (w.chain.room tx) { w with log := [] } :=
      ⟨auto, Nat.le_of_eq (Nat.zero_add _)⟩
    have hend := (stable_within counting window).operation (keeps_process counting window) steady
      hstart
    refine ⟨hend.auto, ?_⟩
    show List.countP _ (List.reverse _) + _ ≤ _
    rw [List.countP_reverse]
    exact hend.bound

/-- A session uses no more than the room there is. -/
theorem run_room {steps : List Step} (steady : ∀ s ∈ steps, s.Steady) {w : World Ledger}
    (auto : w.chain.autoComplete = true) (tx : TransferId) :
    (run (deployment counting window) steps w).2.chain.autoComplete = true ∧
      submitted tx (run (deployment counting window) steps w).1 +
        (run (deployment counting window) steps w).2.chain.room tx ≤ w.chain.room tx := by
  induction steps generalizing w with
  | nil => exact ⟨auto, Nat.le_of_eq (Nat.zero_add _)⟩
  | cons s rest ih =>
    obtain ⟨hauto, hstep⟩ := step_room counting window (steady s List.mem_cons_self) auto tx
    obtain ⟨hend, hrest⟩ := ih (fun s hs => steady s (List.mem_cons_of_mem _ hs)) hauto
    refine ⟨hend, ?_⟩
    show submitted tx (_ :: _) + _ ≤ _
    rw [submitted_cons]
    calc
      _ ≤ (s.run (deployment counting window) w).1.log.countP (Event.submits tx) +
          (s.run (deployment counting window) w).2.chain.room tx := by
        rw [Nat.add_assoc]
        exact Nat.add_le_add_left hrest _
      _ ≤ w.chain.room tx := hstep

/-- What a session answers after some steps is what a session from there answers. -/
theorem run_drop (d : Deployment Ledger) (steps : List Step) (w : World Ledger) (k : Nat) :
    (run d steps w).1.drop k = (run d (steps.drop k) (run d (steps.take k) w).2).1 := by
  induction k generalizing steps w with
  | zero => rfl
  | succ k ih =>
    cases steps with
    | nil => rfl
    | cons s rest => exact ih rest _

/-- **A transfer is submitted once at most.** On a chain that completes what is submitted and takes
no completion back, at most one submission under an identifier is taken over a session of operations
that run alone, and none once the chain has the identifier complete. -/
theorem submitted_le_one {w : World Ledger} (auto : w.chain.autoComplete = true)
    {steps : List Step} (steady : ∀ s ∈ steps, s.Steady) (tx : TransferId) :
    submitted tx (run (deployment counting window) steps w).1 ≤ 1 ∧
      ∀ k, (run (deployment counting window) (steps.take k) w).2.chain.completed tx = true →
        submitted tx ((run (deployment counting window) steps w).1.drop k) = 0 := by
  constructor
  · have hroom : w.chain.room tx ≤ 1 := by
      unfold Ledger.room
      split <;> decide
    have hrun := (run_room counting window steady auto tx).2
    omega
  · intro k hcompleted
    have hbefore : ∀ s ∈ steps.take k, s.Steady := fun s hs => steady s (List.mem_of_mem_take hs)
    have hafter : ∀ s ∈ steps.drop k, s.Steady := fun s hs => steady s (List.mem_of_mem_drop hs)
    obtain ⟨hauto, -⟩ := run_room counting window hbefore auto tx
    have hrest := (run_room counting window hafter hauto tx).2
    -- the chain has no room from here on
    have hfull : (run (deployment counting window) (steps.take k) w).2.chain.room tx = 0 := by
      rw [Ledger.room, if_pos hcompleted]
    rw [run_drop]
    omega

/-- A refund in an outage, then the refund once more, then a claim on the same withdrawal. -/
theorem submitted_le_one_behind_outage :
    let tx : TransferId := ⟨List.replicate 32 0xaa, rfl⟩
    let w : World Ledger := .initial (Ledger.empty.apply (.autoComplete true))
    let steps : List Step := [.change (.failSubmissions (some "down")),
      .operation (.process (.refundWithdraw tx)), .change (.failSubmissions none),
      .operation (.process (.refundWithdraw tx)),
      .operation (.process (.invalidWithdraw "signature" tx))]
    let answers := (run (deployment ⟨true, true, true⟩ 8) steps w).1
    submitted tx answers = 1 ∧ submitted tx answers ≤ 1 ∧
      ∀ k, (run (deployment ⟨true, true, true⟩ 8) (steps.take k) w).2.chain.completed tx = true →
        submitted tx (answers.drop k) = 0 := by
  intro tx w steps answers
  have steady : ∀ s ∈ steps, s.Steady := by
    simp [steps, Step.Steady, Operation.isAlone]
  exact ⟨rfl, submitted_le_one ⟨true, true, true⟩ 8 rfl steady tx⟩

end Session

end TransferRelay

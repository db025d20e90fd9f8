import TransferRelay.Proofs.Chain.Interleaving
import TransferRelay.Proofs.Transfer.Course

/-!
# The guard of transfers side by side

Two transfers under one identifier may both be submitted, if both read the ledger before either is
complete. `submits_behind_own_read` says that it gets no worse than that, however transfers go on
side by side: a submission has behind it a read of its own, and no completion stands before that
read.

The invariant is `Standing`: where a transfer is in its plan is known from what it has done.
-/

namespace TransferRelay

variable {ι σ β : Type}

/-! ## Plans that make no calls -/

/-- A plan that makes no calls. -/
inductive Plan.Silent : Plan β → Prop
  | done (a : β) : Silent (.done a)
  | count {component : Component} {series : Series} {next : Plan β} (rest : next.Silent) :
      Silent (.count component series next)
  | notify {tx : TransferId} {next : Plan β} (rest : next.Silent) : Silent (.notify tx next)

theorem Plan.Silent.bind {α : Type} {p : Plan α} {f : α → Plan β} (hp : p.Silent)
    (hf : ∀ a, (f a).Silent) : (p.bind f).Silent := by
  induction hp with
  | done a => exact hf a
  | count rest ih => exact .count ih
  | notify rest ih => exact .notify ih

namespace Transfer

theorem silent_afterSubmission (t : Transfer) (receipt : Except SubmitFault (Option TransferId)) :
    (t.afterSubmission receipt).Silent := by
  cases receipt with
  | error cause => exact .done _
  | ok sent => exact .count (.done _)

theorem silent_afterCompletion (t : Transfer) : t.afterCompletion.Silent := by
  refine .count ?_
  cases t with
  | smallTransfer signature rawTx tx => exact .notify (.done _)
  | _ => exact .done _

/-- A plan that processes a transfer and makes no calls beside. -/
def ServedBy (t : Transfer) (p : Plan β) : Prop :=
  ∃ f : Except Fault TransferOutcome → Plan β, (∀ r, (f r).Silent) ∧ p = t.process.run.bind f

theorem servedBy_process (t : Transfer) : t.ServedBy t.process.run :=
  ⟨.done, .done, (Plan.bind_done _).symm⟩

end Transfer

namespace Interleaving

/-! ## Histories of transfers -/

/-- A history in which every submission of a transfer has its own read behind it. -/
def ReadsFirst (t : Transfer) (i : ι) (ms : List (Moment ι)) : Prop :=
  ∀ before c answer after, ms = before ++ .call i c answer :: after → c.isSubmission = true →
    c = t.submission ∧ .readsOpen i t.tx ∈ before

theorem readsFirst_nil (t : Transfer) (i : ι) : ReadsFirst t i [] := by
  intro before c answer after hsplit
  cases before <;> cases hsplit

theorem readsFirst_snoc {t : Transfer} {i : ι} {ms : List (Moment ι)} (h : ReadsFirst t i ms)
    {m : Moment ι}
    (hm : ∀ c answer, m = .call i c answer → c.isSubmission = true →
      c = t.submission ∧ .readsOpen i t.tx ∈ ms) :
    ReadsFirst t i (ms ++ [m]) := by
  intro before c answer after hsplit hc
  -- a submission is the last moment, or one of those before it
  rcases List.eq_nil_or_concat after with rfl | ⟨rest, last, rfl⟩
  · obtain ⟨rfl, hlast⟩ := List.append_inj' hsplit rfl
    exact hm c answer (List.cons.inj hlast).1 hc
  · have hsplit : ms ++ [m] = (before ++ .call i c answer :: rest) ++ [last] := by
      rw [hsplit, List.concat_eq_append, List.append_assoc, List.cons_append]
    exact h before c answer rest (List.append_inj' hsplit rfl).1 hc

variable [DecidableEq ι] {d : Deployment σ} {ledger : GrowingLedger d}

/-! ## Where a transfer stands -/

/-- What is left of a transfer after what has happened. -/
inductive Standing (t : Transfer) (i : ι) (ms : List (Moment ι)) : Plan β → Prop
  /-- It has not begun. -/
  | fresh {f : Except Fault TransferOutcome → Plan β} (silent : ∀ r, (f r).Silent)
      (unsubmitted : ms.countP (Moment.submits i) = 0) :
      Standing t i ms (.call (.isCompleted t.tx) fun read => (t.afterRead read).bind f)
  /-- It has read that it is not complete, and is about to be submitted. -/
  | cleared {f : Except Fault TransferOutcome → Plan β} (silent : ∀ r, (f r).Silent)
      (unsubmitted : ms.countP (Moment.submits i) = 0) (read : .readsOpen i t.tx ∈ ms) :
      Standing t i ms
        (.call t.submission fun answer => (t.afterSubmission (t.receipt answer)).bind f)
  /-- It makes no more calls. -/
  | ended {p : Plan β} (silent : p.Silent) (once : ms.countP (Moment.submits i) ≤ 1) :
      Standing t i ms p

theorem standing_of_servedBy {t : Transfer} {p : Plan β} (h : t.ServedBy p) (i : ι) :
    Standing t i [] p := by
  obtain ⟨f, hf, rfl⟩ := h
  rw [Transfer.process_run]
  exact .fresh hf rfl

theorem countP_snoc (i : ι) (ms : List (Moment ι)) (m : Moment ι) :
    (ms ++ [m]).countP (Moment.submits i) =
      ms.countP (Moment.submits i) + if m.submits i then 1 else 0 := by
  rw [List.countP_append, List.countP_singleton]

namespace Standing

variable {t : Transfer} {i : ι} {ms : List (Moment ι)} {p : Plan β}

theorem once (h : Standing t i ms p) : ms.countP (Moment.submits i) ≤ 1 := by
  cases h with
  | fresh silent unsubmitted => exact unsubmitted ▸ Nat.zero_le 1
  | cleared silent unsubmitted read => exact unsubmitted ▸ Nat.zero_le 1
  | ended silent once => exact once

/-- What happens beside a transfer changes nothing of where it stands. -/
theorem other (h : Standing t i ms p) {m : Moment ι} (hm : m.submits i = false) :
    Standing t i (ms ++ [m]) p := by
  have hcount : (ms ++ [m]).countP (Moment.submits i) = ms.countP (Moment.submits i) := by
    rw [countP_snoc, hm]
    rfl
  cases h with
  | fresh silent unsubmitted => exact .fresh silent (hcount.trans unsubmitted)
  | cleared silent unsubmitted read =>
    exact .cleared silent (hcount.trans unsubmitted) (List.mem_append_left _ read)
  | ended silent once => exact .ended silent (hcount ▸ once)

/-- A transfer about to make a call is about to read, or to be submitted behind its read. -/
theorem call {c : Call} {next : c.Answer → Plan β} (h : Standing t i ms (.call c next))
    (answer : c.Answer) :
    Standing t i (ms ++ [.call i c answer]) (next answer) ∧
      (c.isSubmission = true → c = t.submission ∧ .readsOpen i t.tx ∈ ms) := by
  cases h with
  | @fresh f silent unsubmitted =>
    have hcount : (ms ++ [Moment.call i (.isCompleted t.tx) answer]).countP
        (Moment.submits i) = 0 := by
      rw [countP_snoc, unsubmitted]
      simp [Moment.submits, Call.isSubmission]
    have honce : (ms ++ [Moment.call i (.isCompleted t.tx) answer]).countP
        (Moment.submits i) ≤ 1 := by omega
    refine ⟨?_, nofun⟩
    -- of the answers to the read, only a no leaves a call to be made
    rcases answer with cause | flag
    · exact .ended (.count (silent _)) honce
    · cases flag with
      | true => exact .ended (t.silent_afterCompletion.bind silent) honce
      | false => exact .cleared silent hcount (List.mem_append_right _ List.mem_cons_self)
  | cleared silent unsubmitted read =>
    refine ⟨.ended ((t.silent_afterSubmission _).bind silent) ?_, fun _ => ⟨rfl, read⟩⟩
    rw [countP_snoc, unsubmitted]
    split <;> decide
  | ended silent once => cases silent

/-- A transfer processed reads no batch. -/
theorem not_flags {txs : List TransferId} {next : Except ReadFault (List Bool) → Plan β} :
    ¬ Standing t i ms (.flags txs next) := by
  intro h
  cases h with
  | ended silent once => cases silent

theorem count {component : Component} {series : Series} {next : Plan β}
    (h : Standing t i ms (.count component series next)) : Standing t i ms next := by
  cases h with
  | ended silent once =>
    cases silent with
    | count rest => exact .ended rest once

theorem notify {tx : TransferId} {next : Plan β} (h : Standing t i ms (.notify tx next)) :
    Standing t i ms next := by
  cases h with
  | ended silent once =>
    cases silent with
    | notify rest => exact .ended rest once

end Standing

/-- A plan that has gone on stands where its own history says, and the others where theirs do. -/
theorem standing_advance {t : Transfer} {i j : ι} {ms : List (Moment ι)} {s : Pool ι σ β}
    {m : Moment ι} {p : Plan β} {w : World σ} (h : Standing t i ms (s.plans i))
    (own : j = i → Standing t i (ms ++ [m]) p) (others : j ≠ i → m.submits i = false) :
    Standing t i (ms ++ [m]) ((s.advance j p w).plans i) := by
  by_cases hij : j = i
  · rw [← hij, Pool.plans_advance_self, hij]
    exact own hij
  · rw [Pool.plans_advance_other _ (Ne.symm hij)]
    exact h.other (others hij)

/-- A move leaves each transfer standing where its history says. -/
theorem standing_step {t : Transfer} {i : ι} {ms : List (Moment ι)} {s s' : Pool ι σ β}
    {m : Moment ι} (h : Standing t i ms (s.plans i)) (step : Step ledger s m s') :
    Standing t i (ms ++ [m]) (s'.plans i) := by
  cases step with
  | @call j c next plan =>
    refine standing_advance h (fun hij => ?_) fun hij => ?_
    · subst hij
      rw [plan] at h
      exact (h.call _).1
    · simp [Moment.submits, hij]
  | @batch j txs next plan n =>
    refine standing_advance h (fun hij => ?_) fun _ => rfl
    subst hij
    rw [plan] at h
    exact absurd h Standing.not_flags
  | @count j component series next plan =>
    refine standing_advance h (fun hij => ?_) fun _ => rfl
    subst hij
    rw [plan] at h
    exact h.count.other rfl
  | @notify j tx next plan =>
    refine standing_advance h (fun hij => ?_) fun _ => rfl
    subst hij
    rw [plan] at h
    exact h.notify.other rfl
  | notice pending => exact h.other rfl
  | outside grows => exact h.other rfl

/-- What a run keeps of each plan that serves a transfer. -/
theorem standing_run {t : Transfer} {i : ι} {s₀ s : Pool ι σ β} {ms : List (Moment ι)}
    (serves : t.ServedBy (s₀.plans i)) (run : Run ledger s₀ ms s) :
    Standing t i ms (s.plans i) ∧ ReadsFirst t i ms := by
  induction run with
  | none => exact ⟨standing_of_servedBy serves i, readsFirst_nil t i⟩
  | @next ms m s s' run step ih =>
    obtain ⟨hstanding, hreads⟩ := ih
    refine ⟨standing_step hstanding step, readsFirst_snoc hreads ?_⟩
    rintro c answer rfl hc
    cases step with
    | call plan =>
      rw [plan] at hstanding
      exact (hstanding.call (d.perform c s.world).1).2 hc

section Completed

variable {t : Transfer} {i : ι} {ms₁ ms₂ : List (Moment ι)} {s₁ s₂ : Pool ι σ β}

/-- Behind a submission there is a read of the ledger as it was before any completion. -/
theorem readsOpen_of_completed (reads : ReadsFirst t i (ms₁ ++ ms₂))
    (run : Run ledger s₁ ms₂ s₂) (completed : ledger.completed s₁.world.chain t.tx = true)
    {m : Moment ι} (hm : m ∈ ms₂) (submits : m.submits i = true) : .readsOpen i t.tx ∈ ms₁ := by
  obtain ⟨c, answer, rfl, hc⟩ := Moment.exists_call_of_submits submits
  obtain ⟨before, after, rfl⟩ := List.append_of_mem hm
  have hread := (reads (ms₁ ++ before) c answer after (List.append_assoc ..).symm hc).2
  rcases List.mem_append.mp hread with hread | hread
  · exact hread
  · -- from the completion on, no read answers no
    exact absurd (List.mem_append_left _ hread) ((completed_run run completed).2 i)

/-- A transfer that begins when its identifier is complete is not submitted. -/
theorem not_submits_of_late (reads : ReadsFirst t i (ms₁ ++ ms₂))
    (run : Run ledger s₁ ms₂ s₂) (late : ∀ m ∈ ms₁, m.isOf i = false)
    (completed : ledger.completed s₁.world.chain t.tx = true) :
    ∀ m ∈ ms₁ ++ ms₂, m.submits i = false := by
  intro m hm
  rw [Bool.eq_false_iff]
  intro hsubmits
  rcases List.mem_append.mp hm with hm | hm
  · exact absurd (Moment.isOf_of_submits hsubmits) (Bool.eq_false_iff.mp (late m hm))
  · have hread := readsOpen_of_completed reads run completed hm hsubmits
    exact absurd (Moment.isOf_readsOpen i _) (Bool.eq_false_iff.mp (late _ hread))

end Completed

/-! ## The guard -/

/-- A transfer ends before another begins: no moment of the second is before one of the first. -/
def Before (i j : ι) (ms : List (Moment ι)) : Prop :=
  ms.Pairwise fun x y => ¬ (x.isOf j = true ∧ y.isOf i = true)

/-- Transfers that have not begun. -/
def start (requests : ι → Transfer) (w : World σ) :
    Pool ι σ (Except Fault TransferOutcome) :=
  ⟨fun i => (requests i).process.run, w⟩

/-- **The guard under any interleaving.** Whatever happens between the reads and the submissions of
transfers that are processed side by side,

* no transfer is submitted twice;
* a transfer is submitted as it is, and only behind a read of its own that found it not complete;
* once an identifier is complete, it is submitted only by transfers that read the ledger before;
* a transfer that begins when its identifier is complete is not submitted;
* and so, of two transfers under one identifier of which one begins when the other has ended, the
  second is not submitted if the submission of the first has completed it. -/
theorem submits_behind_own_read (ledger : GrowingLedger d) (requests : ι → Transfer) (w : World σ)
    {ms₁ ms₂ : List (Moment ι)} {s₁ s₂ : Pool ι σ (Except Fault TransferOutcome)}
    (run₁ : Run ledger (start requests w) ms₁ s₁) (run₂ : Run ledger s₁ ms₂ s₂) :
    (∀ i, (ms₁ ++ ms₂).countP (Moment.submits i) ≤ 1) ∧
      (∀ i, ReadsFirst (requests i) i (ms₁ ++ ms₂)) ∧
      (∀ i, ledger.completed s₁.world.chain (requests i).tx = true →
        ∀ m ∈ ms₂, m.submits i = true → .readsOpen i (requests i).tx ∈ ms₁) ∧
      (∀ i, (∀ m ∈ ms₁, m.isOf i = false) →
        ledger.completed s₁.world.chain (requests i).tx = true →
        ∀ m ∈ ms₁ ++ ms₂, m.submits i = false) ∧
      ∀ i j, i ≠ j → (requests i).tx = (requests j).tx → Before i j (ms₁ ++ ms₂) →
        (∃ m, ms₁.getLast? = some m ∧ m.submits i = true) →
        ledger.completed s₁.world.chain (requests i).tx = true →
        ∀ m ∈ ms₁ ++ ms₂, m.submits j = false := by
  have hkept : ∀ i, Standing (requests i) i (ms₁ ++ ms₂) (s₂.plans i) ∧
      ReadsFirst (requests i) i (ms₁ ++ ms₂) :=
    fun i => standing_run (requests i).servedBy_process (run₁.append run₂)
  refine ⟨fun i => (hkept i).1.once, fun i => (hkept i).2, ?_, ?_, ?_⟩
  · intro i hcompleted m hm hsubmits
    exact readsOpen_of_completed (hkept i).2 run₂ hcompleted hm hsubmits
  · intro i hlate hcompleted
    exact not_submits_of_late (hkept i).2 run₂ hlate hcompleted
  · rintro i j hne htx hbefore ⟨m, hlast, hsubmits⟩ hcompleted
    obtain ⟨ms, rfl⟩ := List.getLast?_eq_some_iff.mp hlast
    have hof := Moment.isOf_of_submits hsubmits
    refine not_submits_of_late (hkept j).2 run₂ ?_ (htx ▸ hcompleted)
    intro x hx
    rw [Bool.eq_false_iff]
    intro hj
    rcases List.mem_append.mp hx with hx | hx
    · -- the second would have begun before the first was submitted
      have hpair := List.pairwise_append.mp (List.pairwise_append.mp hbefore).1
      exact hpair.2.2 x hx m List.mem_cons_self ⟨hj, hof⟩
    · obtain rfl := List.mem_singleton.mp hx
      exact hne (Moment.eq_of_isOf hof hj)

/-- Two refunds of one withdrawal, both of which read the ledger before the first is submitted: the
second is submitted as well, with its read behind it. -/
theorem submits_behind_own_read_of_racing_refunds :
    let tx : TransferId := ⟨List.replicate 32 0xaa, rfl⟩
    let w : World Ledger := .initial (Ledger.empty.apply (.autoComplete true))
    let ledger := Ledger.growing (fun _ => true) 8
    ∃ ms₁ ms₂ s₁ s₂, Run ledger (start (fun _ : Bool => .refundWithdraw tx) w) ms₁ s₁ ∧
      Run ledger s₁ ms₂ s₂ ∧ ledger.completed s₁.world.chain tx = true ∧
      ∃ m ∈ ms₂, m.submits true = true ∧ .readsOpen true tx ∈ ms₁ := by
  intro tx w ledger
  let t : Transfer := .refundWithdraw tx
  let d : Deployment Ledger := ⟨Ledger.answer, fun _ => true, 8⟩
  let s₀ : Pool Bool Ledger _ := start (fun _ => t) w
  let s₁ := s₀.advance false (t.afterRead (.ok false)) (d.perform (.isCompleted tx) w).2
  let s₂ := s₁.advance true (t.afterRead (.ok false)) (d.perform (.isCompleted tx) s₁.world).2
  let s₃ := s₂.advance false (t.afterSubmission (.ok (some Ledger.refundReceipt)))
    (d.perform (.submitRefund tx) s₂.world).2
  have cleared : ∀ i, s₂.plans i =
      .call t.submission fun answer => t.afterSubmission (t.receipt answer) := by
    rintro (_ | _) <;> rfl
  have read₁ : Step ledger s₀ (.readsOpen false tx) s₁ := .call t.process_run
  have read₂ : Step ledger s₁ (.readsOpen true tx) s₂ := .call t.process_run
  have submit₁ : Step ledger s₂
      (.call false (.submitRefund tx) (Except.ok Ledger.refundReceipt)) s₃ := .call (cleared false)
  have submit₂ : Step ledger s₃
      (.call true (.submitRefund tx) (Except.ok Ledger.refundReceipt)) _ := .call (cleared true)
  have run₁ : Run ledger s₀ _ s₃ := .next (.next (.next .none read₁) read₂) submit₁
  have run₂ : Run ledger s₃ _ _ := .next .none submit₂
  have completed : ledger.completed s₃.world.chain tx = true := rfl
  have hguard := (submits_behind_own_read ledger (fun _ => t) w run₁ run₂).2.2.1 true completed
  exact ⟨_, _, s₃, _, run₁, run₂, completed, _, List.mem_cons_self, rfl,
    hguard _ List.mem_cons_self rfl⟩

end Interleaving

end TransferRelay

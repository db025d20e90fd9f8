import TransferRelay.Proofs.Chain.Running

/-!
# What plans end in

`Plan.Ends P p` says that `P` holds of every result of the plan `p`, whatever the chain answers: it
is read off the tree, and holds of the result of each run (`Ends.complete`). `Plan.Idle p` says that
`p` does nothing but count, so a run leaves the world as it is but for the counters
(`Idle.complete`).
-/

namespace TransferRelay

variable {σ α β : Type} {P : α → Prop} {Q : β → Prop}

namespace Plan

/-! ## Results -/

/-- Every result of a plan has a property. -/
inductive Ends (P : α → Prop) : Plan α → Prop
  | done {a : α} (holds : P a) : Ends P (.done a)
  | call {c : Call} {next : c.Answer → Plan α} (rest : ∀ answer, Ends P (next answer)) :
      Ends P (.call c next)
  | flags {txs : List TransferId} {next : Except ReadFault (List Bool) → Plan α}
      (rest : ∀ r, Ends P (next r)) : Ends P (.flags txs next)
  | count {component : Component} {series : Series} {next : Plan α} (rest : Ends P next) :
      Ends P (.count component series next)
  | notify {tx : TransferId} {next : Plan α} (rest : Ends P next) : Ends P (.notify tx next)

theorem ends_of_forall (h : ∀ a, P a) (p : Plan α) : p.Ends P := by
  induction p with
  | done a => exact .done (h a)
  | call c next ih => exact .call ih
  | flags txs next ih => exact .flags ih
  | count component series next ih => exact .count ih
  | notify tx next ih => exact .notify ih

theorem Ends.bind {p : Plan α} {f : α → Plan β} (hp : p.Ends P) (hf : ∀ a, P a → (f a).Ends Q) :
    (p.bind f).Ends Q := by
  induction hp with
  | done holds => exact hf _ holds
  | call rest ih => exact .call ih
  | flags rest ih => exact .flags ih
  | count rest ih => exact .count ih
  | notify rest ih => exact .notify ih

theorem Ends.run {p : Plan α} (h : p.Ends P) (d : Deployment σ) (w : World σ) :
    P (p.run d w).1 := by
  induction h generalizing w with
  | done holds => exact holds
  | call rest ih => exact ih _ _
  | flags rest ih => exact ih _ _
  | count rest ih => exact ih _
  | notify rest ih => exact ih _

theorem Ends.complete {p : Plan α} (h : p.Ends P) (d : Deployment σ) (w : World σ) :
    P (p.complete d w).1 :=
  h.run d w

/-! ## Plans that do nothing -/

/-- A plan that does nothing but count. -/
inductive Idle : Plan α → Prop
  | done (a : α) : Idle (.done a)
  | count {component : Component} {series : Series} {next : Plan α} (rest : Idle next) :
      Idle (.count component series next)

theorem Idle.bind {p : Plan α} {f : α → Plan β} (hp : p.Idle) (hf : ∀ a, (f a).Idle) :
    (p.bind f).Idle := by
  induction hp with
  | done a => exact hf a
  | count rest ih => exact .count ih

/-- An idle plan leaves the world as it is but for the counters. -/
theorem Idle.run {p : Plan α} (h : p.Idle) (d : Deployment σ) (w : World σ) :
    ∃ metrics, (p.run d w).2 = { w with metrics := metrics } := by
  induction h generalizing w with
  | done a => exact ⟨w.metrics, rfl⟩
  | @count component series next rest ih =>
    obtain ⟨metrics, hrun⟩ := ih (d.tally component series w)
    refine ⟨metrics, hrun.trans ?_⟩
    rw [d.chain_tally, d.log_tally, d.notices_tally]

/-- Behind an idle plan there are no notices to deliver. -/
theorem Idle.complete {p : Plan α} (h : p.Idle) (d : Deployment σ) {w : World σ}
    (quiet : w.notices = []) :
    ∃ metrics, (p.complete d w).2 = { w with metrics := metrics } := by
  obtain ⟨metrics, hrun⟩ := h.run d w
  refine ⟨metrics, ?_⟩
  show d.deliver (p.run d w).2 = _
  rw [hrun]
  exact d.deliver_of_quiet quiet

end Plan

/-! ## Tasks -/

namespace Task

/-- Every result of a task has a property. -/
def Gives (P : α → Prop) (x : Task α) : Prop :=
  x.run.Ends fun r => ∀ a, r = .ok a → P a

theorem gives_pure {a : α} (h : P a) : Gives P (pure a : Task α) := by
  refine .done ?_
  rintro b ⟨⟩
  exact h

/-- A task of two parts gives what its second part gives. -/
theorem gives_bind {x : Task α} {f : α → Task β} (hf : ∀ a, Gives Q (f a)) :
    Gives Q (x >>= f) := by
  refine Plan.Ends.bind (Plan.ends_of_forall (fun _ => trivial) x.run) fun r _ => ?_
  cases r with
  | error fault => exact .done (by rintro b ⟨⟩)
  | ok a => exact hf a

end Task

end TransferRelay

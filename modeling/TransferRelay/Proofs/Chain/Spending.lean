import TransferRelay.Proofs.Chain.Running

/-!
# What a plan may spend

A plan `Spends` a budget of calls if it leaves no notices and its calls, whatever the chain answers,
are found in the budget, in this order and each of them no more often than it is there. The budget
is read off the tree, and every run keeps to it (`Spends.run`).
-/

namespace TransferRelay

variable {σ α β : Type} {budget more : List Call}

namespace Deployment

/-- A batch is read from its first to at most its last. -/
theorem exists_log_readFlags (d : Deployment σ) (txs : List TransferId) (w : World σ) :
    ∃ events : List Event, (d.readFlags txs w).2.log = events.reverse ++ w.log ∧
      (events.map Event.call).Sublist (txs.map Call.isCompleted) ∧
      (d.readFlags txs w).2.notices = w.notices := by
  induction txs generalizing w with
  | nil => exact ⟨[], rfl, .slnil, rfl⟩
  | cons tx txs ih =>
    cases hread : (d.answer (.isCompleted tx) w.chain).1 with
    | error cause =>
      -- the batch ends with the read that fails
      refine ⟨[⟨.isCompleted tx, true⟩], ?_, .cons_cons _ (List.nil_sublist _), ?_⟩
      · rw [readFlags, d.perform_eq hread]
        rfl
      · rw [readFlags, d.perform_eq hread]
    | ok flag =>
      obtain ⟨events, hlog, hcalls, hnotices⟩ := ih (d.perform (.isCompleted tx) w).2
      have hfirst : d.perform (.isCompleted tx) w =
          (Except.ok flag, (d.perform (.isCompleted tx) w).2) := Prod.ext hread rfl
      have hrest : (d.readFlags (tx :: txs) w).2 = _ := d.world_readFlags_cons hfirst
      have hperform : (d.perform (.isCompleted tx) w).2.log =
          ⟨.isCompleted tx, false⟩ :: w.log := by
        rw [d.perform_eq hread]
        rfl
      refine ⟨⟨.isCompleted tx, false⟩ :: events, ?_, hcalls.cons_cons _, ?_⟩
      · rw [hrest, hlog, hperform, List.reverse_cons, List.append_assoc]
        rfl
      · rw [hrest, hnotices]
        rfl

end Deployment

namespace Plan

/-- A plan that leaves no notices, and whose calls are in a budget. -/
inductive Spends : List Call → Plan α → Prop
  | done {budget : List Call} (a : α) : Spends budget (.done a)
  | call {budget rest : List Call} {c : Call} {next : c.Answer → Plan α}
      (paid : (c :: rest).Sublist budget) (goesOn : ∀ answer, Spends rest (next answer)) :
      Spends budget (.call c next)
  | flags {budget rest : List Call} {txs : List TransferId}
      {next : Except ReadFault (List Bool) → Plan α}
      (paid : (txs.map Call.isCompleted ++ rest).Sublist budget)
      (goesOn : ∀ r, Spends rest (next r)) :
      Spends budget (.flags txs next)
  | count {budget : List Call} {component : Component} {series : Series} {next : Plan α}
      (goesOn : Spends budget next) : Spends budget (.count component series next)

namespace Spends

/-- A larger budget is kept to as well. -/
theorem mono {p : Plan α} (h : p.Spends budget) (larger : budget.Sublist more) :
    p.Spends more := by
  induction h generalizing more with
  | done a => exact .done a
  | call paid goesOn ih => exact .call (paid.trans larger) goesOn
  | flags paid goesOn ih => exact .flags (paid.trans larger) goesOn
  | count goesOn ih => exact .count (ih larger)

/-- What comes after a plan has a budget of its own. -/
theorem bind {p : Plan α} {f : α → Plan β} (hp : p.Spends budget)
    (hf : ∀ a, (f a).Spends more) : (p.bind f).Spends (budget ++ more) := by
  induction hp with
  | done a => exact (hf a).mono (List.sublist_append_right _ _)
  | @call budget rest c next paid goesOn ih =>
    have hpaid : (c :: (rest ++ more)).Sublist (budget ++ more) := paid.append (.refl more)
    exact .call hpaid ih
  | @flags budget rest txs next paid goesOn ih =>
    have hpaid : (txs.map Call.isCompleted ++ (rest ++ more)).Sublist (budget ++ more) := by
      rw [← List.append_assoc]
      exact paid.append (.refl more)
    exact .flags hpaid ih
  | count goesOn ih => exact .count ih

/-- What spends nothing needs no budget. -/
theorem bind_free {p : Plan α} {f : α → Plan β} (hp : p.Spends budget)
    (hf : ∀ a, (f a).Spends []) : (p.bind f).Spends budget := by
  have hbind := hp.bind hf
  rwa [List.append_nil] at hbind

/-- A run makes calls of the budget, each of them no more often than it is there. -/
theorem run {p : Plan α} (h : p.Spends budget) (d : Deployment σ) (w : World σ) :
    ∃ events : List Event, (p.run d w).2.log = events.reverse ++ w.log ∧
      (events.map Event.call).Sublist budget ∧ (p.run d w).2.notices = w.notices := by
  induction h generalizing w with
  | done a => exact ⟨[], rfl, List.nil_sublist _, rfl⟩
  | @call budget rest c next paid goesOn ih =>
    obtain ⟨events, hlog, hcalls, hquiet⟩ := ih (d.perform c w).1 (d.perform c w).2
    refine ⟨⟨c, c.failed (d.perform c w).1⟩ :: events, ?_, (hcalls.cons_cons c).trans paid, hquiet⟩
    refine hlog.trans ?_
    rw [List.reverse_cons, List.append_assoc]
    rfl
  | @flags budget rest txs next paid goesOn ih =>
    obtain ⟨read, hread, htxs, hsame⟩ := d.exists_log_readFlags txs w
    obtain ⟨events, hlog, hcalls, hquiet⟩ := ih (d.readFlags txs w).1 (d.readFlags txs w).2
    refine ⟨read ++ events, ?_, ?_, hquiet.trans hsame⟩
    · refine hlog.trans ?_
      rw [hread, List.reverse_append, List.append_assoc]
    · rw [List.map_append]
      exact (htxs.append hcalls).trans paid
  | @count budget component series next goesOn ih =>
    obtain ⟨events, hlog, hcalls, hquiet⟩ := ih (d.tally component series w)
    rw [d.log_tally] at hlog
    rw [d.notices_tally] at hquiet
    exact ⟨events, hlog, hcalls, hquiet⟩

/-- No notices are left, so none are delivered behind a run. -/
theorem complete {p : Plan α} (h : p.Spends budget) (d : Deployment σ) {w : World σ}
    (quiet : w.notices = []) :
    ∃ events : List Event, (p.complete d w).2.log = events.reverse ++ w.log ∧
      (events.map Event.call).Sublist budget ∧ (p.complete d w).2.notices = [] := by
  obtain ⟨events, hlog, hcalls, hquiet⟩ := h.run d w
  rw [quiet] at hquiet
  refine ⟨events, ?_, hcalls, ?_⟩
  · show (d.deliver (p.run d w).2).log = _
    rw [d.deliver_of_quiet hquiet, hlog]
  · show (d.deliver (p.run d w).2).notices = _
    rw [d.deliver_of_quiet hquiet, hquiet]

end Spends

end Plan

namespace Task

/-- A task of two parts spends what both spend. -/
theorem spends_bind {x : Task α} {f : α → Task β} (hx : x.run.Spends budget)
    (hf : ∀ a, (f a).run.Spends more) : (x >>= f).run.Spends (budget ++ more) := by
  refine Plan.Spends.bind hx fun r => ?_
  cases r with
  | error fault => exact .done _
  | ok a => exact hf a

/-- Making something of the result spends no more. -/
theorem spends_map {x : Task α} (hx : x.run.Spends budget) (g : α → β) :
    (x >>= fun a => pure (g a)).run.Spends budget := by
  refine Plan.Spends.bind_free hx fun r => ?_
  cases r <;> exact .done _

theorem spends_ofRead (r : Except ReadFault α) : (ofRead r).run.Spends [] := by
  cases r <;> exact .done _

theorem spends_ofLedgerRead (r : Except ReadFault α) : (ofLedgerRead r).run.Spends [] := by
  cases r with
  | error cause => exact .count (.done _)
  | ok a => exact .done _

theorem spends_isCompleted (tx : TransferId) : (isCompleted tx).run.Spends [.isCompleted tx] :=
  .call (.refl _) spends_ofLedgerRead

theorem spends_rechargeData (tx : TransferId) :
    (rechargeData tx).run.Spends [.rechargeData tx] :=
  .call (.refl _) spends_ofRead

theorem spends_withdrawData (tx : TransferId) :
    (withdrawData tx).run.Spends [.withdrawData tx] :=
  .call (.refl _) spends_ofRead

end Task

end TransferRelay

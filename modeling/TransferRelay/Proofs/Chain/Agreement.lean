import TransferRelay.Proofs.Chain.Coupling

/-!
# Deployments that agree on some calls

A plan is `Confined` to some calls if it makes no others, beside the reads of its batches and the
notices that it leaves. Deployments that answer these calls alike cannot be told apart by it: run
alone (`Confined.complete`) or in a race (`race_eq`), the plan has the same result and leaves the
same world.
-/

namespace TransferRelay

variable {σ α β : Type} {allowed : Call → Prop}

/-! ## Deployments -/

/-- Deployments that answer some calls alike, the reads of batches and the notices among them, and
count the same. -/
structure Deployment.AgreeOn (allowed : Call → Prop) (d d' : Deployment σ) : Prop where
  answer : ∀ c, allowed c → d.answer c = d'.answer c
  ledger : ∀ tx, d.answer (.isCompleted tx) = d'.answer (.isCompleted tx)
  notice : ∀ tx, d.answer (.notifyAccepted tx) = d'.answer (.notifyAccepted tx)
  counts : d.counts = d'.counts
  window : d.window = d'.window

namespace Deployment

variable {d d' : Deployment σ}

theorem perform_congr {c : Call} (same : d.answer c = d'.answer c) (w : World σ) :
    d.perform c w = d'.perform c w := by
  rw [perform, perform, same]

namespace AgreeOn

theorem width (agree : AgreeOn allowed d d') : d.width = d'.width := by
  rw [Deployment.width, Deployment.width, agree.window]

theorem tally (agree : AgreeOn allowed d d') (component : Component) (series : Series)
    (w : World σ) : d.tally component series w = d'.tally component series w := by
  rw [Deployment.tally, Deployment.tally, agree.counts]

theorem readFlags (agree : AgreeOn allowed d d') (txs : List TransferId) (w : World σ) :
    d.readFlags txs w = d'.readFlags txs w := by
  induction txs generalizing w with
  | nil => rfl
  | cons tx txs ih => simp only [Deployment.readFlags, perform_congr (agree.ledger tx), ih]

theorem readEach (agree : AgreeOn allowed d d') (txs : List TransferId) (w : World σ) :
    d.readEach txs w = d'.readEach txs w := by
  induction txs generalizing w with
  | nil => rfl
  | cons tx txs ih => simp only [Deployment.readEach, perform_congr (agree.ledger tx), ih]

theorem deliver (agree : AgreeOn allowed d d') (w : World σ) : d.deliver w = d'.deliver w := by
  have hstep : (fun (w : World σ) tx => (d.perform (.notifyAccepted tx) w).2) =
      fun w tx => (d'.perform (.notifyAccepted tx) w).2 := by
    funext w tx
    rw [perform_congr (agree.notice tx)]
  rw [Deployment.deliver, Deployment.deliver, hstep]

end AgreeOn

end Deployment

/-! ## Plans -/

namespace Plan

/-- A plan that makes no calls but allowed ones, beside the reads of its batches and its notices. -/
inductive Confined (allowed : Call → Prop) : Plan α → Prop
  | done (a : α) : Confined allowed (.done a)
  | call {c : Call} {next : c.Answer → Plan α} (isAllowed : allowed c)
      (rest : ∀ answer, Confined allowed (next answer)) : Confined allowed (.call c next)
  | flags {txs : List TransferId} {next : Except ReadFault (List Bool) → Plan α}
      (rest : ∀ r, Confined allowed (next r)) : Confined allowed (.flags txs next)
  | count {component : Component} {series : Series} {next : Plan α}
      (rest : Confined allowed next) : Confined allowed (.count component series next)
  | notify {tx : TransferId} {next : Plan α} (rest : Confined allowed next) :
      Confined allowed (.notify tx next)

theorem Confined.bind {p : Plan α} {f : α → Plan β} (hp : p.Confined allowed)
    (hf : ∀ a, (f a).Confined allowed) : (p.bind f).Confined allowed := by
  induction hp with
  | done a => exact hf a
  | call isAllowed rest ih => exact .call isAllowed ih
  | flags rest ih => exact .flags ih
  | count rest ih => exact .count ih
  | notify rest ih => exact .notify ih

variable {d d' : Deployment σ}

/-- Deployments that agree on the calls of a plan run it alike. -/
theorem Confined.run {p : Plan α} (h : p.Confined allowed) (agree : d.AgreeOn allowed d')
    (w : World σ) : p.run d w = p.run d' w := by
  induction h generalizing w with
  | done a => rfl
  | @call c next isAllowed rest ih =>
    simp only [Plan.run, Deployment.perform_congr (agree.answer c isAllowed), ih]
  | flags rest ih => simp only [Plan.run, agree.readFlags, ih]
  | count rest ih => simp only [Plan.run, agree.tally, ih]
  | notify rest ih => simp only [Plan.run, ih]

theorem Confined.complete {p : Plan α} (h : p.Confined allowed) (agree : d.AgreeOn allowed d')
    (w : World σ) : p.complete d w = p.complete d' w := by
  simp only [Plan.complete, h.run agree, agree.deliver]

/-! ## Races -/

theorem confined_resumeFlags (known : Except ReadFault (List Bool)) (rest : List TransferId)
    {next : Except ReadFault (List Bool) → Plan α} (hnext : ∀ r, (next r).Confined allowed) :
    (resumeFlags known rest next).Confined allowed := by
  unfold resumeFlags
  split
  · exact hnext _
  · exact hnext _
  · exact .flags fun r => hnext _

/-- What is left of a confined plan is confined. -/
theorem Confined.turn {p : Plan α} (h : p.Confined allowed) (agree : d.AgreeOn allowed d')
    (w : World σ) : p.turn d w = p.turn d' w ∧ (p.turn d w).1.Confined allowed := by
  induction h generalizing w with
  | done a => exact ⟨rfl, .done a⟩
  | @call c next isAllowed rest ih =>
    simp only [Plan.turn, Deployment.perform_congr (agree.answer c isAllowed)]
    split
    · exact ⟨rfl, rest _⟩
    · exact ih _ _
  | @flags txs next rest ih =>
    cases txs with
    | nil => exact ih _ w
    | cons tx txs =>
      simp only [Plan.turn, agree.width, agree.readEach]
      exact ⟨trivial, confined_resumeFlags _ _ rest⟩
  | count rest ih =>
    simp only [Plan.turn, agree.tally]
    exact ih _
  | notify rest ih => exact ih _

theorem turns_congr {ps : List (Plan α)} (h : ∀ p ∈ ps, p.Confined allowed)
    (agree : d.AgreeOn allowed d') (w : World σ) :
    turns d ps w = turns d' ps w ∧ ∀ p ∈ (turns d ps w).1, p.Confined allowed := by
  induction ps generalizing w with
  | nil => exact ⟨rfl, nofun⟩
  | cons p ps ih =>
    obtain ⟨hp, hps⟩ := List.forall_mem_cons.mp h
    obtain ⟨hturn, hleft⟩ := hp.turn agree w
    obtain ⟨hrest, hothers⟩ := ih hps (p.turn d w).2
    simp only [turns, ← hturn, ← hrest]
    exact ⟨trivial, List.forall_mem_cons.mpr ⟨hleft, hothers⟩⟩

/-- Deployments that agree on the calls of some plans let them race alike. -/
theorem race_congr {ps : List (Plan α)} (h : ∀ p ∈ ps, p.Confined allowed)
    (agree : d.AgreeOn allowed d') (w : World σ) : race d ps w = race d' ps w := by
  fun_induction Plan.race d ps w with
  | case1 ps w as ended => rw [race_of_ended d' ended]
  | case2 ps w going ih =>
    obtain ⟨hturns, hleft⟩ := turns_congr h agree w
    rw [race_of_going d' going, ← hturns, ← agree.deliver]
    exact ih hleft

end Plan

end TransferRelay

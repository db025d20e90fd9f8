import Mathlib.Data.List.Forall2
import TransferRelay.Chain.Race
import TransferRelay.Proofs.Chain.Running
import TransferRelay.Proofs.Results

/-!
# Two chains side by side

Two deployments are `Coupled` if their chains answer every call alike as long as they stand in a
relation, and stay in it. Answers are alike if both are failures, for whatever reasons, or both have
the same value; of a notice not even that is asked, since nobody looks at the answer.

Plans are `Alike` if they make the same calls, leave the same notices and go on alike behind answers
that are alike. Run on coupled deployments, alone (`Alike.complete`) or in a race (`alike_race`),
they have related results, and leave worlds that are alike but for the counters.
-/

namespace TransferRelay

variable {σ σ' α α' β β' : Type}

/-- Two ends are failures, for any reasons, or have the same value. -/
abbrev FailAlike {ε ε' : Type} : Except ε α → Except ε' α → Prop :=
  EndAlike (fun _ _ => True) Eq

/-- Answers to a call that tell the service the same. -/
def Call.Alike : (c : Call) → c.Answer → c.Answer → Prop
  | .isCompleted _, a, a' => FailAlike a a'
  | .rechargeData _, a, a' => FailAlike a a'
  | .withdrawData _, a, a' => FailAlike a a'
  | .sendInvalidWithdraw _ _, a, a' => FailAlike a a'
  | .submitSmallTransfer _ _, a, a' => FailAlike a a'
  | .submitRecharge _ _, a, a' => FailAlike a a'
  | .submitRefund _, a, a' => FailAlike a a'
  | .notifyAccepted _, _, _ => True

/-- Chains that answer alike, and after each call again. -/
structure Deployment.Coupled (d : Deployment σ) (d' : Deployment σ') (S : σ → σ' → Prop) :
    Prop where
  answer : ∀ (c : Call) {chain : σ} {chain' : σ'}, S chain chain' →
    c.Alike (d.answer c chain).1 (d'.answer c chain').1 ∧
      S (d.answer c chain).2 (d'.answer c chain').2
  width : d.width = d'.width

/-- Worlds that differ in counters and in how calls have ended at most. -/
structure World.Alike (S : σ → σ' → Prop) (w : World σ) (w' : World σ') : Prop where
  chain : S w.chain w'.chain
  calls : w.log.map Event.call = w'.log.map Event.call
  notices : w.notices = w'.notices

variable {d : Deployment σ} {d' : Deployment σ'} {S : σ → σ' → Prop} {w : World σ} {w' : World σ'}

namespace Deployment.Coupled

theorem perform (coupled : d.Coupled d' S) (alike : World.Alike S w w') (c : Call) :
    c.Alike (d.perform c w).1 (d'.perform c w').1 ∧
      World.Alike S (d.perform c w).2 (d'.perform c w').2 := by
  obtain ⟨hanswer, hchain⟩ := coupled.answer c alike.chain
  refine ⟨hanswer, hchain, ?_, alike.notices⟩
  show c :: w.log.map Event.call = c :: w'.log.map Event.call
  rw [alike.calls]

theorem tally (alike : World.Alike S w w') (component component' : Component)
    (series series' : Series) :
    World.Alike S (d.tally component series w) (d'.tally component' series' w') := by
  refine ⟨?_, ?_, ?_⟩
  · rw [chain_tally, chain_tally]
    exact alike.chain
  · rw [log_tally, log_tally]
    exact alike.calls
  · rw [notices_tally, notices_tally]
    exact alike.notices

theorem readFlags (coupled : d.Coupled d' S) (txs : List TransferId)
    (alike : World.Alike S w w') :
    FailAlike (d.readFlags txs w).1 (d'.readFlags txs w').1 ∧
      World.Alike S (d.readFlags txs w).2 (d'.readFlags txs w').2 := by
  induction txs generalizing w w' with
  | nil => exact ⟨.ok rfl, alike⟩
  | cons tx txs ih =>
    obtain ⟨hread, hafter⟩ := coupled.perform alike (.isCompleted tx)
    rw [Deployment.readFlags, Deployment.readFlags]
    generalize d.perform (.isCompleted tx) w = performed at hread hafter
    generalize d'.perform (.isCompleted tx) w' = performed' at hread hafter
    obtain ⟨read, after⟩ := performed
    obtain ⟨read', after'⟩ := performed'
    have hread : FailAlike read read' := hread
    cases hread with
    | error _ => exact ⟨.error trivial, hafter⟩
    | @ok flag flag' same =>
      -- both batches go on, and the flag is put in front of what they read
      obtain ⟨hrest, hlast⟩ := ih hafter
      dsimp only
      generalize d.readFlags txs after = others at hrest hlast
      generalize d'.readFlags txs after' = others' at hrest hlast
      obtain ⟨rest, last⟩ := others
      obtain ⟨rest', last'⟩ := others'
      have hrest : FailAlike rest rest' := hrest
      cases hrest with
      | error _ => exact ⟨.error trivial, hlast⟩
      | ok flags =>
        subst same flags
        exact ⟨.ok rfl, hlast⟩

theorem readEach (coupled : d.Coupled d' S) (txs : List TransferId)
    (alike : World.Alike S w w') :
    List.Forall₂ FailAlike (d.readEach txs w).1 (d'.readEach txs w').1 ∧
      World.Alike S (d.readEach txs w).2 (d'.readEach txs w').2 := by
  induction txs generalizing w w' with
  | nil => exact ⟨.nil, alike⟩
  | cons tx txs ih =>
    obtain ⟨hread, hafter⟩ := coupled.perform alike (.isCompleted tx)
    obtain ⟨hrest, hlast⟩ := ih hafter
    exact ⟨.cons hread hrest, hlast⟩

theorem deliver (coupled : d.Coupled d' S) (alike : World.Alike S w w') :
    World.Alike S (d.deliver w) (d'.deliver w') := by
  have hfold : ∀ (txs : List TransferId) {w : World σ} {w' : World σ'}, World.Alike S w w' →
      World.Alike S (txs.foldl (fun w tx => (d.perform (.notifyAccepted tx) w).2) w)
        (txs.foldl (fun w' tx => (d'.perform (.notifyAccepted tx) w').2) w') := by
    intro txs
    induction txs with
    | nil => exact fun alike => alike
    | cons tx txs ih => exact fun alike => ih (coupled.perform alike (.notifyAccepted tx)).2
  rw [Deployment.deliver, Deployment.deliver, alike.notices]
  exact hfold _ ⟨alike.chain, alike.calls, rfl⟩

end Deployment.Coupled

/-! ## Plans -/

namespace Plan

variable {R : α → α' → Prop} {Q : β → β' → Prop}

/-- Plans that do the same behind answers that are alike, and have related results. -/
inductive Alike (R : α → α' → Prop) : Plan α → Plan α' → Prop
  | done {a : α} {a' : α'} (results : R a a') : Alike R (.done a) (.done a')
  | call {c : Call} {next : c.Answer → Plan α} {next' : c.Answer → Plan α'}
      (rest : ∀ a a', c.Alike a a' → Alike R (next a) (next' a')) :
      Alike R (.call c next) (.call c next')
  | flags {txs : List TransferId} {next : Except ReadFault (List Bool) → Plan α}
      {next' : Except ReadFault (List Bool) → Plan α'}
      (rest : ∀ r r', FailAlike r r' → Alike R (next r) (next' r')) :
      Alike R (.flags txs next) (.flags txs next')
  | count {component component' : Component} {series series' : Series} {next : Plan α}
      {next' : Plan α'} (rest : Alike R next next') :
      Alike R (.count component series next) (.count component' series' next')
  | notify {tx : TransferId} {next : Plan α} {next' : Plan α'} (rest : Alike R next next') :
      Alike R (.notify tx next) (.notify tx next')

theorem Alike.bind {p : Plan α} {p' : Plan α'} (hp : p.Alike R p') {f : α → Plan β}
    {f' : α' → Plan β'} (hf : ∀ a a', R a a' → (f a).Alike Q (f' a')) :
    (p.bind f).Alike Q (p'.bind f') := by
  induction hp with
  | done results => exact hf _ _ results
  | call rest ih => exact .call ih
  | flags rest ih => exact .flags ih
  | count rest ih => exact .count ih
  | notify rest ih => exact .notify ih

/-- Alike plans run alike. -/
theorem Alike.run {p : Plan α} {p' : Plan α'} (hp : p.Alike R p') (coupled : d.Coupled d' S)
    (alike : World.Alike S w w') :
    R (p.run d w).1 (p'.run d' w').1 ∧ World.Alike S (p.run d w).2 (p'.run d' w').2 := by
  induction hp generalizing w w' with
  | done results => exact ⟨results, alike⟩
  | @call c next next' rest ih =>
    obtain ⟨hanswer, hafter⟩ := coupled.perform alike c
    exact ih _ _ hanswer hafter
  | @flags txs next next' rest ih =>
    obtain ⟨hflags, hafter⟩ := coupled.readFlags txs alike
    exact ih _ _ hflags hafter
  | count rest ih => exact ih (Deployment.Coupled.tally alike _ _ _ _)
  | notify rest ih => exact ih ⟨alike.chain, alike.calls, by rw [alike.notices]⟩

/-- Alike plans run alike with their notices. -/
theorem Alike.complete {p : Plan α} {p' : Plan α'} (hp : p.Alike R p') (coupled : d.Coupled d' S)
    (alike : World.Alike S w w') :
    R (p.complete d w).1 (p'.complete d' w').1 ∧
      World.Alike S (p.complete d w).2 (p'.complete d' w').2 := by
  obtain ⟨hresult, hafter⟩ := hp.run coupled alike
  exact ⟨hresult, coupled.deliver hafter⟩

/-! ## Races -/

theorem failAlike_gather {as as' : List (Except ReadFault Bool)}
    (h : List.Forall₂ FailAlike as as') : FailAlike (gather as) (gather as') := by
  induction h with
  | nil => exact .ok rfl
  | cons first rest ih =>
    cases first with
    | error _ => exact .error trivial
    | ok same =>
      subst same
      exact ih.map fun flags flags' same => congrArg _ same

theorem alike_resumeFlags {known known' : Except ReadFault (List Bool)}
    (begun : FailAlike known known') (rest : List TransferId)
    {next : Except ReadFault (List Bool) → Plan α} {next' : Except ReadFault (List Bool) → Plan α'}
    (hnext : ∀ r r', FailAlike r r' → (next r).Alike R (next' r')) :
    (resumeFlags known rest next).Alike R (resumeFlags known' rest next') := by
  cases begun with
  | error _ => exact hnext _ _ (.error trivial)
  | ok same =>
    subst same
    cases rest with
    | nil => exact hnext _ _ (.ok rfl)
    | cons tx rest =>
      refine .flags fun r r' h => hnext _ _ (h.map fun flags flags' same => ?_)
      exact congrArg _ same

/-- Alike plans take turns alike. -/
theorem Alike.turn {p : Plan α} {p' : Plan α'} (hp : p.Alike R p') (coupled : d.Coupled d' S)
    (alike : World.Alike S w w') :
    (p.turn d w).1.Alike R (p'.turn d' w').1 ∧ World.Alike S (p.turn d w).2 (p'.turn d' w').2 := by
  induction hp generalizing w w' with
  | done results => exact ⟨.done results, alike⟩
  | @call c next next' rest ih =>
    obtain ⟨hanswer, hafter⟩ := coupled.perform alike c
    rw [Plan.turn, Plan.turn]
    dsimp only
    by_cases reads : c.readsLedger = true
    · rw [if_pos reads, if_pos reads]
      exact ⟨rest _ _ hanswer, hafter⟩
    · -- a call that reads no ledger ends no turn
      rw [if_neg reads, if_neg reads]
      exact ih _ _ hanswer hafter
  | @flags txs next next' rest ih =>
    cases txs with
    | nil => exact ih _ _ (.ok rfl) alike
    | cons tx txs =>
      obtain ⟨hanswers, hafter⟩ := coupled.readEach ((tx :: txs).take d.width) alike
      rw [Plan.turn, Plan.turn, ← coupled.width]
      exact ⟨alike_resumeFlags (failAlike_gather hanswers) _ rest, hafter⟩
  | count rest ih => exact ih (Deployment.Coupled.tally alike _ _ _ _)
  | notify rest ih => exact ih ⟨alike.chain, alike.calls, by rw [alike.notices]⟩

theorem alike_turns {ps : List (Plan α)} {ps' : List (Plan α')}
    (h : List.Forall₂ (Alike R) ps ps') (coupled : d.Coupled d' S) (alike : World.Alike S w w') :
    List.Forall₂ (Alike R) (turns d ps w).1 (turns d' ps' w').1 ∧
      World.Alike S (turns d ps w).2 (turns d' ps' w').2 := by
  induction h generalizing w w' with
  | nil => exact ⟨.nil, alike⟩
  | cons first rest ih =>
    obtain ⟨hfirst, hafter⟩ := first.turn coupled alike
    obtain ⟨hrest, hlast⟩ := ih hafter
    exact ⟨.cons hfirst hrest, hlast⟩

/-- Plans that are alike are at their ends together. -/
theorem alike_results {ps : List (Plan α)} {ps' : List (Plan α')}
    (h : List.Forall₂ (Alike R) ps ps') :
    (results? ps = none ∧ results? ps' = none) ∨
      ∃ as as', results? ps = some as ∧ results? ps' = some as' ∧ List.Forall₂ R as as' := by
  induction h with
  | nil => exact .inr ⟨[], [], rfl, rfl, .nil⟩
  | cons first rest ih =>
    cases first with
    | done results =>
      rcases ih with ⟨hnone, hnone'⟩ | ⟨as, as', hsome, hsome', hall⟩
      · left
        rw [results?, results?, hnone, hnone']
        exact ⟨rfl, rfl⟩
      · right
        rw [results?, results?, hsome, hsome']
        exact ⟨_, _, rfl, rfl, .cons results hall⟩
    | _ => exact .inl ⟨rfl, rfl⟩

theorem race_of_ended (d : Deployment σ) {ps : List (Plan α)} {as : List α}
    (ended : results? ps = some as) (w : World σ) : race d ps w = (as, w) := by
  rw [race]
  split
  · next bs hbs =>
    obtain rfl := Option.some.inj (ended.symm.trans hbs)
    rfl
  · next hnone =>
    rw [ended] at hnone
    cases hnone

theorem race_of_going (d : Deployment σ) {ps : List (Plan α)} (going : results? ps = none)
    (w : World σ) : race d ps w = race d (turns d ps w).1 (d.deliver (turns d ps w).2) := by
  rw [race]
  split
  · next as has =>
    rw [going] at has
    cases has
  · rfl

/-- Alike plans race alike. -/
theorem alike_race {ps : List (Plan α)} {ps' : List (Plan α')} (h : List.Forall₂ (Alike R) ps ps')
    (coupled : d.Coupled d' S) (alike : World.Alike S w w') :
    List.Forall₂ R (race d ps w).1 (race d' ps' w').1 ∧
      World.Alike S (race d ps w).2 (race d' ps' w').2 := by
  fun_induction Plan.race d ps w generalizing ps' w' with
  | case1 ps w as ended =>
    rcases alike_results h with ⟨hnone, -⟩ | ⟨bs, bs', hsome, hsome', hall⟩
    · rw [ended] at hnone
      cases hnone
    · obtain rfl := Option.some.inj (ended.symm.trans hsome)
      rw [race_of_ended d' hsome']
      exact ⟨hall, alike⟩
  | case2 ps w going ih =>
    rcases alike_results h with ⟨-, hgoing'⟩ | ⟨bs, bs', hsome, -, -⟩
    · -- one round of turns, its notices, and the race from there
      obtain ⟨hturns, hafter⟩ := alike_turns h coupled alike
      rw [race_of_going d' hgoing']
      exact ih hturns (coupled.deliver hafter)
    · rw [going] at hsome
      cases hsome

end Plan

end TransferRelay

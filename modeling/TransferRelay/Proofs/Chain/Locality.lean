import TransferRelay.Proofs.Chain.Ledger
import TransferRelay.Proofs.Transfer.Batch

/-!
# What a plan has to do with

A plan is `About` some identifiers if it reads and completes no other transfers. On a chain in
memory, what such a plan comes to is the same on all chains that agree on these identifiers
(`About.complete`): its result, the transfers that it completes, all of them among the identifiers,
and what it counts. So plans about different identifiers do not notice each other, and it does not
matter which of them goes first (`complete_comm`).
-/

namespace TransferRelay

variable {α β : Type} {ids : List TransferId}

/-! ## Counting in a row -/

namespace Metrics

/-- One more in each of some series. -/
def bumpAll (series : List Series) (m : Metrics) : Metrics :=
  series.foldl (fun m s => m.bump s) m

theorem bumpAll_append (series more : List Series) (m : Metrics) :
    m.bumpAll (series ++ more) = (m.bumpAll series).bumpAll more :=
  List.foldl_append

theorem count_bumpAll (series : List Series) (s : Series) (m : Metrics) :
    (m.bumpAll series).count s = m.count s + series.count s := by
  induction series generalizing m with
  | nil => rfl
  | cons first rest ih =>
    show ((m.bump first).bumpAll rest).count s = _
    rw [ih, count_bump, List.count_cons]
    by_cases h : s = first
    · simp [h]
      omega
    · simp [h, Ne.symm h]

theorem bumpAll_comm (series more : List Series) (m : Metrics) :
    (m.bumpAll series).bumpAll more = (m.bumpAll more).bumpAll series := by
  ext s
  simp only [count_bumpAll]
  omega

end Metrics

/-! ## Chains that agree -/

namespace Ledger

/-- Chains with the same switches that hold the same under some identifiers. -/
structure AgreesOn (ids : List TransferId) (l l' : Ledger) : Prop where
  completed : ∀ tx ∈ ids, l.completed tx = l'.completed tx
  recharges : ∀ tx ∈ ids, l.recharges tx = l'.recharges tx
  withdrawals : ∀ tx ∈ ids, l.withdrawals tx = l'.withdrawals tx
  readOutageOf : ∀ tx ∈ ids, l.readOutageOf tx = l'.readOutageOf tx
  readOutage : l.readOutage = l'.readOutage
  submitOutage : l.submitOutage = l'.submitOutage
  noticeOutage : l.noticeOutage = l'.noticeOutage
  autoComplete : l.autoComplete = l'.autoComplete

namespace AgreesOn

variable {l l' : Ledger}

theorem refl (ids : List TransferId) (l : Ledger) : AgreesOn ids l l :=
  ⟨fun _ _ => rfl, fun _ _ => rfl, fun _ _ => rfl, fun _ _ => rfl, rfl, rfl, rfl, rfl⟩

theorem mark (h : AgreesOn ids l l') (txs : List TransferId) :
    AgreesOn ids (l.mark true txs) (l'.mark true txs) :=
  { h with
    completed := fun tx mem => by rw [completed_mark_eq, completed_mark_eq, h.completed tx mem] }

/-- Completing other transfers changes nothing under the identifiers. -/
theorem mark_left (h : AgreesOn ids l l') {txs : List TransferId} (others : ∀ tx ∈ txs, tx ∉ ids) :
    AgreesOn ids (l.mark true txs) l' := by
  refine { h with completed := fun tx mem => ?_ }
  have hother : tx ∉ txs := fun htx => others tx htx mem
  rw [completed_mark_eq, decide_eq_false hother, Bool.or_false]
  exact h.completed tx mem

theorem outageOf (h : AgreesOn ids l l') {tx : TransferId} (mem : tx ∈ ids) :
    l.outageOf tx = l'.outageOf tx := by
  unfold Ledger.outageOf
  rw [h.readOutage, h.readOutageOf tx mem]

theorem read {γ : Type} (h : AgreesOn ids l l') {tx : TransferId} (mem : tx ∈ ids)
    {value value' : Except ReadFault γ} (same : value = value') :
    l.read tx value = l'.read tx value' := by
  unfold Ledger.read
  rw [h.outageOf mem, same]

end AgreesOn

end Ledger

/-! ## Calls -/

/-- The identifier that a call reads or completes. A small transfer completes none, and neither does
a notice. -/
def Call.about? : Call → Option TransferId
  | .isCompleted tx | .rechargeData tx | .withdrawData tx => some tx
  | .sendInvalidWithdraw _ tx | .submitRecharge tx _ | .submitRefund tx => some tx
  | .submitSmallTransfer _ _ | .notifyAccepted _ => none

namespace Ledger

/-- Chains with the same switches take a submission alike, and complete the same by it. -/
theorem exists_mark_of_submit {γ : Type} (tx : TransferId) (value : γ) (l : Ledger) :
    ∃ txs, (∀ key ∈ txs, key = tx) ∧ ∀ l', AgreesOn ids l' l →
      (l'.submit tx value).1 = (l.submit tx value).1 ∧
        (l'.submit tx value).2 = l'.mark true txs := by
  cases outage : l.submitOutage with
  | some reason =>
    refine ⟨[], nofun, fun l' agrees => ?_⟩
    simp only [submit, agrees.submitOutage, outage]
    exact ⟨trivial, rfl⟩
  | none =>
    refine ⟨if l.autoComplete then [tx] else [], ?_, fun l' agrees => ?_⟩
    · intro key hkey
      split at hkey
      · exact List.mem_singleton.mp hkey
      · cases hkey
    · simp only [submit, agrees.submitOutage, agrees.autoComplete, outage]
      refine ⟨trivial, ?_⟩
      split <;> rfl

/-- Whatever is submitted, it completes no transfer but its own. -/
theorem exists_mark_of_submission {c : Call} (submission : c.isSubmission = true) (l : Ledger) :
    ∃ txs, (∀ key ∈ txs, c.about? = some key) ∧ ∀ l', AgreesOn ids l' l →
      (answer c l').1 = (answer c l).1 ∧ (answer c l').2 = l'.mark true txs := by
  cases c with
  | sendInvalidWithdraw signature tx =>
    obtain ⟨txs, hown, hsubmit⟩ := exists_mark_of_submit tx () l
    exact ⟨txs, fun key mem => congrArg some (hown key mem).symm, hsubmit⟩
  | submitRecharge tx data =>
    obtain ⟨txs, hown, hsubmit⟩ := exists_mark_of_submit tx rechargeReceipt l
    exact ⟨txs, fun key mem => congrArg some (hown key mem).symm, hsubmit⟩
  | submitRefund tx =>
    obtain ⟨txs, hown, hsubmit⟩ := exists_mark_of_submit tx refundReceipt l
    exact ⟨txs, fun key mem => congrArg some (hown key mem).symm, hsubmit⟩
  | submitSmallTransfer signature rawTx =>
    refine ⟨[], nofun, fun l' agrees => ?_⟩
    simp only [answer, agrees.submitOutage]
    split <;> exact ⟨rfl, rfl⟩
  | _ => cases submission

/-- Chains that agree answer a call alike, and complete the same by it. -/
theorem exists_mark_of_answer {c : Call} (about : ∀ tx, c.about? = some tx → tx ∈ ids)
    (l : Ledger) :
    ∃ txs, (∀ tx ∈ txs, tx ∈ ids) ∧ ∀ l', AgreesOn ids l' l →
      (answer c l').1 = (answer c l).1 ∧ (answer c l').2 = l'.mark true txs := by
  by_cases submission : c.isSubmission = true
  · obtain ⟨txs, hown, hanswer⟩ := exists_mark_of_submission submission l
    exact ⟨txs, fun tx mem => about tx (hown tx mem), hanswer⟩
  · cases c with
    | isCompleted tx =>
      refine ⟨[], nofun, fun l' agrees => ⟨?_, rfl⟩⟩
      have mem := about tx rfl
      exact agrees.read mem (by rw [agrees.completed tx mem])
    | rechargeData tx =>
      refine ⟨[], nofun, fun l' agrees => ⟨?_, rfl⟩⟩
      have mem := about tx rfl
      exact agrees.read mem (by rw [agrees.recharges tx mem])
    | withdrawData tx =>
      refine ⟨[], nofun, fun l' agrees => ⟨?_, rfl⟩⟩
      have mem := about tx rfl
      exact agrees.read mem (by rw [agrees.withdrawals tx mem])
    | notifyAccepted tx =>
      refine ⟨[], nofun, fun l' agrees => ?_⟩
      simp only [answer, agrees.noticeOutage]
      split <;> exact ⟨rfl, rfl⟩
    | _ => exact absurd rfl submission

end Ledger

/-! ## Plans -/

namespace Plan

/-- A plan reads and completes no transfers but some. -/
inductive About (ids : List TransferId) : Plan α → Prop
  | done (a : α) : About ids (.done a)
  | call {c : Call} {next : c.Answer → Plan α} (about : ∀ tx, c.about? = some tx → tx ∈ ids)
      (rest : ∀ answer, About ids (next answer)) : About ids (.call c next)
  | flags {txs : List TransferId} {next : Except ReadFault (List Bool) → Plan α}
      (about : ∀ tx ∈ txs, tx ∈ ids) (rest : ∀ r, About ids (next r)) :
      About ids (.flags txs next)
  | count {component : Component} {series : Series} {next : Plan α} (rest : About ids next) :
      About ids (.count component series next)
  | notify {tx : TransferId} {next : Plan α} (rest : About ids next) : About ids (.notify tx next)

theorem About.bind {p : Plan α} {f : α → Plan β} (hp : p.About ids) (hf : ∀ a, (f a).About ids) :
    (p.bind f).About ids := by
  induction hp with
  | done a => exact hf a
  | call about rest ih => exact .call about ih
  | flags about rest ih => exact .flags about ih
  | count rest ih => exact .count ih
  | notify rest ih => exact .notify ih

end Plan

/-- A task of two parts is about what both parts are about. -/
theorem Task.about_bind {x : Task α} {f : α → Task β} (hx : x.run.About ids)
    (hf : ∀ a, (f a).run.About ids) : (x >>= f).run.About ids := by
  refine hx.bind fun r => ?_
  cases r with
  | error fault => exact .done _
  | ok a => exact hf a

/-! ## What a plan comes to -/

/-- What a plan comes to: its result, the transfers that it completes, and what it counts. -/
structure Effect (α : Type) where
  result : α
  completed : List TransferId
  counted : List Series

/-- Something that has been done to a world had an effect. -/
structure Effect.On (e : Effect α) (w : World Ledger) (after : α × World Ledger) : Prop where
  result : after.1 = e.result
  chain : after.2.chain = w.chain.mark true e.completed
  metrics : after.2.metrics = w.metrics.bumpAll e.counted

section Running

variable (counts : Component → Bool) (window : Nat)

theorem Ledger.AgreesOn.readFlags {l l' : Ledger} (agrees : AgreesOn ids l' l)
    {txs : List TransferId} (about : ∀ tx ∈ txs, tx ∈ ids) (w w' : World Ledger)
    (hw : w.chain = l) (hw' : w'.chain = l') :
    ((Ledger.service counts window).readFlags txs w').1 =
      ((Ledger.service counts window).readFlags txs w).1 := by
  have hreads : txs.map ((readable counts window).read w'.chain) =
      txs.map ((readable counts window).read w.chain) := by
    refine List.map_congr_left fun tx mem => ?_
    rw [hw, hw']
    exact agrees.read (about tx mem) (by rw [agrees.completed tx (about tx mem)])
  rw [Deployment.readFlags_eq_sequential, Deployment.readFlags_eq_sequential,
    (readable counts window).readEach_eq, (readable counts window).readEach_eq, hreads]

/-- A plan comes to the same on all chains that agree on what it is about. -/
theorem Plan.About.run {p : Plan α} (h : p.About ids) (l : Ledger) :
    ∃ e : Effect α, (∀ tx ∈ e.completed, tx ∈ ids) ∧ ∀ w : World Ledger, w.chain.AgreesOn ids l →
      e.On w (p.run (Ledger.service counts window) w) := by
  induction h generalizing l with
  | done a => exact ⟨⟨a, [], []⟩, nofun, fun w _ => ⟨rfl, rfl, rfl⟩⟩
  | @call c next about rest ih =>
    obtain ⟨txs, hids, hanswer⟩ := Ledger.exists_mark_of_answer about l
    -- the rest of the plan goes on behind the answer of `l`, which is that of all the chains
    obtain ⟨e, heids, he⟩ := ih (Ledger.answer c l).1 (l.mark true txs)
    refine ⟨⟨e.result, txs ++ e.completed, e.counted⟩, ?_, fun w agrees => ?_⟩
    · exact fun tx mem => (List.mem_append.mp mem).elim (hids tx) (heids tx)
    · obtain ⟨hsame, hmark⟩ := hanswer w.chain agrees
      have hafter := he ((Ledger.service counts window).perform c w).2
        (by show (Ledger.answer c w.chain).2.AgreesOn ids _; rw [hmark]; exact agrees.mark txs)
      have hrest : (Plan.call c next).run (Ledger.service counts window) w =
          (next (Ledger.answer c l).1).run (Ledger.service counts window)
            ((Ledger.service counts window).perform c w).2 := by
        rw [← hsame]
        rfl
      rw [hrest]
      refine ⟨hafter.result, ?_, hafter.metrics⟩
      rw [hafter.chain, Ledger.mark_append]
      exact congrArg (Ledger.mark true e.completed) hmark
  | @flags txs next about rest ih =>
    -- the flags are read off one of the chains, and are those of all the others
    let base : World Ledger := ⟨l, .empty, [], []⟩
    obtain ⟨e, heids, he⟩ := ih ((Ledger.service counts window).readFlags txs base).1 l
    refine ⟨e, heids, fun w agrees => ?_⟩
    obtain ⟨events, hworld⟩ := (Ledger.readable counts window).world_readFlags txs w
    have hflags := agrees.readFlags counts window about base w rfl rfl
    have hrest : (Plan.flags txs next).run (Ledger.service counts window) w =
        (next ((Ledger.service counts window).readFlags txs base).1).run
          (Ledger.service counts window) { w with log := events ++ w.log } := by
      rw [← hworld, ← hflags]
      rfl
    have hafter := he { w with log := events ++ w.log } agrees
    rw [hrest]
    exact ⟨hafter.result, hafter.chain, hafter.metrics⟩
  | @count component series next rest ih =>
    obtain ⟨e, heids, he⟩ := ih l
    refine ⟨⟨e.result, e.completed, (if counts component then [series] else []) ++ e.counted⟩,
      heids, fun w agrees => ?_⟩
    have hafter := he ((Ledger.service counts window).tally component series w)
      (by rwa [Deployment.chain_tally])
    refine ⟨hafter.result, ?_, ?_⟩
    · exact hafter.chain.trans (by rw [Deployment.chain_tally])
    · refine hafter.metrics.trans ?_
      rw [Metrics.bumpAll_append, Deployment.tally]
      split <;> rfl
  | @notify tx next rest ih =>
    obtain ⟨e, heids, he⟩ := ih l
    refine ⟨e, heids, fun w agrees => ?_⟩
    have hafter := he { w with notices := w.notices ++ [tx] } agrees
    exact ⟨hafter.result, hafter.chain, hafter.metrics⟩

/-- A notice as the chain sees it. -/
def Ledger.noticed (l : Ledger) (tx : TransferId) : Event :=
  ⟨.notifyAccepted tx, l.noticeOutage.isSome⟩

theorem Ledger.perform_notifyAccepted (tx : TransferId) (w : World Ledger) :
    ((Ledger.service counts window).perform (.notifyAccepted tx) w).2 =
      { w with log := w.chain.noticed tx :: w.log } := by
  obtain ⟨l, metrics, log, notices⟩ := w
  cases houtage : l.noticeOutage <;>
    simp [Deployment.perform, Ledger.answer, Ledger.noticed, houtage, Call.failed]

/-- Notices are seen by the chain and change nothing else. -/
theorem Ledger.deliver_eq (w : World Ledger) :
    (Ledger.service counts window).deliver w =
      ⟨w.chain, w.metrics, (w.notices.map w.chain.noticed).reverse ++ w.log, []⟩ := by
  have hfold : ∀ (txs : List TransferId) (w : World Ledger),
      txs.foldl (fun w tx => ((Ledger.service counts window).perform (.notifyAccepted tx) w).2) w =
        { w with log := (txs.map w.chain.noticed).reverse ++ w.log } := by
    intro txs
    induction txs with
    | nil => exact fun w => rfl
    | cons tx txs ih =>
      intro w
      rw [List.foldl_cons, Ledger.perform_notifyAccepted, ih, List.map_cons, List.reverse_cons,
        List.append_assoc]
      rfl
  exact hfold w.notices { w with notices := [] }

/-- What a plan comes to does not change when its notices have gone out. -/
theorem Plan.About.complete {p : Plan α} (h : p.About ids) (l : Ledger) :
    ∃ e : Effect α, (∀ tx ∈ e.completed, tx ∈ ids) ∧ ∀ w : World Ledger, w.chain.AgreesOn ids l →
      e.On w (p.complete (Ledger.service counts window) w) := by
  obtain ⟨e, heids, he⟩ := h.run counts window l
  refine ⟨e, heids, fun w agrees => ?_⟩
  have hrun := he w agrees
  have hdeliver := Ledger.deliver_eq counts window (p.run (Ledger.service counts window) w).2
  refine ⟨hrun.result, ?_, ?_⟩
  · exact (congrArg World.chain hdeliver).trans hrun.chain
  · exact (congrArg World.metrics hdeliver).trans hrun.metrics

/-! ## Plans one after the other -/

/-- Of plans about different identifiers it does not matter which goes first. -/
theorem Plan.About.complete_comm {others : List TransferId} {p : Plan α} {q : Plan β}
    (hp : p.About ids) (hq : q.About others) (apart : ∀ tx ∈ ids, tx ∉ others)
    (w : World Ledger) :
    let d := Ledger.service counts window
    let first := p.complete d w
    let second := q.complete d first.2
    let first' := q.complete d w
    let second' := p.complete d first'.2
    first.1 = second'.1 ∧ second.1 = first'.1 ∧ second.2.chain = second'.2.chain ∧
      second.2.metrics = second'.2.metrics := by
  intro d first second first' second'
  obtain ⟨e, heids, he⟩ := hp.complete counts window w.chain
  obtain ⟨e', heids', he'⟩ := hq.complete counts window w.chain
  have hfirst : e.On w first := he w (.refl _ _)
  have hfirst' : e'.On w first' := he' w (.refl _ _)
  -- what the one has completed is nothing that the other is about
  have hsecond : e'.On first.2 second := by
    refine he' first.2 ?_
    rw [hfirst.chain]
    exact (Ledger.AgreesOn.refl _ _).mark_left fun tx mem => apart tx (heids tx mem)
  have hsecond' : e.On first'.2 second' := by
    refine he first'.2 ?_
    rw [hfirst'.chain]
    exact (Ledger.AgreesOn.refl _ _).mark_left fun tx mem hids => apart tx hids (heids' tx mem)
  refine ⟨hfirst.result.trans hsecond'.result.symm,
    hsecond.result.trans hfirst'.result.symm, ?_, ?_⟩
  · rw [hsecond.chain, hsecond'.chain, hfirst.chain, hfirst'.chain, Ledger.mark_comm]
  · rw [hsecond.metrics, hsecond'.metrics, hfirst.metrics, hfirst'.metrics, Metrics.bumpAll_comm]

end Running

end TransferRelay

import Mathlib.Algebra.Ring.Int.Defs
import TransferRelay.Proofs.Chain.Coupling
import TransferRelay.Proofs.Chain.Endings
import TransferRelay.Proofs.Chain.Locality

/-!
# Plans that look before they act

A plan `LooksFirst` if it makes one read of the ledger at most, before anything else, and then only
submits and counts. On a chain in memory, what it does is two deeds (`Takes`): its look depends on
the chain, and its act only on the answer to the look, whatever has been completed since.

In a race every plan has its look before the first acts, so the deeds of each are those it would do
if it ran alone (`race_of_looksFirst`).
-/

namespace TransferRelay

variable {α β ι : Type}

/-! ## What calls are for -/

/-- What a call is for. -/
inductive CallRole
  | read
  | submission
  | notice
deriving DecidableEq

/-- What a call is for. -/
def Call.role : Call → CallRole
  | .isCompleted _ | .rechargeData _ | .withdrawData _ => .read
  | .sendInvalidWithdraw _ _ | .submitSmallTransfer _ _ | .submitRecharge _ _ | .submitRefund _ =>
    .submission
  | .notifyAccepted _ => .notice

theorem Call.role_of_isSubmission {c : Call} (h : c.isSubmission = true) :
    c.role = .submission := by
  cases c <;> first | rfl | cases h

/-- The calls for something that a world has seen, first to last. -/
def World.seen {σ : Type} (role : CallRole) (w : World σ) : List Event :=
  w.log.reverse.filter fun e => e.call.role = role

theorem World.role_of_mem_seen {σ : Type} {role : CallRole} {w : World σ} {e : Event}
    (h : e ∈ w.seen role) : e.call.role = role :=
  of_decide_eq_true (List.mem_filter.mp h).2

/-- Of events that are all for one thing, either all are for a thing or none. -/
theorem filter_role {es : List Event} {role other : CallRole}
    (h : ∀ e ∈ es, e.call.role = role) :
    (es.filter fun e => e.call.role = other) = if role = other then es else [] := by
  by_cases same : role = other
  · rw [if_pos same, List.filter_eq_self]
    intro e mem
    exact decide_eq_true ((h e mem).trans same)
  · rw [if_neg same, List.filter_eq_nil_iff]
    intro e mem hother
    exact same ((h e mem).symm.trans (of_decide_eq_true hother))

/-- A log of reads, then submissions, then notices. -/
theorem World.seen_of_log {σ : Type} {w : World σ} {reads submissions notices : List Event}
    (log : w.log.reverse = reads ++ submissions ++ notices)
    (hreads : ∀ e ∈ reads, e.call.role = .read)
    (hsubmissions : ∀ e ∈ submissions, e.call.role = .submission)
    (hnotices : ∀ e ∈ notices, e.call.role = .notice) :
    w.seen .read = reads ∧ w.seen .submission = submissions ∧ w.seen .notice = notices := by
  unfold seen
  rw [log]
  simp only [List.filter_append, filter_role hreads, filter_role hsubmissions,
    filter_role hnotices]
  simp

/-! ## Deeds -/

/-- What is done to a world: an effect, the calls that are made, and the notices that are left. -/
structure Deed (α : Type) extends Effect α where
  events : List Event
  notices : List TransferId

namespace Deed

/-- The world after a deed. -/
def after (e : Deed α) (w : World Ledger) : World Ledger :=
  ⟨w.chain.mark true e.completed, w.metrics.bumpAll e.counted, e.events.reverse ++ w.log,
    w.notices ++ e.notices⟩

/-- Nothing is done. -/
def still (a : α) : Deed α :=
  ⟨⟨a, [], []⟩, [], []⟩

/-- One deed and then another. -/
def andThen (e : Deed α) (f : Deed β) : Deed β :=
  ⟨⟨f.result, e.completed ++ f.completed, e.counted ++ f.counted⟩, e.events ++ f.events,
    e.notices ++ f.notices⟩

/-- The deeds of many, one after the other. -/
def join (e : ι → Deed α) (is : List ι) : Deed (List α) :=
  ⟨⟨is.map fun i => (e i).result, is.flatMap fun i => (e i).completed,
    is.flatMap fun i => (e i).counted⟩, is.flatMap fun i => (e i).events,
    is.flatMap fun i => (e i).notices⟩

theorem after_still (a : α) (w : World Ledger) : (still a).after w = w := by
  obtain ⟨chain, metrics, log, notices⟩ := w
  simp [after, still, Ledger.mark, Metrics.bumpAll]

theorem after_andThen (e : Deed α) (f : Deed β) (w : World Ledger) :
    (e.andThen f).after w = f.after (e.after w) := by
  simp only [after, andThen, Ledger.mark_append, Metrics.bumpAll_append, List.reverse_append,
    List.append_assoc]

theorem after_join_nil (e : ι → Deed α) (w : World Ledger) : (join e []).after w = w :=
  after_still [] w

theorem after_join_cons (e : ι → Deed α) (i : ι) (is : List ι) (w : World Ledger) :
    (join e (i :: is)).after w = (join e is).after ((e i).after w) :=
  after_andThen (e i) (join e is) w

theorem agrees_after (e : Deed α) {w : World Ledger} {l : Ledger}
    (agrees : w.chain.AgreesOn [] l) : (e.after w).chain.AgreesOn [] l :=
  agrees.mark_left fun _ _ => List.not_mem_nil

/-- A deed that only looks and one that only acts on it. -/
structure Precedes (look : Deed β) (act : Deed α) : Prop where
  looks : ∀ e ∈ look.events, e.call.role = .read
  completesNone : look.completed = []
  leavesNone : look.notices = []
  submits : ∀ e ∈ act.events, e.call.role = .submission

theorem Precedes.join {look : ι → Deed β} {act : ι → Deed α} {is : List ι}
    (h : ∀ i ∈ is, (look i).Precedes (act i)) :
    (join look is).Precedes (Deed.join act is) := by
  constructor
  · intro e mem
    obtain ⟨i, hi, he⟩ := List.mem_flatMap.mp mem
    exact (h i hi).looks e he
  · exact List.flatMap_eq_nil_iff.mpr fun i hi => (h i hi).completesNone
  · exact List.flatMap_eq_nil_iff.mpr fun i hi => (h i hi).leavesNone
  · intro e mem
    obtain ⟨i, hi, he⟩ := List.mem_flatMap.mp mem
    exact (h i hi).submits e he

section Settling

variable (counts : Component → Bool) (window : Nat) {look : Deed β} {act : Deed α}

/-- The world when somebody has looked and acted, and the notices have gone out. -/
def settled (look : Deed β) (act : Deed α) (w : World Ledger) : World Ledger :=
  (Ledger.service counts window).deliver (act.after (look.after w))

variable (h : look.Precedes act) {w : World Ledger} (quiet : w.notices = [])

theorem count_settled (s : Series) :
    (settled counts window look act w).metrics.count s =
      w.metrics.count s + look.counted.count s + act.counted.count s := by
  rw [settled, Ledger.deliver_eq]
  show ((w.metrics.bumpAll look.counted).bumpAll act.counted).count s = _
  rw [Metrics.count_bumpAll, Metrics.count_bumpAll]

include h

theorem Precedes.chain_settled :
    (settled counts window look act w).chain = w.chain.mark true act.completed := by
  rw [settled, Ledger.deliver_eq]
  show (w.chain.mark true look.completed).mark true act.completed = _
  rw [h.completesNone]
  rfl

include quiet

/-- What the chain has seen: the look, the act, and the notices. -/
theorem Precedes.log_settled (log : w.log = []) :
    (settled counts window look act w).log.reverse =
      look.events ++ act.events ++ act.notices.map w.chain.noticed := by
  rw [settled, Ledger.deliver_eq]
  show (((w.notices ++ look.notices ++ act.notices).map w.chain.noticed).reverse ++
    (act.events.reverse ++ (look.events.reverse ++ w.log))).reverse = _
  rw [quiet, h.leavesNone, log]
  simp

theorem Precedes.seen_settled (log : w.log = []) :
    (settled counts window look act w).seen .read = look.events ∧
      (settled counts window look act w).seen .submission = act.events ∧
      (settled counts window look act w).seen .notice = act.notices.map w.chain.noticed := by
  refine World.seen_of_log (h.log_settled counts window quiet log) h.looks h.submits ?_
  intro e mem
  obtain ⟨tx, -, rfl⟩ := List.mem_map.mp mem
  rfl

end Settling

/-! ### Together -/

/-- What is complete after some have acted was complete before or is what one of them completes. -/
theorem completed_mark_flatMap (l : Ledger) (f : ι → List TransferId) (is : List ι)
    (tx : TransferId) : (l.mark true (is.flatMap f)).completed tx = true ↔
      (∃ i ∈ is, (l.mark true (f i)).completed tx = true) ∨
        (is = [] ∧ l.completed tx = true) := by
  simp only [Ledger.completed_mark_eq, Bool.or_eq_true, decide_eq_true_eq, List.mem_flatMap]
  cases is with
  | nil => simp
  | cons i is =>
    constructor
    · rintro (before | ⟨j, hj, mem⟩)
      · exact .inl ⟨i, List.mem_cons_self, .inl before⟩
      · exact .inl ⟨j, hj, .inr mem⟩
    · rintro (⟨j, hj, before | mem⟩ | ⟨hnil, -⟩)
      · exact .inl before
      · exact .inr ⟨j, hj, mem⟩
      · cases hnil

/-- Series are counted of many as often as of each. -/
theorem count_flatMap_eq_sum (f g : ι → List Series) (is : List ι) (s : Series) :
    (((is.flatMap f).count s + (is.flatMap g).count s : Nat) : Int) =
      (is.map fun i => (((f i).count s + (g i).count s : Nat) : Int)).sum := by
  induction is with
  | nil => rfl
  | cons i is ih =>
    rw [List.flatMap_cons, List.flatMap_cons, List.count_append, List.count_append, List.map_cons,
      List.sum_cons, ← ih]
    omega

section Together

variable (counts : Component → Bool) (window : Nat) {look : ι → Deed β} {act : ι → Deed α}
  {is : List ι}

/-- Many count together what each of them counts. -/
theorem counted_settled_join (w : World Ledger) (s : Series) :
    ((settled counts window (join look is) (join act is) w).metrics.count s : Int) -
        w.metrics.count s =
      (is.map fun i => ((settled counts window (look i) (act i) w).metrics.count s : Int) -
        w.metrics.count s).sum := by
  have heach : ∀ i, ((settled counts window (look i) (act i) w).metrics.count s : Int) -
      w.metrics.count s = ((look i).counted.count s + (act i).counted.count s : Nat) := by
    intro i
    rw [count_settled]
    omega
  rw [List.map_congr_left fun i _ => heach i, ← count_flatMap_eq_sum, count_settled]
  show ((w.metrics.count s + (is.flatMap fun i => (look i).counted).count s +
    (is.flatMap fun i => (act i).counted).count s : Nat) : Int) - w.metrics.count s = _
  omega

variable (h : ∀ i ∈ is, (look i).Precedes (act i))

include h

/-- Many complete together what one of them completes. -/
theorem completed_settled_join (w : World Ledger) (tx : TransferId) :
    (settled counts window (join look is) (join act is) w).chain.completed tx = true ↔
      (∃ i ∈ is, (settled counts window (look i) (act i) w).chain.completed tx = true) ∨
        (is = [] ∧ w.chain.completed tx = true) := by
  have heach : (∃ i ∈ is, (settled counts window (look i) (act i) w).chain.completed tx = true) ↔
      ∃ i ∈ is, (w.chain.mark true (act i).completed).completed tx = true := by
    refine exists_congr fun i => and_congr_right fun mem => ?_
    rw [(h i mem).chain_settled]
  rw [(Precedes.join h).chain_settled, heach]
  exact completed_mark_flatMap w.chain _ is tx

/-- What the chain has seen of many: what it has seen of each, the looks of all before any acts. -/
theorem log_settled_join {w : World Ledger} (quiet : w.notices = []) (log : w.log = []) :
    let part role := is.flatMap fun i => (settled counts window (look i) (act i) w).seen role
    (settled counts window (join look is) (join act is) w).log.reverse =
      part .read ++ part .submission ++ part .notice := by
  intro part
  have hseen := fun i (mem : i ∈ is) => (h i mem).seen_settled counts window quiet log
  have hpart : ∀ (role : CallRole) (events : ι → List Event),
      (∀ i ∈ is, (settled counts window (look i) (act i) w).seen role = events i) →
      part role = is.flatMap events :=
    fun role events heach => congrArg List.flatten (List.map_congr_left heach)
  have hreads := hpart .read _ fun i mem => (hseen i mem).1
  have hsubmissions := hpart .submission _ fun i mem => (hseen i mem).2.1
  have hnotices := hpart .notice _ fun i mem => (hseen i mem).2.2
  rw [hreads, hsubmissions, hnotices, ← List.map_flatMap]
  exact (Precedes.join h).log_settled counts window quiet log

end Together

end Deed

/-! ## Plans -/

namespace Plan

/-- A plan that looks at nothing: it submits, counts and leaves notices. -/
inductive Acts : Plan α → Prop
  | done (a : α) : Acts (.done a)
  | submit {c : Call} {next : c.Answer → Plan α} (submission : c.isSubmission = true)
      (goesOn : ∀ answer, Acts (next answer)) : Acts (.call c next)
  | count {component : Component} {series : Series} {next : Plan α} (goesOn : Acts next) :
      Acts (.count component series next)
  | notify {tx : TransferId} {next : Plan α} (goesOn : Acts next) : Acts (.notify tx next)

theorem Acts.bind {p : Plan α} {f : α → Plan β} (hp : p.Acts) (hf : ∀ a, (f a).Acts) :
    (p.bind f).Acts := by
  induction hp with
  | done a => exact hf a
  | submit submission goesOn ih => exact .submit submission ih
  | count goesOn ih => exact .count ih
  | notify goesOn ih => exact .notify ih

/-- A plan that looks once, before anything else, or does nothing but count. -/
inductive LooksFirst : Plan α → Prop
  | idle {p : Plan α} (idle : p.Idle) : LooksFirst p
  | look {tx : TransferId} {next : (Call.isCompleted tx).Answer → Plan α}
      (acts : ∀ answer, (next answer).Acts) : LooksFirst (.call (.isCompleted tx) next)

theorem Idle.acts {p : Plan α} (h : p.Idle) : p.Acts := by
  induction h with
  | done a => exact .done a
  | count rest ih => exact .count ih

/-- A plan that looks first may count at its end. -/
theorem LooksFirst.bind {p : Plan α} {f : α → Plan β} (hp : p.LooksFirst)
    (hf : ∀ a, (f a).Idle) : (p.bind f).LooksFirst := by
  cases hp with
  | idle idle => exact .idle (idle.bind hf)
  | look acts => exact .look fun answer => (acts answer).bind fun a => (hf a).acts

/-- A plan that does not look is over with its first turn, and a turn of it is a run. -/
theorem Acts.turn_eq {σ : Type} {p : Plan α} (h : p.Acts) (d : Deployment σ) (w : World σ) :
    p.turn d w = (.done (p.run d w).1, (p.run d w).2) := by
  induction h generalizing w with
  | done a => rfl
  | @submit c next submission goesOn ih =>
    have hreads : c.readsLedger = false := by cases c <;> first | rfl | cases submission
    have hturn : (Plan.call c next).turn d w =
        if c.readsLedger then (next (d.perform c w).1, (d.perform c w).2)
        else (next (d.perform c w).1).turn d (d.perform c w).2 := rfl
    rw [hturn, hreads, if_neg Bool.false_ne_true, ih]
    rfl
  | count goesOn ih => exact ih _
  | notify goesOn ih => exact ih _

section Doing

variable (counts : Component → Bool) (window : Nat)

/-- What is counted of one more in a series. -/
def counted (component : Component) (series : Series) : List Series :=
  if counts component then [series] else []

theorem tally_eq (component : Component) (series : Series) (w : World Ledger) :
    (Ledger.service counts window).tally component series w =
      (⟨⟨(), [], counted counts component series⟩, [], []⟩ : Deed Unit).after w := by
  obtain ⟨chain, metrics, log, notices⟩ := w
  unfold Deployment.tally counted
  split <;> simp [Deed.after, Ledger.mark, Metrics.bumpAll]

/-- **A plan that does not look does the same on all chains with the same switches.** -/
theorem Acts.exists_deed {p : Plan α} (h : p.Acts) (l : Ledger) :
    ∃ e : Deed α, (∀ event ∈ e.events, event.call.role = .submission) ∧
      ∀ w : World Ledger, w.chain.AgreesOn [] l →
        p.run (Ledger.service counts window) w = (e.result, e.after w) := by
  induction h generalizing l with
  | done a => exact ⟨.still a, nofun, fun w _ => Prod.ext rfl (Deed.after_still a w).symm⟩
  | @submit c next submission goesOn ih =>
    obtain ⟨txs, -, hanswer⟩ := Ledger.exists_mark_of_submission submission l
    obtain ⟨e, hevents, he⟩ := ih (Ledger.answer c l).1 l
    let first : Deed Unit := ⟨⟨(), txs, []⟩, [⟨c, c.failed (Ledger.answer c l).1⟩], []⟩
    refine ⟨first.andThen e, ?_, fun w agrees => ?_⟩
    · intro event mem
      rcases List.mem_cons.mp mem with rfl | mem
      · exact Call.role_of_isSubmission submission
      · exact hevents event mem
    · obtain ⟨hsame, hmark⟩ := hanswer w.chain agrees
      have hworld : ((Ledger.service counts window).perform c w).2 = first.after w := by
        show (⟨(Ledger.answer c w.chain).2, w.metrics,
          ⟨c, c.failed (Ledger.answer c w.chain).1⟩ :: w.log, w.notices⟩ : World Ledger) = _
        rw [hmark, hsame, ← List.append_nil w.notices]
        rfl
      have hrest : (Plan.call c next).run (Ledger.service counts window) w =
          (next (Ledger.answer c l).1).run (Ledger.service counts window) (first.after w) := by
        rw [← hsame, ← hworld]
        rfl
      rw [hrest, he _ (first.agrees_after agrees), Deed.after_andThen]
      rfl
  | @count component series next goesOn ih =>
    obtain ⟨e, hevents, he⟩ := ih l
    let first : Deed Unit := ⟨⟨(), [], counted counts component series⟩, [], []⟩
    refine ⟨first.andThen e, hevents, fun w agrees => ?_⟩
    show next.run (Ledger.service counts window)
      ((Ledger.service counts window).tally component series w) = _
    rw [tally_eq, he _ (first.agrees_after agrees), Deed.after_andThen]
    rfl
  | @notify tx next goesOn ih =>
    obtain ⟨e, hevents, he⟩ := ih l
    let first : Deed Unit := ⟨⟨(), [], []⟩, [], [tx]⟩
    refine ⟨first.andThen e, hevents, fun w agrees => ?_⟩
    show next.run (Ledger.service counts window) (first.after w) = _
    rw [he _ (first.agrees_after agrees), Deed.after_andThen]
    rfl

/-- An idle plan counts the same on all chains. -/
theorem Idle.exists_deed {p : Plan α} (h : p.Idle) :
    ∃ (a : α) (series : List Series), ∀ w : World Ledger,
      p.run (Ledger.service counts window) w =
        (a, (⟨⟨a, [], series⟩, [], []⟩ : Deed α).after w) := by
  induction h with
  | done a => exact ⟨a, [], fun w => Prod.ext rfl (Deed.after_still a w).symm⟩
  | @count component series next rest ih =>
    obtain ⟨a, more, hrun⟩ := ih
    refine ⟨a, counted counts component series ++ more, fun w => ?_⟩
    show next.run (Ledger.service counts window)
      ((Ledger.service counts window).tally component series w) = _
    rw [tally_eq, hrun, ← Deed.after_andThen]
    rfl

/-- On a chain in a given state, a plan does two deeds: it looks, and then it acts on what it has
seen, whatever else has been completed in between. -/
structure Takes (l : Ledger) (p : Plan α) (look : Deed (Plan α)) (act : Deed α) : Prop
    extends Deed.Precedes look act where
  first : ∀ w : World Ledger, w.chain = l →
    p.turn (Ledger.service counts window) w = (look.result, look.after w)
  second : ∀ w : World Ledger, w.chain.AgreesOn [] l →
    look.result.turn (Ledger.service counts window) w = (.done act.result, act.after w)
  alone : ∀ w : World Ledger, w.chain = l →
    p.run (Ledger.service counts window) w = (act.result, act.after (look.after w))

theorem LooksFirst.exists_deeds {p : Plan α} (h : p.LooksFirst) (l : Ledger) :
    ∃ look act, Takes counts window l p look act := by
  cases h with
  | idle idle =>
    -- there is nothing to look at, and all that is counted is counted in the first turn
    obtain ⟨a, series, hrun⟩ := idle.exists_deed counts window
    refine ⟨⟨⟨.done a, [], series⟩, [], []⟩, .still a, ⟨nofun, rfl, rfl, nofun⟩, ?_, ?_, ?_⟩
    · intro w _
      rw [idle.acts.turn_eq, hrun]
      rfl
    · intro w _
      rw [Deed.after_still]
      rfl
    · intro w _
      rw [Deed.after_still, hrun]
      rfl
  | @look tx next acts =>
    let answer : (Call.isCompleted tx).Answer := (Ledger.answer (.isCompleted tx) l).1
    let look : Deed (Plan α) :=
      ⟨⟨next answer, [], []⟩, [⟨.isCompleted tx, Call.failed _ answer⟩], []⟩
    obtain ⟨act, hsubmits, hact⟩ := (acts answer).exists_deed counts window l
    have hlook : ∀ w : World Ledger, w.chain = l →
        (Ledger.service counts window).perform (.isCompleted tx) w = (answer, look.after w) := by
      rintro ⟨chain, metrics, log, notices⟩ rfl
      refine Prod.ext rfl ?_
      simp [look, Deed.after, Deployment.perform, Ledger.mark, Metrics.bumpAll, Ledger.answer,
        answer]
    have hread : ∀ e ∈ look.events, e.call.role = .read := by
      intro e mem
      obtain rfl := List.mem_singleton.mp mem
      rfl
    refine ⟨look, act, ⟨hread, rfl, rfl, hsubmits⟩, ?_, ?_, ?_⟩
    · intro w hw
      rw [Plan.turn, hlook w hw]
      rfl
    · intro w agrees
      rw [(acts answer).turn_eq, hact w agrees]
    · intro w hw
      rw [Plan.run, hlook w hw]
      refine hact _ (look.agrees_after ?_)
      rw [hw]
      exact .refl [] l

/-! ## Side by side -/

/-- A round of turns, each of which is a deed on the chains of some sort. -/
theorem turns_eq (I : Ledger → Prop) {f : ι → Plan α} {e : ι → Deed (Plan α)} {is : List ι}
    (step : ∀ i ∈ is, ∀ w : World Ledger, I w.chain →
      (f i).turn (Ledger.service counts window) w = ((e i).result, (e i).after w) ∧
        I ((e i).after w).chain)
    {w : World Ledger} (hw : I w.chain) :
    turns (Ledger.service counts window) (is.map f) w =
      ((Deed.join e is).result, (Deed.join e is).after w) := by
  induction is generalizing w with
  | nil => exact Prod.ext rfl (Deed.after_join_nil e w).symm
  | cons i is ih =>
    obtain ⟨hturn, hafter⟩ := step i List.mem_cons_self w hw
    have hrest := ih (fun j mem => step j (List.mem_cons_of_mem i mem)) hafter
    rw [List.map_cons, turns, hturn, Deed.after_join_cons]
    simp only [hrest]
    rfl

theorem turns_of_ended {σ : Type} (d : Deployment σ) {ps : List (Plan α)} {as : List α}
    (ended : results? ps = some as) (w : World σ) : turns d ps w = (ps, w) := by
  induction ps generalizing as with
  | nil => rfl
  | cons p ps ih =>
    cases p with
    | done a =>
      obtain ⟨bs, hbs, -⟩ := Option.map_eq_some_iff.mp ended
      simp only [turns, turn, ih hbs]
    | _ => cases ended

/-- A race goes on with a round of turns, also when it is over. -/
theorem race_turns {σ : Type} (d : Deployment σ) (ps : List (Plan α)) {w : World σ}
    (quiet : w.notices = []) :
    race d ps w = race d (turns d ps w).1 (d.deliver (turns d ps w).2) := by
  cases ended : results? ps with
  | none => exact race_of_going d ended w
  | some as => rw [turns_of_ended d ended, d.deliver_of_quiet quiet]

theorem results?_map_done (as : List α) : results? (as.map Plan.done) = some as := by
  induction as with
  | nil => rfl
  | cons a as ih =>
    rw [List.map_cons, results?, ih]
    rfl

/-- Plans that look first race in two rounds: all of them look, and then all of them act. -/
theorem race_of_takes {f : ι → Plan α} {look : ι → Deed (Plan α)} {act : ι → Deed α}
    {is : List ι} {w : World Ledger}
    (takes : ∀ i ∈ is, Takes counts window w.chain (f i) (look i) (act i))
    (quiet : w.notices = []) :
    race (Ledger.service counts window) (is.map f) w =
      ((Deed.join act is).result,
        Deed.settled counts window (Deed.join look is) (Deed.join act is) w) := by
  have hprecedes : (Deed.join look is).Precedes (Deed.join act is) :=
    Deed.Precedes.join fun i mem => (takes i mem).toPrecedes
  have hlooks : turns (Ledger.service counts window) (is.map f) w =
      ((Deed.join look is).result, (Deed.join look is).after w) := by
    -- no look completes anything, so the others look at the same chain
    refine turns_eq counts window (· = w.chain) (fun i mem w' hw' => ?_) rfl
    refine ⟨(takes i mem).first w' hw', ?_⟩
    show w'.chain.mark true (look i).completed = w.chain
    rw [(takes i mem).completesNone]
    exact hw'
  have hacts : ∀ w' : World Ledger, w'.chain.AgreesOn [] w.chain →
      turns (Ledger.service counts window) (Deed.join look is).result w' =
        ((Deed.join act is).result.map .done, (Deed.join act is).after w') := by
    intro w' hw'
    let e : ι → Deed (Plan α) := fun i => { act i with result := .done (act i).result }
    have hstep : ∀ i ∈ is, ∀ w : World Ledger, w.chain.AgreesOn [] _ →
        (look i).result.turn (Ledger.service counts window) w = ((e i).result, (e i).after w) ∧
          ((e i).after w).chain.AgreesOn [] _ :=
      fun i mem w hw => ⟨(takes i mem).second w hw, (e i).agrees_after hw⟩
    refine (turns_eq counts window (·.AgreesOn [] w.chain) hstep hw').trans ?_
    rw [Deed.join, Deed.join, List.map_map]
    rfl
  have hquiet : ((Deed.join look is).after w).notices = [] := by
    show w.notices ++ (Deed.join look is).notices = []
    rw [quiet, hprecedes.leavesNone]
    rfl
  rw [race_turns _ _ quiet, hlooks, Deployment.deliver_of_quiet _ hquiet, race_turns _ _ hquiet,
    hacts _ ((Deed.join look is).agrees_after (.refl [] w.chain)),
    race_of_ended _ (results?_map_done _)]
  rfl

/-- What a plan comes to alone. -/
theorem Takes.complete_eq {p : Plan α} {look : Deed (Plan α)} {act : Deed α} {w : World Ledger}
    (takes : Takes counts window w.chain p look act) :
    p.complete (Ledger.service counts window) w =
      (act.result, Deed.settled counts window look act w) := by
  rw [complete, takes.alone w rfl]
  rfl

/-- What plans come to together is what each of them comes to alone. -/
structure RacedAsAlone (w : World Ledger) (is : List ι) (alone : ι → α × World Ledger)
    (raced : List α × World Ledger) : Prop where
  results : raced.1 = is.map fun i => (alone i).1
  /-- What is submitted, and how that ended, in the order of the plans. -/
  submissions : raced.2.seen .submission = is.flatMap fun i => (alone i).2.seen .submission
  /-- All reads come first, and all notices last. -/
  log : raced.2.log.reverse = (is.flatMap fun i => (alone i).2.seen .read) ++
    (is.flatMap fun i => (alone i).2.seen .submission) ++
    (is.flatMap fun i => (alone i).2.seen .notice)
  completed : ∀ tx, raced.2.chain.completed tx = true ↔
    (∃ i ∈ is, (alone i).2.chain.completed tx = true) ∨
      (is = [] ∧ w.chain.completed tx = true)
  chain : raced.2.chain = { w.chain with completed := raced.2.chain.completed }
  counted : ∀ s, (raced.2.metrics.count s : Int) - w.metrics.count s =
    (is.map fun i => ((alone i).2.metrics.count s : Int) - w.metrics.count s).sum

/-- It is the same what plans come to alone, whichever way that is said. -/
theorem RacedAsAlone.congr {w : World Ledger} {is : List ι} {alone alone' : ι → α × World Ledger}
    {raced : List α × World Ledger} (h : RacedAsAlone w is alone raced)
    (same : ∀ i ∈ is, alone' i = alone i) : RacedAsAlone w is alone' raced := by
  have hmap : ∀ {γ : Type} (g : α × World Ledger → γ),
      (is.map fun i => g (alone i)) = is.map fun i => g (alone' i) :=
    fun g => List.map_congr_left fun i mem => congrArg g (same i mem).symm
  have hparts : ∀ role, (is.flatMap fun i => (alone i).2.seen role) =
      is.flatMap fun i => (alone' i).2.seen role :=
    fun role => congrArg List.flatten (hmap fun ran => ran.2.seen role)
  constructor
  · exact h.results.trans (hmap Prod.fst)
  · exact h.submissions.trans (hparts .submission)
  · rw [h.log, hparts .read, hparts .submission, hparts .notice]
  · intro tx
    rw [h.completed tx]
    refine or_congr_left (exists_congr fun i => and_congr_right fun mem => ?_)
    rw [same i mem]
  · exact h.chain
  · intro s
    rw [h.counted s, hmap fun ran => (ran.2.metrics.count s : Int) - w.metrics.count s]

/-- **Plans that look first race as if each ran alone.** -/
theorem race_of_looksFirst [Inhabited α] {f : ι → Plan α} {is : List ι}
    (looks : ∀ i ∈ is, (f i).LooksFirst) (chain : Ledger) (metrics : Metrics) :
    let d := Ledger.service counts window
    let w : World Ledger := ⟨chain, metrics, [], []⟩
    RacedAsAlone w is (fun i => (f i).complete d w) (race d (is.map f) w) := by
  intro d w
  have : Nonempty (Deed α) := ⟨.still default⟩
  have : Nonempty (Deed (Plan α)) := ⟨.still (.done default)⟩
  have hdeeds : ∀ i ∈ is, ∃ look act, Takes counts window w.chain (f i) look act :=
    fun i mem => (looks i mem).exists_deeds counts window w.chain
  choose! look act takes using hdeeds
  have hprecedes : ∀ i ∈ is, (look i).Precedes (act i) := fun i mem => (takes i mem).toPrecedes
  have halone : ∀ i ∈ is, (f i).complete d w =
      ((act i).result, Deed.settled counts window (look i) (act i) w) :=
    fun i mem => (takes i mem).complete_eq counts window
  have hlog := Deed.log_settled_join counts window hprecedes (w := w) rfl rfl
  have hrole : ∀ role, ∀ e ∈ is.flatMap fun i =>
      (Deed.settled counts window (look i) (act i) w).seen role, e.call.role = role := by
    intro role e mem
    obtain ⟨i, -, he⟩ := List.mem_flatMap.mp mem
    exact World.role_of_mem_seen he
  have htogether : RacedAsAlone w is
      (fun i => ((act i).result, Deed.settled counts window (look i) (act i) w))
      ((Deed.join act is).result,
        Deed.settled counts window (Deed.join look is) (Deed.join act is) w) := by
    constructor
    · rfl
    · exact (World.seen_of_log hlog (hrole .read) (hrole .submission) (hrole .notice)).2.1
    · exact hlog
    · exact Deed.completed_settled_join counts window hprecedes w
    · rw [(Deed.Precedes.join hprecedes).chain_settled]
      rfl
    · exact Deed.counted_settled_join counts window w
  rw [race_of_takes counts window takes rfl]
  exact htogether.congr halone

end Doing

end Plan

end TransferRelay

import TransferRelay.Chain.World

/-!
# What running a plan does to the world

`Plan.Keeps d I p` says that running the plan `p` keeps what `I` says of the world. It is closed
under everything plans are made of, so an operation keeps an invariant once its calls do. An
invariant that no read, count or notice can break is `Stable`; for such an invariant only the
submissions of an operation are left to look at.
-/

namespace TransferRelay

variable {σ α β : Type} {d : Deployment σ} {I : World σ → Prop}

namespace Call

/-- Whether a call only reads the chain. -/
def isRead : Call → Bool
  | .isCompleted _ | .rechargeData _ | .withdrawData _ => true
  | _ => false

/-- Whether a call submits a transfer. -/
def isSubmission : Call → Bool
  | .sendInvalidWithdraw _ _ | .submitSmallTransfer _ _ | .submitRecharge _ _ | .submitRefund _ =>
    true
  | _ => false

/-- Whether a call is a notice. -/
def isNotice : Call → Bool
  | .notifyAccepted _ => true
  | _ => false

end Call

/-! ## Calls, counts and notices

Counting commutes with all else that happens, so counters are carried along and looked at last. -/

namespace Deployment

theorem chain_perform (d : Deployment σ) (c : Call) (w : World σ) :
    (d.perform c w).2.chain = (d.answer c w.chain).2 := rfl

@[simp]
theorem chain_tally (d : Deployment σ) (component : Component) (series : Series) (w : World σ) :
    (d.tally component series w).chain = w.chain := by
  unfold tally
  split <;> rfl

@[simp]
theorem log_tally (d : Deployment σ) (component : Component) (series : Series) (w : World σ) :
    (d.tally component series w).log = w.log := by
  unfold tally
  split <;> rfl

@[simp]
theorem notices_tally (d : Deployment σ) (component : Component) (series : Series)
    (w : World σ) : (d.tally component series w).notices = w.notices := by
  unfold tally
  split <;> rfl

theorem count_tally (d : Deployment σ) (component : Component) (series s : Series) (w : World σ) :
    (d.tally component series w).metrics.count s =
      w.metrics.count s + if d.counts component = true ∧ s = series then 1 else 0 := by
  unfold tally
  split
  · next counts => simp only [Metrics.count_bump, counts, true_and]
  · next silent => simp [silent]

theorem note_tally (d : Deployment σ) (component : Component) (series : Series)
    (txs : List TransferId) (w : World σ) :
    { d.tally component series w with notices := txs } =
      d.tally component series { w with notices := txs } := by
  unfold tally
  split <;> rfl

/-- Counting and calling do not get in each other's way. -/
theorem perform_tally (d : Deployment σ) (component : Component) (series : Series) (c : Call)
    (w : World σ) :
    d.perform c (d.tally component series w) =
      ((d.perform c w).1, d.tally component series (d.perform c w).2) := by
  unfold tally
  split <;> rfl

/-- A call whose answer is known. -/
theorem perform_eq (d : Deployment σ) {c : Call} {w : World σ} {a : c.Answer}
    (answered : (d.answer c w.chain).1 = a) :
    d.perform c w = (a, ⟨(d.answer c w.chain).2, w.metrics, ⟨c, c.failed a⟩ :: w.log,
      w.notices⟩) := by
  subst answered
  rfl

/-- A flag is put in front of those of the rest of a batch. -/
theorem readFlags_cons (d : Deployment σ) {tx : TransferId} {txs : List TransferId}
    {w last : World σ} {flag : Bool} {flags : List Bool}
    (first : (d.perform (.isCompleted tx) w).1 = Except.ok flag)
    (rest : d.readFlags txs (d.perform (.isCompleted tx) w).2 = (.ok flags, last)) :
    d.readFlags (tx :: txs) w = (.ok (flag :: flags), last) := by
  have hread : d.perform (.isCompleted tx) w =
      (Except.ok flag, (d.perform (.isCompleted tx) w).2) := Prod.ext first rfl
  rw [readFlags, hread]
  simp only [rest]

/-- Behind a read that has a flag, the rest of a batch is read. -/
theorem world_readFlags_cons (d : Deployment σ) {tx : TransferId}
    {txs : List TransferId} {w after : World σ} {flag : Bool}
    (h : d.perform (.isCompleted tx) w = (Except.ok flag, after)) :
    (d.readFlags (tx :: txs) w).2 = (d.readFlags txs after).2 := by
  rw [readFlags, h]
  rcases hrest : d.readFlags txs after with ⟨r, last⟩
  cases r <;> simp only [hrest]

theorem readFlags_tally (d : Deployment σ) (component : Component) (series : Series)
    (txs : List TransferId) (w : World σ) :
    d.readFlags txs (d.tally component series w) =
      ((d.readFlags txs w).1, d.tally component series (d.readFlags txs w).2) := by
  induction txs generalizing w with
  | nil => rfl
  | cons tx txs ih =>
    rw [readFlags, readFlags, perform_tally]
    rcases d.perform (.isCompleted tx) w with ⟨read, after⟩
    rcases read with cause | flag
    · rfl
    · simp only [ih]
      rcases d.readFlags txs after with ⟨rest, last⟩
      rcases rest with cause | flags <;> rfl

theorem deliver_tally (d : Deployment σ) (component : Component) (series : Series)
    (w : World σ) :
    d.deliver (d.tally component series w) = d.tally component series (d.deliver w) := by
  have hfold : ∀ (txs : List TransferId) (w : World σ),
      txs.foldl (fun w tx => (d.perform (.notifyAccepted tx) w).2)
          (d.tally component series w) =
        d.tally component series
          (txs.foldl (fun w tx => (d.perform (.notifyAccepted tx) w).2) w) := by
    intro txs
    induction txs with
    | nil => exact fun w => rfl
    | cons tx txs ih => exact fun w => by rw [List.foldl_cons, perform_tally, ih, List.foldl_cons]
  rw [deliver, notices_tally, note_tally, hfold]
  rfl

/-- Where there are no notices, there is nothing to deliver. -/
theorem deliver_of_quiet (d : Deployment σ) {w : World σ} (quiet : w.notices = []) :
    d.deliver w = w := by
  obtain ⟨chain, metrics, log, notices⟩ := w
  cases quiet
  rfl

end Deployment

/-! ## Completing plans -/

namespace Plan

/-- What has been counted before has no influence on a plan. -/
theorem run_tally (d : Deployment σ) (component : Component) (series : Series) (p : Plan α)
    (w : World σ) :
    p.run d (d.tally component series w) =
      ((p.run d w).1, d.tally component series (p.run d w).2) := by
  induction p generalizing w with
  | done a => rfl
  | call c next ih => simp only [run, Deployment.perform_tally, ih]
  | flags txs next ih => simp only [run, Deployment.readFlags_tally, ih]
  | count other more next ih =>
    -- both count into the same metrics, where the order does not show
    have hswap : d.tally other more (d.tally component series w) =
        d.tally component series (d.tally other more w) := by
      unfold Deployment.tally
      split <;> split <;> simp only [Metrics.bump_comm]
    simp only [run, hswap, ih]
  | notify tx next ih =>
    simp only [run, Deployment.note_tally, Deployment.notices_tally, ih]

theorem complete_tally (d : Deployment σ) (component : Component) (series : Series) (p : Plan α)
    (w : World σ) :
    p.complete d (d.tally component series w) =
      ((p.complete d w).1, d.tally component series (p.complete d w).2) := by
  simp only [complete, run_tally, Deployment.deliver_tally]

theorem complete_call (d : Deployment σ) (c : Call) (next : c.Answer → Plan α) (w : World σ) :
    (call c next).complete d w = (next (d.perform c w).1).complete d (d.perform c w).2 := rfl

theorem complete_count (d : Deployment σ) (component : Component) (series : Series)
    (next : Plan α) (w : World σ) :
    (count component series next).complete d w =
      ((next.complete d w).1, d.tally component series (next.complete d w).2) :=
  complete_tally d component series next w

/-- Notices left one after the other. -/
theorem complete_foldr_notify (d : Deployment σ) (txs : List TransferId) (next : Plan α)
    (w : World σ) :
    (txs.foldr notify next).complete d w =
      next.complete d { w with notices := w.notices ++ txs } := by
  induction txs generalizing w with
  | nil => rw [List.append_nil]; rfl
  | cons tx txs ih =>
    show (txs.foldr notify next).complete d { w with notices := w.notices ++ [tx] } = _
    rw [ih]
    simp only [List.append_assoc, List.singleton_append]

/-- A plan that counts at its end does nothing else there. -/
theorem complete_bind_count (d : Deployment σ) (p : Plan α) (component : Component)
    (series : α → Series) (result : α → β) (w : World σ) :
    (p.bind fun a => .count component (series a) (.done (result a))).complete d w =
      (result (p.complete d w).1,
        d.tally component (series (p.complete d w).1) (p.complete d w).2) := by
  simp only [complete, run_bind, run, Deployment.deliver_tally]

end Plan

/-! ## Ends of calls -/

namespace Task

theorem run_ofRead (d : Deployment σ) (r : Except ReadFault α) (w : World σ) :
    ((ofRead r).run.run d w).1 = r.mapError .read := by
  cases r <;> rfl

theorem run_ofLedgerRead (d : Deployment σ) (r : Except ReadFault α) (w : World σ) :
    ((ofLedgerRead r).run.run d w).1 = r.mapError .read := by
  cases r <;> rfl

theorem run_ofSubmit (d : Deployment σ) (r : Except SubmitFault α) (w : World σ) :
    ((ofSubmit r).run.run d w).1 = r.mapError .submit := by
  cases r <;> rfl

end Task

/-! ## Invariants of running -/

/-- Running a plan keeps what holds of the world. -/
def Plan.Keeps (d : Deployment σ) (I : World σ → Prop) (p : Plan α) : Prop :=
  ∀ w, I w → I (p.run d w).2

/-- What holds of the world whatever is read, counted or noted. -/
structure Deployment.Stable (d : Deployment σ) (I : World σ → Prop) : Prop where
  read : ∀ (c : Call) (w : World σ), c.isRead = true → I w → I (d.perform c w).2
  tally : ∀ (component : Component) (series : Series) (w : World σ),
    I w → I (d.tally component series w)
  note : ∀ (txs : List TransferId) (w : World σ), I w → I { w with notices := txs }
  notice : ∀ (tx : TransferId) (w : World σ), I w → I (d.perform (.notifyAccepted tx) w).2

namespace Plan.Keeps

theorem done (a : α) : (Plan.done a).Keeps d I := fun _ h => h

theorem call {c : Call} {next : c.Answer → Plan α} (hc : ∀ w, I w → I (d.perform c w).2)
    (hnext : ∀ a, (next a).Keeps d I) : (Plan.call c next).Keeps d I :=
  fun w h => hnext _ _ (hc w h)

theorem bind {p : Plan α} {f : α → Plan β} (hp : p.Keeps d I) (hf : ∀ a, (f a).Keeps d I) :
    (p.bind f).Keeps d I := by
  intro w h
  rw [Plan.run_bind]
  exact hf _ _ (hp w h)

end Plan.Keeps

/-- A task of two parts keeps what both keep. -/
theorem Task.keeps_bind {x : Task α} {f : α → Task β} (hx : x.run.Keeps d I)
    (hf : ∀ a, (f a).run.Keeps d I) : (x >>= f).run.Keeps d I := by
  refine Plan.Keeps.bind hx fun r => ?_
  cases r with
  | error fault => exact Plan.Keeps.done _
  | ok a => exact hf a

namespace Deployment.Stable

theorem readCall (stable : d.Stable I) {c : Call} {next : c.Answer → Plan α}
    (hc : c.isRead = true) (hnext : ∀ a, (next a).Keeps d I) : (Plan.call c next).Keeps d I :=
  .call (fun w h => stable.read c w hc h) hnext

theorem count (stable : d.Stable I) {component : Component} {series : Series} {p : Plan α}
    (hp : p.Keeps d I) : (Plan.count component series p).Keeps d I :=
  fun w h => hp _ (stable.tally component series w h)

theorem notify (stable : d.Stable I) {tx : TransferId} {p : Plan α} (hp : p.Keeps d I) :
    (Plan.notify tx p).Keeps d I :=
  fun w h => hp _ (stable.note _ w h)

theorem readFlags (stable : d.Stable I) :
    ∀ (txs : List TransferId) (w : World σ), I w → I (d.readFlags txs w).2 := by
  intro txs
  induction txs with
  | nil => exact fun w h => h
  | cons tx txs ih =>
    intro w h
    have hread := stable.read (.isCompleted tx) w rfl h
    unfold Deployment.readFlags
    split
    · rename_i heq
      rwa [heq] at hread
    · -- the read has a flag, so the rest of the batch is read as well
      rename_i heq
      rw [heq] at hread
      have hrest := ih _ hread
      split <;> rename_i heq' <;> rwa [heq'] at hrest

theorem flags (stable : d.Stable I) {txs : List TransferId}
    {next : Except ReadFault (List Bool) → Plan α} (hnext : ∀ r, (next r).Keeps d I) :
    (Plan.flags txs next).Keeps d I :=
  fun w h => hnext _ _ (stable.readFlags txs w h)

/-- Delivering notices keeps a stable invariant. -/
theorem deliver (stable : d.Stable I) {w : World σ} (h : I w) : I (d.deliver w) := by
  -- the notices are taken off first, and each delivery is a call of its own
  have hfold : ∀ (txs : List TransferId) (w : World σ), I w →
      I (txs.foldl (fun w tx => (d.perform (.notifyAccepted tx) w).2) w) := by
    intro txs
    induction txs with
    | nil => exact fun w h => h
    | cons tx txs ih => exact fun w h => ih _ (stable.notice tx w h)
  exact hfold _ _ (stable.note [] w h)

theorem complete (stable : d.Stable I) {p : Plan α} (hp : p.Keeps d I) {w : World σ} (h : I w) :
    I (p.complete d w).2 :=
  stable.deliver (hp w h)

end Deployment.Stable

end TransferRelay

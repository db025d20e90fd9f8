import TransferRelay.Chain.Race
import TransferRelay.Proofs.Chain.Ledger
import TransferRelay.Proofs.Chain.Running

/-!
# Plans side by side

Any number of plans go on side by side, each whenever it likes, while other parties change the
chain. `Step` is one move of such a `Pool`, and `Run` a history of moves. A race is a run of a pool
(`exists_run_race`), so what holds of every run holds of races.

Of the chain nothing is assumed but that its ledger is read as it stands and that completions are
not taken back (`GrowingLedger`). Over a run, what is complete stays so, and whoever reads it learns
it (`completed_run`).
-/

namespace TransferRelay

variable {σ β : Type}

/-- A ledger that is read as it stands, and that no call takes a completion from. -/
structure GrowingLedger (d : Deployment σ) where
  completed : σ → TransferId → Bool
  reads : ∀ {tx : TransferId} {chain : σ} {flag : Bool},
    (d.answer (.isCompleted tx) chain).1 = .ok flag → completed chain tx = flag
  grows : ∀ (c : Call) {tx : TransferId} {chain : σ},
    completed chain tx = true → completed (d.answer c chain).2 tx = true

/-- The ledger of a chain in memory. -/
def Ledger.growing (counts : Component → Bool) (window : Nat) :
    GrowingLedger ⟨Ledger.answer, counts, window⟩ where
  completed := Ledger.completed
  reads h := Ledger.completed_of_answer h
  grows c _ _ h := Ledger.completed_answer h c

theorem GrowingLedger.readEach {d : Deployment σ} (ledger : GrowingLedger d) {tx : TransferId}
    (txs : List TransferId) {w : World σ} (h : ledger.completed w.chain tx = true) :
    ledger.completed (d.readEach txs w).2.chain tx = true := by
  induction txs generalizing w with
  | nil => exact h
  | cons key txs ih => exact ih (ledger.grows (.isCompleted key) h)

namespace Interleaving

variable {ι : Type} {d : Deployment σ}

/-! ## Moments -/

/-- What happens at one moment. -/
inductive Moment (ι : Type)
  /-- A plan makes a call and gets its answer. -/
  | call (i : ι) (c : Call) (answer : c.Answer)
  /-- A plan makes some reads of a batch. -/
  | batch (i : ι)
  /-- A plan counts or leaves a notice. -/
  | quiet (i : ι)
  /-- A notice is delivered. -/
  | notice (tx : TransferId)
  /-- The chain changes by itself. -/
  | outside

namespace Moment

/-- A plan reads that an identifier is not complete. -/
def readsOpen (i : ι) (tx : TransferId) : Moment ι :=
  .call i (.isCompleted tx) (Except.ok false)

variable [DecidableEq ι]

/-- Whether a moment is one of a plan. -/
def isOf (i : ι) : Moment ι → Bool
  | .call j _ _ | .batch j | .quiet j => j = i
  | _ => false

/-- Whether a plan submits a transfer at a moment. -/
def submits (i : ι) : Moment ι → Bool
  | .call j c _ => j = i && c.isSubmission
  | _ => false

theorem exists_call_of_submits {i : ι} {m : Moment ι} (h : m.submits i = true) :
    ∃ c answer, m = .call i c answer ∧ c.isSubmission = true := by
  cases m with
  | call j c answer =>
    obtain ⟨hj, hc⟩ := Bool.and_eq_true_iff.mp h
    obtain rfl := of_decide_eq_true hj
    exact ⟨c, answer, rfl, hc⟩
  | _ => cases h

theorem isOf_of_submits {i : ι} {m : Moment ι} (h : m.submits i = true) : m.isOf i = true := by
  obtain ⟨c, answer, rfl, -⟩ := exists_call_of_submits h
  exact decide_eq_true rfl

theorem isOf_readsOpen (i : ι) (tx : TransferId) : (readsOpen i tx).isOf i = true :=
  decide_eq_true rfl

/-- A moment is of one plan at most. -/
theorem eq_of_isOf {i j : ι} {m : Moment ι} (hi : m.isOf i = true) (hj : m.isOf j = true) :
    i = j := by
  cases m with
  | notice tx => cases hi
  | outside => cases hi
  | _ => exact (of_decide_eq_true hi).symm.trans (of_decide_eq_true hj)

end Moment

/-! ## Pools -/

/-- What is left of each plan, and the world around them. -/
structure Pool (ι σ β : Type) where
  plans : ι → Plan β
  world : World σ

variable [DecidableEq ι]

/-- The pool when one plan has gone on. -/
def Pool.advance (s : Pool ι σ β) (i : ι) (p : Plan β) (w : World σ) : Pool ι σ β :=
  ⟨fun j => if j = i then p else s.plans j, w⟩

theorem Pool.plans_advance_self (s : Pool ι σ β) (i : ι) (p : Plan β) (w : World σ) :
    (s.advance i p w).plans i = p :=
  if_pos rfl

theorem Pool.plans_advance_other (s : Pool ι σ β) {i j : ι} (h : j ≠ i) (p : Plan β)
    (w : World σ) : (s.advance i p w).plans j = s.plans j :=
  if_neg h

/-- One move of a pool. -/
inductive Step (ledger : GrowingLedger d) : Pool ι σ β → Moment ι → Pool ι σ β → Prop
  | call {s : Pool ι σ β} {i : ι} {c : Call} {next : c.Answer → Plan β}
      (plan : s.plans i = .call c next) :
      Step ledger s (.call i c (d.perform c s.world).1)
        (s.advance i (next (d.perform c s.world).1) (d.perform c s.world).2)
  | batch {s : Pool ι σ β} {i : ι} {txs : List TransferId}
      {next : Except ReadFault (List Bool) → Plan β} (plan : s.plans i = .flags txs next)
      (n : Nat) :
      Step ledger s (.batch i)
        (s.advance i
          (.resumeFlags (Plan.gather (d.readEach (txs.take n) s.world).1) (txs.drop n) next)
          (d.readEach (txs.take n) s.world).2)
  | count {s : Pool ι σ β} {i : ι} {component : Component} {series : Series} {next : Plan β}
      (plan : s.plans i = .count component series next) :
      Step ledger s (.quiet i) (s.advance i next (d.tally component series s.world))
  | notify {s : Pool ι σ β} {i : ι} {tx : TransferId} {next : Plan β}
      (plan : s.plans i = .notify tx next) :
      Step ledger s (.quiet i)
        (s.advance i next { s.world with notices := s.world.notices ++ [tx] })
  | notice {s : Pool ι σ β} {before after : List TransferId} {tx : TransferId}
      (pending : s.world.notices = before ++ tx :: after) :
      Step ledger s (.notice tx)
        ⟨s.plans, (d.perform (.notifyAccepted tx)
          { s.world with notices := before ++ after }).2⟩
  | outside {s : Pool ι σ β} {chain : σ}
      (grows : ∀ tx, ledger.completed s.world.chain tx = true → ledger.completed chain tx = true) :
      Step ledger s .outside ⟨s.plans, { s.world with chain := chain }⟩

/-- A history of moves from one pool to another. -/
inductive Run (ledger : GrowingLedger d) (first : Pool ι σ β) :
    List (Moment ι) → Pool ι σ β → Prop
  | none : Run ledger first [] first
  | next {ms : List (Moment ι)} {m : Moment ι} {s s' : Pool ι σ β} (run : Run ledger first ms s)
      (step : Step ledger s m s') : Run ledger first (ms ++ [m]) s'

variable {ledger : GrowingLedger d}

theorem Run.append {s₀ s₁ s₂ : Pool ι σ β} {ms₁ ms₂ : List (Moment ι)}
    (run₁ : Run ledger s₀ ms₁ s₁) (run₂ : Run ledger s₁ ms₂ s₂) :
    Run ledger s₀ (ms₁ ++ ms₂) s₂ := by
  induction run₂ with
  | none => rwa [List.append_nil]
  | next run step ih =>
    rw [← List.append_assoc]
    exact ih.next step

/-! ## The ledger over a run -/

/-- What is complete stays so, and is read as complete. -/
theorem completed_step {s s' : Pool ι σ β} {m : Moment ι} (step : Step ledger s m s')
    {tx : TransferId} (h : ledger.completed s.world.chain tx = true) :
    ledger.completed s'.world.chain tx = true ∧ ∀ i, m ≠ .readsOpen i tx := by
  cases step with
  | @call i c next plan =>
    refine ⟨ledger.grows c h, ?_⟩
    rintro j heq
    -- the call would be a read that answers no, of an identifier that is complete
    injection heq with _ hc hanswer
    subst hc
    have hread := ledger.reads (eq_of_heq hanswer)
    rw [h] at hread
    cases hread
  | batch plan n => exact ⟨ledger.readEach _ h, nofun⟩
  | count plan =>
    refine ⟨?_, nofun⟩
    show ledger.completed (d.tally _ _ s.world).chain tx = true
    unfold Deployment.tally
    split <;> exact h
  | notify plan => exact ⟨h, nofun⟩
  | notice pending => exact ⟨ledger.grows _ h, nofun⟩
  | outside grows => exact ⟨grows tx h, nofun⟩

theorem completed_run {s₁ s₂ : Pool ι σ β} {ms : List (Moment ι)} (run : Run ledger s₁ ms s₂)
    {tx : TransferId} (h : ledger.completed s₁.world.chain tx = true) :
    ledger.completed s₂.world.chain tx = true ∧ ∀ i, .readsOpen i tx ∉ ms := by
  induction run with
  | none => exact ⟨h, fun i => List.not_mem_nil⟩
  | next run step ih =>
    obtain ⟨hbefore, hnone⟩ := ih
    obtain ⟨hafter, hne⟩ := completed_step step hbefore
    refine ⟨hafter, fun i hmem => ?_⟩
    rcases List.mem_append.mp hmem with hmem | hmem
    · exact hnone i hmem
    · exact hne i (List.mem_singleton.mp hmem).symm

/-! ## Races -/

theorem Run.cons {s₀ s₁ s₂ : Pool ι σ β} {m : Moment ι} {ms : List (Moment ι)}
    (step : Step ledger s₀ m s₁) (run : Run ledger s₁ ms s₂) : Run ledger s₀ (m :: ms) s₂ :=
  (Run.none.next step).append run

theorem Pool.advance_advance (s : Pool ι σ β) (i : ι) (p p' : Plan β) (w w' : World σ) :
    (s.advance i p w).advance i p' w' = s.advance i p' w' := by
  unfold advance
  congr 1
  funext j
  by_cases h : j = i
  · rw [if_pos h, if_pos h]
  · rw [if_neg h, if_neg h]
    exact if_neg h

theorem Pool.advance_same {s : Pool ι σ β} {i : ι} {p : Plan β} (h : s.plans i = p) :
    s.advance i p s.world = s := by
  obtain ⟨plans, w⟩ := s
  unfold advance
  congr 1
  funext j
  by_cases hj : j = i
  · rw [if_pos hj, hj]
    exact h.symm
  · rw [if_neg hj]

/-- A turn is a run of its plan alone. -/
theorem exists_run_turn (ledger : GrowingLedger d) (p : Plan β) {s : Pool ι σ β} {i : ι}
    (h : s.plans i = p) :
    ∃ ms, Run ledger s ms (s.advance i (p.turn d s.world).1 (p.turn d s.world).2) := by
  induction p generalizing s with
  | done a => exact ⟨[], by rw [Plan.turn, Pool.advance_same h]; exact .none⟩
  | call c next ih =>
    have hstep : Step ledger s _ _ := .call h
    have hturn : (Plan.call c next).turn d s.world =
        if c.readsLedger then (next (d.perform c s.world).1, (d.perform c s.world).2)
        else (next (d.perform c s.world).1).turn d (d.perform c s.world).2 := rfl
    rw [hturn]
    split
    · exact ⟨_, .cons hstep .none⟩
    · obtain ⟨ms, hrun⟩ := ih _ (s.plans_advance_self i _ _)
      rw [Pool.advance_advance] at hrun
      exact ⟨_, .cons hstep hrun⟩
  | flags txs next ih =>
    cases txs with
    | nil =>
      have hstep : Step ledger s _ _ := .batch h 0
      obtain ⟨ms, hrun⟩ := ih (.ok []) (s.plans_advance_self i _ s.world)
      rw [Pool.advance_advance] at hrun
      exact ⟨_, .cons hstep hrun⟩
    | cons tx txs => exact ⟨_, .cons (.batch h d.width) .none⟩
  | count component series next ih =>
    obtain ⟨ms, hrun⟩ := ih (s.plans_advance_self i _ _)
    rw [Pool.advance_advance] at hrun
    exact ⟨_, .cons (Step.count h) hrun⟩
  | notify tx next ih =>
    obtain ⟨ms, hrun⟩ := ih (s.plans_advance_self i _ _)
    rw [Pool.advance_advance] at hrun
    exact ⟨_, .cons (Step.notify h) hrun⟩

/-- Delivering notices is a run. -/
theorem exists_run_deliver (ledger : GrowingLedger d) (s : Pool ι σ β) :
    ∃ ms, Run ledger s ms ⟨s.plans, d.deliver s.world⟩ := by
  have hall : ∀ (txs : List TransferId) (w : World σ), w.notices = txs →
      ∃ ms, Run ledger ⟨s.plans, w⟩ ms ⟨s.plans,
        txs.foldl (fun w tx => (d.perform (.notifyAccepted tx) w).2) { w with notices := [] }⟩ := by
    intro txs
    induction txs with
    | nil =>
      rintro ⟨chain, metrics, log, notices⟩ rfl
      exact ⟨[], .none⟩
    | cons tx txs ih =>
      intro w hw
      obtain ⟨ms, hrun⟩ := ih (d.perform (.notifyAccepted tx) { w with notices := txs }).2 rfl
      have hstep : Step ledger ⟨s.plans, w⟩ (.notice tx) _ := @Step.notice _ _ _ _ _ _ _ [] _ _ hw
      exact ⟨_, .cons hstep hrun⟩
  exact hall _ s.world rfl

/-- From `k` on, the plans of a pool are those of a list. -/
def Pool.Holds (s : Pool Nat σ β) (k : Nat) (ps : List (Plan β)) : Prop :=
  ∀ j p, ps[j]? = some p → s.plans (k + j) = p

/-- A pool of the plans of a list. -/
def Pool.ofList (ps : List (Plan β)) (rest : Plan β) (w : World σ) : Pool Nat σ β :=
  ⟨fun i => ps[i]?.getD rest, w⟩

theorem Pool.holds_ofList (ps : List (Plan β)) (rest : Plan β) (w : World σ) :
    (ofList ps rest w).Holds 0 ps := by
  intro j p hp
  show ps[0 + j]?.getD rest = p
  rw [Nat.zero_add, hp]
  rfl

/-- A round of turns is a run. -/
theorem exists_run_turns (ledger : GrowingLedger d) (ps : List (Plan β)) {s : Pool Nat σ β}
    {k : Nat} (h : s.Holds k ps) :
    ∃ ms s', Run ledger s ms s' ∧ s'.world = (Plan.turns d ps s.world).2 ∧
      s'.Holds k (Plan.turns d ps s.world).1 ∧ ∀ j < k, s'.plans j = s.plans j := by
  induction ps generalizing s k with
  | nil => exact ⟨[], s, .none, rfl, nofun, fun _ _ => rfl⟩
  | cons p ps ih =>
    -- the turn of the first plan, then those of the others, which it has left as they were
    obtain ⟨ms₁, hfirst⟩ := exists_run_turn ledger p (h 0 p rfl)
    have hrest : (s.advance k (p.turn d s.world).1 (p.turn d s.world).2).Holds (k + 1) ps := by
      intro j q hq
      rw [Pool.plans_advance_other _ (by omega), Nat.add_right_comm]
      exact h (j + 1) q hq
    obtain ⟨ms₂, s', hrun, hworld, hholds, hsame⟩ := ih hrest
    refine ⟨ms₁ ++ ms₂, s', hfirst.append hrun, hworld, ?_, ?_⟩
    · rintro (_ | j) q hq
      · cases hq
        rw [Nat.add_zero, hsame k (Nat.lt_succ_self k), Pool.plans_advance_self]
      · have hplan := hholds j q hq
        rwa [Nat.add_right_comm] at hplan
    · intro j hj
      rw [hsame j (by omega), Pool.plans_advance_other _ (by omega)]

theorem getElem?_of_results? {ps : List (Plan β)} {as : List β} (h : Plan.results? ps = some as)
    {j : Nat} {a : β} (ha : as[j]? = some a) : ps[j]? = some (.done a) := by
  induction ps generalizing as j with
  | nil =>
    cases h
    cases ha
  | cons p ps ih =>
    cases p with
    | done b =>
      obtain ⟨rest, hrest, rfl⟩ := Option.map_eq_some_iff.mp h
      cases j with
      | zero =>
        cases ha
        rfl
      | succ j => exact ih hrest ha
    | _ => cases h

/-- **A race is a run** of the pool of its plans, to their results. -/
theorem exists_run_race (ledger : GrowingLedger d) (ps : List (Plan β)) {s : Pool Nat σ β}
    (h : s.Holds 0 ps) :
    ∃ ms s', Run ledger s ms s' ∧ s'.world = (Plan.race d ps s.world).2 ∧
      ∀ j a, (Plan.race d ps s.world).1[j]? = some a → s'.plans j = .done a := by
  generalize hw : s.world = w
  fun_induction Plan.race d ps w generalizing s with
  | case1 ps w as hresults =>
    refine ⟨[], s, .none, hw, fun j a ha => ?_⟩
    have hplan := h j _ (getElem?_of_results? hresults ha)
    rwa [Nat.zero_add] at hplan
  | case2 ps w hresults ih =>
    subst hw
    -- one round, its notices, and the race from there
    obtain ⟨ms₁, s₁, hturns, hworld, hholds, -⟩ := exists_run_turns ledger ps h
    obtain ⟨ms₂, hdeliver⟩ := exists_run_deliver ledger s₁
    rw [hworld] at hdeliver
    obtain ⟨ms₃, s', hrun, hend, hresult⟩ :=
      @ih ⟨s₁.plans, d.deliver (Plan.turns d ps s.world).2⟩ hholds rfl
    exact ⟨_, s', (hturns.append hdeliver).append hrun, hend, hresult⟩

end Interleaving

end TransferRelay

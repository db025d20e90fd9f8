import Mathlib.Algebra.Ring.Int.Defs
import TransferRelay.Chain.Race
import TransferRelay.Proofs.Chain.Running

/-!
# Books

A `Book` gives a worth to what is counted and to what the chain sees, and the *balance* of a world
is what both are worth together. `Plan.Posts f n p` says what a plan brings to the balance: it has
brought `n` so far, and will have brought `f a` when it ends in `a`, whatever the chain answers in
between. This is read off the tree, and holds of a plan that runs alone (`Posts.complete`) as of
plans that race (`AllPost.race`).

A batch counts its failure once, so it matters how many of its reads failed. Plans race only by
books to which failed reads are worth nothing, or if they read no batch (`Plan.Unbatched`).
-/

namespace TransferRelay

variable {σ α β : Type} {d : Deployment σ}

/-- What counters and calls are worth. -/
structure Book where
  /-- What the counters are worth. -/
  counted : Metrics → Int
  /-- What one more in a series is worth. -/
  series : Series → Int
  /-- What a call is worth that the chain has seen. -/
  event : Event → Int
  /-- What a failed read of the ledger is worth. A read with an answer is worth nothing. -/
  unread : Int
  /-- What a notice is worth, however it is taken. -/
  notice : Int
  counted_bump : ∀ (s : Series) (m : Metrics), counted (m.bump s) = counted m + series s
  event_unread : ∀ tx : TransferId, event ⟨.isCompleted tx, true⟩ = unread
  event_read : ∀ tx : TransferId, event ⟨.isCompleted tx, false⟩ = 0
  event_notice : ∀ (tx : TransferId) (failed : Bool), event ⟨.notifyAccepted tx, failed⟩ = notice

namespace Book

variable (b : Book)

/-- What a component adds to the balance when it counts. -/
def entry (counts : Component → Bool) (component : Component) (s : Series) : Int :=
  if counts component then b.series s else 0

/-- What is counted and seen in a world, the notices ahead included. -/
def balance (w : World σ) : Int :=
  b.counted w.metrics + (w.log.map b.event).sum + w.notices.length * b.notice

/-! ## Counters -/

/-- One if something is the case, and otherwise nothing. -/
def one (p : Bool) : Int :=
  if p then 1 else 0

theorem count_bump (s t : Series) (m : Metrics) :
    ((m.bump s).count t : Int) = m.count t + one (t = s) := by
  rw [Metrics.count_bump]
  unfold one
  by_cases h : t = s <;> simp [h]

/-- A book of counters alone, to which calls and notices are worth nothing. -/
def ofCounters (counted : Metrics → Int) (series : Series → Int)
    (counted_bump : ∀ (s : Series) (m : Metrics), counted (m.bump s) = counted m + series s) :
    Book where
  counted := counted
  series := series
  event _ := 0
  unread := 0
  notice := 0
  counted_bump := counted_bump
  event_unread _ := rfl
  event_read _ := rfl
  event_notice _ _ := rfl

theorem sum_event_ofCounters {counted : Metrics → Int} {series : Series → Int}
    (counted_bump : ∀ (s : Series) (m : Metrics), counted (m.bump s) = counted m + series s)
    (log : List Event) : (log.map (ofCounters counted series counted_bump).event).sum = 0 := by
  induction log with
  | nil => rfl
  | cons e log ih =>
    rw [List.map_cons, List.sum_cons, ih]
    rfl

/-! ## What changes the balance -/

theorem balance_perform (c : Call) (w : World σ) :
    b.balance (d.perform c w).2 =
      b.balance w + b.event ⟨c, c.failed (d.perform c w).1⟩ := by
  show b.counted w.metrics + (List.map b.event (⟨c, c.failed (d.perform c w).1⟩ :: w.log)).sum +
    w.notices.length * b.notice = _
  rw [List.map_cons, List.sum_cons]
  unfold balance
  omega

theorem balance_tally (component : Component) (s : Series) (w : World σ) :
    b.balance (d.tally component s w) = b.balance w + b.entry d.counts component s := by
  unfold Deployment.tally entry
  by_cases counts : d.counts component = true
  · rw [if_pos counts, if_pos counts]
    show b.counted (w.metrics.bump s) + (w.log.map b.event).sum + w.notices.length * b.notice = _
    rw [b.counted_bump]
    unfold balance
    omega
  · rw [if_neg counts, if_neg counts, Int.add_zero]

theorem balance_note (tx : TransferId) (w : World σ) :
    b.balance { w with notices := w.notices ++ [tx] } = b.balance w + b.notice := by
  show b.counted w.metrics + (w.log.map b.event).sum + (w.notices ++ [tx]).length * b.notice = _
  have hlength : ((w.notices ++ [tx]).length : Int) = w.notices.length + 1 := by simp
  rw [hlength, Int.add_mul, Int.one_mul]
  unfold balance
  omega

/-- What a read of the ledger is worth. -/
def ofRead {γ : Type} : Except ReadFault γ → Int
  | .error _ => b.unread
  | .ok _ => 0

theorem balance_isCompleted (tx : TransferId) (w : World σ) :
    b.balance (d.perform (.isCompleted tx) w).2 =
      b.balance w + b.ofRead (d.perform (.isCompleted tx) w).1 := by
  rw [balance_perform]
  congr 1
  generalize (d.perform (.isCompleted tx) w).1 = read
  rcases read with cause | flag
  · exact b.event_unread tx
  · exact b.event_read tx

/-- A batch stops at its first failure, so it is worth no more than one read. -/
theorem balance_readFlags (txs : List TransferId) (w : World σ) :
    b.balance (d.readFlags txs w).2 = b.balance w + b.ofRead (d.readFlags txs w).1 := by
  induction txs generalizing w with
  | nil => exact (Int.add_zero _).symm
  | cons tx txs ih =>
    have hread := b.balance_isCompleted (d := d) tx w
    rw [Deployment.readFlags]
    generalize d.perform (.isCompleted tx) w = performed at hread
    obtain ⟨cause | flag, after⟩ := performed
    · exact hread
    · have hread : b.balance after = b.balance w := hread.trans (Int.add_zero _)
      have hrest := ih after
      rw [hread] at hrest
      dsimp only
      generalize d.readFlags txs after = others at hrest
      obtain ⟨cause | flags, last⟩ := others <;> exact hrest

/-- Reads that are worth nothing may fail as often as they like. -/
theorem balance_readEach (free : b.unread = 0) (txs : List TransferId) (w : World σ) :
    b.balance (d.readEach txs w).2 = b.balance w := by
  have hnothing : ∀ r : Except ReadFault Bool, b.ofRead r = 0 := by
    rintro (cause | flag)
    · exact free
    · rfl
  induction txs generalizing w with
  | nil => rfl
  | cons tx txs ih =>
    have hread := b.balance_isCompleted (d := d) tx w
    have hzero : b.ofRead (d.perform (.isCompleted tx) w).1 = 0 := hnothing _
    show b.balance (d.readEach txs (d.perform (.isCompleted tx) w).2).2 = _
    rw [ih]
    omega

theorem length_cons (tx : TransferId) (txs : List TransferId) :
    ((tx :: txs).length : Int) * b.notice = b.notice + txs.length * b.notice := by
  rw [List.length_cons, Int.natCast_add, Int.add_mul, Int.natCast_one, Int.one_mul, Int.add_comm]

/-- A notice is worth the same before its delivery and afterwards. -/
theorem balance_deliver (w : World σ) : b.balance (d.deliver w) = b.balance w := by
  have hfold : ∀ (txs : List TransferId) (w : World σ),
      b.balance (txs.foldl (fun w tx => (d.perform (.notifyAccepted tx) w).2) w) =
        b.balance w + txs.length * b.notice := by
    intro txs
    induction txs with
    | nil => intro w; simp
    | cons tx txs ih =>
      intro w
      rw [List.foldl_cons, ih, balance_perform, b.event_notice, b.length_cons]
      omega
  rw [Deployment.deliver, hfold]
  unfold balance
  simp

end Book

theorem Deployment.notices_deliver (d : Deployment σ) (w : World σ) :
    (d.deliver w).notices = [] := by
  have hfold : ∀ (txs : List TransferId) (w : World σ),
      (txs.foldl (fun w tx => (d.perform (.notifyAccepted tx) w).2) w).notices = w.notices := by
    intro txs
    induction txs with
    | nil => exact fun w => rfl
    | cons tx txs ih => exact fun w => ih _
  exact hfold _ _

/-! ## Plans -/

namespace Plan

variable {b : Book} {counts : Component → Bool} {f : α → Int} {n : Int}

/-- A plan that has brought `n` to the balance so far, and `f a` when it ends in `a`. -/
inductive Posts (b : Book) (counts : Component → Bool) (f : α → Int) : Int → Plan α → Prop
  | done {n : Int} {a : α} (closes : f a = n) : Posts b counts f n (.done a)
  | call {n : Int} {c : Call} {next : c.Answer → Plan α}
      (rest : ∀ answer, Posts b counts f (n + b.event ⟨c, c.failed answer⟩) (next answer)) :
      Posts b counts f n (.call c next)
  | flags {n : Int} {txs : List TransferId} {next : Except ReadFault (List Bool) → Plan α}
      (rest : ∀ r, Posts b counts f (n + b.ofRead r) (next r)) :
      Posts b counts f n (.flags txs next)
  | count {n : Int} {component : Component} {series : Series} {next : Plan α}
      (rest : Posts b counts f (n + b.entry counts component series) next) :
      Posts b counts f n (.count component series next)
  | notify {n : Int} {tx : TransferId} {next : Plan α}
      (rest : Posts b counts f (n + b.notice) next) :
      Posts b counts f n (.notify tx next)

theorem Posts.bind {p : Plan α} (hp : p.Posts b counts f n) {k : α → Plan β} {g : β → Int}
    (hk : ∀ a, (k a).Posts b counts g (f a)) : (p.bind k).Posts b counts g n := by
  induction hp with
  | @done _ a closes => exact closes ▸ hk a
  | call rest ih => exact .call ih
  | flags rest ih => exact .flags ih
  | count rest ih => exact .count ih
  | notify rest ih => exact .notify ih

theorem posts_foldr_notify {txs : List TransferId} {p : Plan α}
    (hp : p.Posts b counts f (n + txs.length * b.notice)) :
    (txs.foldr Plan.notify p).Posts b counts f n := by
  induction txs generalizing n with
  | nil =>
    have hlength : (([] : List TransferId).length : Int) * b.notice = 0 := Int.zero_mul _
    rwa [hlength, Int.add_zero] at hp
  | cons tx txs ih =>
    rw [b.length_cons, ← Int.add_assoc] at hp
    exact .notify (ih hp)

/-- A plan brings to the balance what is left of it to bring. -/
theorem Posts.run {p : Plan α} (hp : p.Posts b d.counts f n) (w : World σ) :
    b.balance (p.run d w).2 + n = b.balance w + f (p.run d w).1 := by
  -- what a node brings goes over from what is ahead to what has been brought
  induction hp generalizing w with
  | done closes => rw [← closes]; rfl
  | @call n c next rest ih =>
    have hrest := ih (d.perform c w).1 (d.perform c w).2
    rw [b.balance_perform] at hrest
    show b.balance ((next (d.perform c w).1).run d (d.perform c w).2).2 + n =
      b.balance w + f ((next (d.perform c w).1).run d (d.perform c w).2).1
    omega
  | @flags n txs next rest ih =>
    have hrest := ih (d.readFlags txs w).1 (d.readFlags txs w).2
    rw [b.balance_readFlags] at hrest
    show b.balance ((next _).run d _).2 + n = _ + f ((next _).run d _).1
    omega
  | @count n component series next rest ih =>
    have hrest := ih (d.tally component series w)
    rw [b.balance_tally] at hrest
    show b.balance (next.run d _).2 + n = _ + f (next.run d _).1
    omega
  | @notify n tx next rest ih =>
    have hrest := ih { w with notices := w.notices ++ [tx] }
    rw [b.balance_note] at hrest
    show b.balance (next.run d _).2 + n = _ + f (next.run d _).1
    omega

/-- What a plan that runs alone brings to the balance. -/
theorem Posts.complete {p : Plan α} (hp : p.Posts b d.counts f 0) (w : World σ) :
    b.balance (p.complete d w).2 = b.balance w + f (p.complete d w).1 := by
  have hrun := hp.run w
  rw [Int.add_zero] at hrun
  show b.balance (d.deliver (p.run d w).2) = _
  rw [b.balance_deliver]
  exact hrun

/-! ## Races -/

/-- A plan that reads no batch. -/
inductive Unbatched : Plan α → Prop
  | done (a : α) : Unbatched (.done a)
  | call {c : Call} {next : c.Answer → Plan α} (rest : ∀ answer, (next answer).Unbatched) :
      Unbatched (.call c next)
  | count {component : Component} {series : Series} {next : Plan α} (rest : next.Unbatched) :
      Unbatched (.count component series next)
  | notify {tx : TransferId} {next : Plan α} (rest : next.Unbatched) : Unbatched (.notify tx next)

theorem Unbatched.bind {p : Plan α} (hp : p.Unbatched) {k : α → Plan β}
    (hk : ∀ a, (k a).Unbatched) : (p.bind k).Unbatched := by
  induction hp with
  | done a => exact hk a
  | call rest ih => exact .call ih
  | count rest ih => exact .count ih
  | notify rest ih => exact .notify ih

/-- A plan that may take turns with others by a book. -/
def TakesTurns (b : Book) (p : Plan α) : Prop :=
  b.unread = 0 ∨ p.Unbatched

theorem TakesTurns.of_later {p q : Plan α} (hp : p.TakesTurns b) (later : Later q p) :
    q.TakesTurns b := by
  rcases hp with free | unbatched
  · exact .inl free
  · right
    cases later with
    | call c next a => cases unbatched with | call rest => exact rest a
    | count component series next => cases unbatched with | count rest => exact rest
    | notify tx next => cases unbatched with | notify rest => exact rest
    | flags txs next r => cases unbatched
    | batch rest txs next f shorter => cases unbatched

/-- What is left of a batch brings what the batch would have. -/
theorem posts_resumeFlags (free : b.unread = 0) {next : Except ReadFault (List Bool) → Plan α}
    (hnext : ∀ r, (next r).Posts b counts f (n + b.ofRead r))
    (known : Except ReadFault (List Bool)) (rest : List TransferId) :
    (resumeFlags known rest next).Posts b counts f n := by
  have hall : ∀ r, (next r).Posts b counts f n := by
    intro r
    have hr := hnext r
    cases r with
    | error cause => rwa [Book.ofRead, free, Int.add_zero] at hr
    | ok flags => rwa [Book.ofRead, Int.add_zero] at hr
  unfold resumeFlags
  split
  · exact hall _
  · exact hall _
  · refine .flags fun r => ?_
    cases r with
    | error cause => exact hnext (.error cause)
    | ok flags => exact hnext (.ok (_ ++ flags))

/-- A turn brings to the balance what is then no longer left to bring. -/
theorem Posts.turn {p : Plan α} (hp : p.Posts b d.counts f n) (free : p.TakesTurns b)
    (w : World σ) :
    ∃ m, (p.turn d w).1.Posts b d.counts f m ∧ (p.turn d w).1.TakesTurns b ∧
      b.balance (p.turn d w).2 + n = b.balance w + m := by
  induction hp generalizing w with
  | @done n a closes => exact ⟨n, .done closes, free, rfl⟩
  | @call n c next rest ih =>
    have hafter := b.balance_perform (d := d) c w
    have hfree : (next (d.perform c w).1).TakesTurns b := free.of_later (.call c next _)
    have hturn : (Plan.call c next).turn d w =
        if c.readsLedger then (next (d.perform c w).1, (d.perform c w).2)
        else (next (d.perform c w).1).turn d (d.perform c w).2 := rfl
    rw [hturn]
    by_cases reads : c.readsLedger = true
    · rw [if_pos reads]
      refine ⟨_, rest (d.perform c w).1, hfree, ?_⟩
      rw [hafter]
      omega
    · rw [if_neg reads]
      obtain ⟨m, hposts, hfree, hbalance⟩ := ih (d.perform c w).1 hfree (d.perform c w).2
      refine ⟨m, hposts, hfree, ?_⟩
      omega
  | @flags n txs next rest ih =>
    obtain free | unbatched := free
    · -- all reads of a window take their turn, and by this book they are worth nothing
      cases txs with
      | nil =>
        obtain ⟨m, hposts, hfree, hbalance⟩ := ih (.ok []) (.inl free) w
        refine ⟨m, hposts, hfree, ?_⟩
        have hread : b.ofRead (.ok ([] : List Bool)) = 0 := rfl
        rw [hread, Int.add_zero] at hbalance
        exact hbalance
      | cons tx txs =>
        refine ⟨n, posts_resumeFlags free rest _ _, .inl free, ?_⟩
        show b.balance (d.readEach _ w).2 + n = _
        rw [b.balance_readEach free]
    · cases unbatched
  | @count n component series next rest ih =>
    obtain ⟨m, hposts, hfree, hbalance⟩ :=
      ih (free.of_later (.count component series next)) (d.tally component series w)
    rw [b.balance_tally] at hbalance
    refine ⟨m, hposts, hfree, ?_⟩
    show b.balance (next.turn d _).2 + n = _
    omega
  | @notify n tx next rest ih =>
    obtain ⟨m, hposts, hfree, hbalance⟩ :=
      ih (free.of_later (.notify tx next)) { w with notices := w.notices ++ [tx] }
    rw [b.balance_note] at hbalance
    refine ⟨m, hposts, hfree, ?_⟩
    show b.balance (next.turn d _).2 + n = _
    omega

/-- Plans that have brought `n` so far together, each of which brings what its function says. -/
inductive AllPost (b : Book) (counts : Component → Bool) :
    List (α → Int) → Int → List (Plan α) → Prop
  | nil : AllPost b counts [] 0 []
  | cons {f : α → Int} {n m : Int} {p : Plan α} {fs : List (α → Int)} {ps : List (Plan α)}
      (first : p.Posts b counts f n) (free : p.TakesTurns b) (rest : AllPost b counts fs m ps) :
      AllPost b counts (f :: fs) (n + m) (p :: ps)

/-- What plans bring together when they end. -/
def worth : List (α → Int) → List α → Int
  | f :: fs, a :: as => f a + worth fs as
  | _, _ => 0

theorem allPost_map {ι : Type} {g : ι → α → Int} {p : ι → Plan α} {is : List ι}
    (h : ∀ i ∈ is, (p i).Posts b counts (g i) 0 ∧ (p i).TakesTurns b) :
    AllPost b counts (is.map g) 0 (is.map p) := by
  induction is with
  | nil => exact .nil
  | cons i is ih =>
    obtain ⟨first, free⟩ := h i List.mem_cons_self
    exact .cons first free (ih fun j hj => h j (List.mem_cons_of_mem _ hj))

theorem AllPost.turns {fs : List (α → Int)} {ps : List (Plan α)}
    (h : AllPost b d.counts fs n ps) (w : World σ) :
    ∃ m, AllPost b d.counts fs m (turns d ps w).1 ∧
      b.balance (turns d ps w).2 + n = b.balance w + m := by
  induction h generalizing w with
  | nil => exact ⟨0, .nil, rfl⟩
  | @cons f n k p fs ps first free rest ih =>
    obtain ⟨m, hposts, hfree, hfirst⟩ := first.turn free w
    obtain ⟨m', hall, hrest⟩ := ih (p.turn d w).2
    refine ⟨m + m', .cons hposts hfree hall, ?_⟩
    show b.balance (Plan.turns d ps (p.turn d w).2).2 + (n + k) = _
    omega

/-- Plans that have all ended have brought what they were to bring. -/
theorem AllPost.worth_results {fs : List (α → Int)} {ps : List (Plan α)} {as : List α}
    (h : AllPost b counts fs n ps) (ended : results? ps = some as) : worth fs as = n := by
  induction h generalizing as with
  | nil => cases ended; rfl
  | cons first free rest ih =>
    cases first with
    | done closes =>
      obtain ⟨bs, hbs, rfl⟩ := Option.map_eq_some_iff.mp ended
      rw [worth, ih hbs, closes]
    | _ => cases ended

/-- What plans that race bring to the balance. -/
theorem AllPost.race {fs : List (α → Int)} {ps : List (Plan α)} (h : AllPost b d.counts fs n ps)
    (w : World σ) :
    b.balance (race d ps w).2 + n = b.balance w + worth fs (race d ps w).1 := by
  fun_induction Plan.race d ps w generalizing n with
  | case1 ps w as ended => rw [h.worth_results ended]
  | case2 ps w ended ih =>
    obtain ⟨m, hturns, hbalance⟩ := h.turns w
    have hrest := ih hturns
    rw [b.balance_deliver] at hrest
    omega

/-- A plan that comes out even. -/
def Even (b : Book) (counts : Component → Bool) (p : Plan α) : Prop :=
  p.Posts b counts (fun _ => 0) 0

theorem Even.complete {p : Plan α} (even : p.Even b d.counts) (w : World σ) :
    (p.complete d w).2.notices = [] ∧ b.balance (p.complete d w).2 = b.balance w := by
  refine ⟨d.notices_deliver _, ?_⟩
  have hposts := Posts.complete even w
  rwa [Int.add_zero] at hposts

/-- Plans that are all even come out even together. -/
theorem balance_race_of_even {ps : List (Plan α)}
    (even : ∀ p ∈ ps, p.Even b d.counts ∧ p.TakesTurns b) (w : World σ) :
    b.balance (race d ps w).2 = b.balance w := by
  have hall : AllPost b d.counts (ps.map fun _ _ => 0) 0 (ps.map id) := allPost_map even
  rw [List.map_id] at hall
  have hworth : ∀ (ps : List (Plan α)) (as : List α), worth (ps.map fun _ _ => 0) as = 0 := by
    intro ps
    induction ps with
    | nil => exact fun as => rfl
    | cons p ps ih =>
      rintro (_ | ⟨a, as⟩)
      · rfl
      · show 0 + worth (ps.map fun _ _ => 0) as = 0
        rw [ih, Int.add_zero]
  have hrace := hall.race w
  rw [hworth] at hrace
  omega

theorem length_results {ps : List (Plan α)} {as : List α} (ended : results? ps = some as) :
    as.length = ps.length := by
  induction ps generalizing as with
  | nil =>
    cases ended
    rfl
  | cons p ps ih =>
    cases p with
    | done a =>
      obtain ⟨bs, hbs, rfl⟩ := Option.map_eq_some_iff.mp ended
      rw [List.length_cons, List.length_cons, ih hbs]
    | _ => cases ended

/-- A race has a result for each plan. -/
theorem length_race (d : Deployment σ) (ps : List (Plan α)) (w : World σ) :
    (race d ps w).1.length = ps.length := by
  have hturns : ∀ (ps : List (Plan α)) (w : World σ), (turns d ps w).1.length = ps.length := by
    intro ps
    induction ps with
    | nil => exact fun w => rfl
    | cons p ps ih => exact fun w => congrArg (· + 1) (ih _)
  fun_induction Plan.race d ps w with
  | case1 ps w as ended => exact length_results ended
  | case2 ps w ended ih => rw [ih, hturns]

/-- After a race there are no notices ahead, if there were none before. -/
theorem notices_race (ps : List (Plan α)) {w : World σ} (quiet : w.notices = []) :
    (race d ps w).2.notices = [] := by
  fun_induction Plan.race d ps w with
  | case1 ps w as ended => exact quiet
  | case2 ps w ended ih => exact ih (d.notices_deliver _)

end Plan

end TransferRelay

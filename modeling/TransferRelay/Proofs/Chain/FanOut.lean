import Mathlib.Logic.Relation
import TransferRelay.Chain.FanOut
import TransferRelay.Chain.Race
import TransferRelay.Proofs.Chain.Running

/-!
# A window reads in order

The reads of a batch may answer in any order, and a late read may fail before an early one has
answered. The batch gives what reading one after the other gives all the same
(`settles_sequential`), and so do its course by turns (`map_delivered_run`) and the service
(`run_completionFlags`): `settles_in_order` is all of this.

The invariant is that moves only pass answers on: what is delivered, what the slots hold or will
hold and what the reads not started will answer is together the list of answers in the order of the
batch (`State.answers`). Since only the oldest slot is delivered, a batch that ends has delivered
the answers in front of its failure, or all of them.
-/

namespace TransferRelay

namespace FanOut

variable {ε : Type} {width : Nat}

/-! ## One after the other -/

theorem sequential_append (flags : List Bool) (rest : List (Except ε Bool)) :
    sequential (flags.map .ok ++ rest) = (sequential rest).map (flags ++ ·) := by
  induction flags with
  | nil => cases h : sequential rest <;> simp [h, Except.map]
  | cons flag flags ih =>
    rw [List.map_cons, List.cons_append, sequential, ih]
    cases sequential rest <;> rfl

/-- All flags are given exactly if no read fails. -/
theorem sequential_eq_ok_iff {answers : List (Except ε Bool)} {flags : List Bool} :
    sequential answers = .ok flags ↔ answers = flags.map .ok := by
  induction answers generalizing flags with
  | nil => cases flags <;> simp [sequential]
  | cons a rest ih =>
    rcases a with e | flag
    · cases flags <;> simp [sequential]
    · cases flags with
      | nil => cases h : sequential rest <;> simp [sequential, h, Except.map]
      | cons head tail =>
        have htail := @ih tail
        cases h : sequential rest <;> simp_all [sequential, Except.map]

/-- A failure is given exactly if it is the first. -/
theorem sequential_eq_error_iff {answers : List (Except ε Bool)} {e : ε} :
    sequential answers = .error e ↔
      ∃ (flags : List Bool) (rest : List (Except ε Bool)),
        answers = flags.map .ok ++ .error e :: rest := by
  constructor
  · intro h
    induction answers with
    | nil => cases h
    | cons a rest ih =>
      rcases a with e' | flag
      · cases h
        exact ⟨[], rest, rfl⟩
      · have hrest : sequential rest = .error e := by
          rw [sequential] at h
          cases hrest : sequential rest with
          | error e' =>
            rw [hrest] at h
            exact congrArg Except.error (Except.error.inj h)
          | ok flags =>
            rw [hrest] at h
            cases h
        obtain ⟨flags, later, rfl⟩ := ih hrest
        exact ⟨flag :: flags, later, rfl⟩
  · rintro ⟨flags, rest, rfl⟩
    rw [sequential_append]
    rfl

/-! ## Answers in order -/

/-- The answer that a slot holds or will hold. -/
def Slot.answer : Slot ε → Except ε Bool
  | .reading _ a => a
  | .ready a => a

/-- The answers of a batch in its order: those delivered, those of the slots and those of the reads
not started. -/
def State.answers (s : State ε) : List (Except ε Bool) :=
  s.delivered.map .ok ++ (s.slots.map Slot.answer ++ s.waiting.map Read.answer)

theorem answer_slotOf (r : Read ε) : (State.slotOf r).answer = r.answer := by
  unfold State.slotOf
  split <;> rfl

theorem answers_initial (reads : List (Read ε)) :
    (State.initial reads).answers = reads.map Read.answer := rfl

/-- A move passes answers on. -/
theorem answers_step {s s' : State ε} (step : Step width s s') : s'.answers = s.answers := by
  cases step with
  | start r ws slots ds peak room => simp [State.answers, State.start, answer_slotOf]
  | answer ws before after turns a ds peak => simp [State.answers, Slot.answer]
  | deliver ws flag slots ds peak => simp [State.answers, Slot.answer]

theorem answers_moves {s s' : State ε} (moves : Relation.ReflTransGen (Step width) s s') :
    s'.answers = s.answers := by
  induction moves with
  | refl => rfl
  | tail moves step ih => exact (answers_step step).trans ih

theorem sequential_of_failed {s : State ε} {e : ε} {slots : List (Slot ε)}
    (h : s.slots = .ready (.error e) :: slots) : sequential s.answers = .error e := by
  rw [State.answers, h, sequential_append]
  rfl

theorem sequential_of_all {s : State ε} (hslots : s.slots = []) (hwaiting : s.waiting = []) :
    sequential s.answers = .ok s.delivered := by
  rw [State.answers, hslots, hwaiting, sequential_append]
  exact congrArg Except.ok (List.append_nil _)

/-- A batch that ends gives what reading its answers one after the other gives. -/
theorem sequential_of_ends {s : State ε} {r : Except ε (List Bool)} (h : Ends s r) :
    sequential s.answers = r := by
  cases h with
  | failed ws e slots ds peak => exact sequential_of_failed rfl
  | all ds peak => exact sequential_of_all rfl rfl

/-! ## Moves go on to the end -/

/-- A batch in a window that has room for one read goes on until it ends. -/
theorem ends_or_step (hwidth : 0 < width) (s : State ε) :
    (∃ r, Ends s r) ∨ ∃ s', Step width s s' := by
  obtain ⟨waiting, slots, ds, peak⟩ := s
  cases slots with
  | nil =>
    cases waiting with
    | nil => exact .inl ⟨_, .all ds peak⟩
    | cons r ws => exact .inr ⟨_, .start r ws [] ds peak hwidth⟩
  | cons slot slots =>
    cases slot with
    | reading turns a => exact .inr ⟨_, .answer waiting [] slots turns a ds peak⟩
    | ready a =>
      rcases a with e | flag
      · exact .inl ⟨_, .failed waiting e slots ds peak⟩
      · exact .inr ⟨_, .deliver waiting flag slots ds peak⟩

/-- A bound on the moves that are left: a read is started, answers and is delivered. -/
def State.movesLeft (s : State ε) : Nat :=
  3 * s.waiting.length + s.slots.length + s.inFlight

theorem movesLeft_step {s s' : State ε} (step : Step width s s') : s'.movesLeft < s.movesLeft := by
  cases step with
  | start r ws slots ds peak room =>
    -- a read that answers at once is never in flight, so this is no equality
    have hslot : [State.slotOf r].countP Slot.inFlight ≤ 1 := List.countP_le_length
    simp only [State.movesLeft, State.inFlight, State.start, List.countP_append,
      List.length_append, List.length_cons, List.length_nil]
    omega
  | answer ws before after turns a ds peak =>
    simp only [State.movesLeft, State.inFlight, List.countP_append, List.countP_cons,
      Slot.inFlight, List.length_append, List.length_cons, if_true, Bool.false_eq_true, if_false]
    omega
  | deliver ws flag slots ds peak =>
    simp only [State.movesLeft, State.inFlight, List.countP_cons, Slot.inFlight, List.length_cons,
      Bool.false_eq_true, if_false]
    omega

/-- However a batch goes on from a state, it ends, and always in the same result. -/
structure Settles (width : Nat) (s : State ε) (result : Except ε (List Bool)) : Prop where
  /-- No moves go on for ever. -/
  finite : Acc (fun later earlier => Step width earlier later) s
  /-- Moves stop only where the batch ends. -/
  goesOn : ∀ s', Relation.ReflTransGen (Step width) s s' →
    (∃ r, Ends s' r) ∨ ∃ s'', Step width s' s''
  /-- Wherever it ends, the result is this one. -/
  unique : ∀ s' r, Relation.ReflTransGen (Step width) s s' → Ends s' r → r = result

/-- A batch settles on what reading its answers one after the other gives. -/
theorem settles_sequential (hwidth : 0 < width) (s : State ε) :
    Settles width s (sequential s.answers) where
  finite := by
    have hbound : WellFounded fun later earlier : State ε => later.movesLeft < earlier.movesLeft :=
      InvImage.wf State.movesLeft Nat.lt_wfRel.wf
    exact Subrelation.accessible movesLeft_step (hbound.apply s)
  goesOn s' _ := ends_or_step hwidth s'
  unique s' r moves ends := by rw [← sequential_of_ends ends, answers_moves moves]

/-! ## The course by turns -/

theorem answers_start (r : Read ε) (ws : List (Read ε)) (s : State ε) :
    (State.answers { s.start r with waiting := ws }) =
      State.answers { s with waiting := r :: ws } := by
  simp [State.answers, State.start, answer_slotOf]

theorem answers_fill (width : Nat) (ws : List (Read ε)) (s : State ε) :
    (fill width ws s).answers = State.answers { s with waiting := ws } := by
  induction ws generalizing s with
  | nil => rfl
  | cons r ws ih =>
    rw [fill]
    split
    · rw [ih, answers_start]
    · rfl

theorem slots_fill (width : Nat) (ws : List (Read ε)) (s : State ε) :
    ∃ started, (fill width ws s).slots = s.slots ++ started := by
  induction ws generalizing s with
  | nil => exact ⟨[], (List.append_nil _).symm⟩
  | cons r ws ih =>
    rw [fill]
    split
    · obtain ⟨started, hstarted⟩ := ih (s.start r)
      exact ⟨State.slotOf r :: started, hstarted.trans (List.append_assoc ..)⟩
    · exact ⟨[], (List.append_nil _).symm⟩

/-- If no slot is taken after filling, there was nothing to fill in. -/
theorem waiting_fill_of_slots_eq_nil (hwidth : 0 < width) {ws : List (Read ε)} {s : State ε}
    (h : (fill width ws s).slots = []) : (fill width ws s).waiting = [] := by
  cases ws with
  | nil => rfl
  | cons r ws =>
    rw [fill] at h
    split at h
    · obtain ⟨started, hstarted⟩ := slots_fill width ws (s.start r)
      rw [h] at hstarted
      simp [State.start] at hstarted
    · rename_i hfull
      have hslots : s.slots = [] := h
      rw [hslots] at hfull
      exact absurd hwidth hfull

theorem answer_tick (slot : Slot ε) : slot.tick.answer = slot.answer := by
  cases slot with
  | reading turns a =>
    rw [Slot.tick]
    split <;> rfl
  | ready a => rfl

/-- Turns pass answers on. -/
theorem answers_tick (s : State ε) :
    State.answers { s with slots := s.slots.map Slot.tick } = s.answers := by
  simp [State.answers, Function.comp_def, answer_tick]

/-- The course by turns gives what reading one after the other gives. -/
theorem map_delivered_run (hwidth : 0 < width) (s : State ε) :
    (run width s).map State.delivered = sequential s.answers := by
  have hfill : ∀ s : State ε, (fill width s.waiting s).answers = s.answers :=
    fun s => answers_fill width s.waiting s
  fun_induction run width s with
  | case1 s t hslots =>
    rw [← hfill, sequential_of_all hslots (waiting_fill_of_slots_eq_nil hwidth hslots)]
    rfl
  | case2 s t e rest hslots =>
    rw [← hfill, sequential_of_failed hslots]
    rfl
  | case3 s t flag rest hslots ih =>
    -- delivering the oldest slot passes its flag on
    have hdeliver : State.answers { t with slots := rest, delivered := t.delivered ++ [flag] } =
        t.answers := by
      simp [State.answers, hslots, Slot.answer]
    rw [ih, hdeliver, hfill]
  | case4 s t turns a rest hslots ih => rw [ih, answers_tick, hfill]

/-- The flags of a batch by turns are those read one after the other. -/
theorem map_fst_flags (bound : Nat) (reads : List (Read ε)) :
    (flags bound reads).map Prod.fst = sequential (reads.map Read.answer) := by
  rw [← answers_initial, ← map_delivered_run (width_pos bound), flags]
  cases run (FanOut.width bound) (.initial reads) <;> rfl

end FanOut

/-! ## Batches of the service -/

namespace Deployment

variable {σ : Type}

theorem length_readEach (d : Deployment σ) (txs : List TransferId) (w : World σ) :
    (d.readEach txs w).1.length = txs.length := by
  induction txs generalizing w with
  | nil => rfl
  | cons tx txs ih => exact congrArg (· + 1) (ih _)

/-- Stopping at the first failure takes nothing from what the answers give. -/
theorem readFlags_eq_sequential (d : Deployment σ) (txs : List TransferId) (w : World σ) :
    (d.readFlags txs w).1 = FanOut.sequential (d.readEach txs w).1 := by
  induction txs generalizing w with
  | nil => rfl
  | cons tx txs ih =>
    rw [readFlags, readEach]
    rcases d.perform (.isCompleted tx) w with ⟨answer, after⟩
    rcases answer with cause | flag
    · rfl
    · simp only [FanOut.sequential, ← ih after]
      rcases d.readFlags txs after with ⟨rest, last⟩
      cases rest <;> rfl

theorem run_completionFlags (d : Deployment σ) (txs : List TransferId) (w : World σ) :
    ((Task.completionFlags txs).run.run d w).1 = (d.readFlags txs w).1.mapError .read :=
  Task.run_ofLedgerRead d _ _

/-- What the service gets for a batch are the flags by turns of reads with the same answers, however
long each takes and whatever number of them may be in flight. -/
theorem run_completionFlags_eq_flags (d : Deployment σ) {txs : List TransferId} {w : World σ}
    {reads : List (FanOut.Read ReadFault)} (answers : reads.map (·.answer) = (d.readEach txs w).1)
    (bound : Nat) :
    ((Task.completionFlags txs).run.run d w).1 =
      ((FanOut.flags bound reads).map Prod.fst).mapError .read := by
  rw [d.run_completionFlags, d.readFlags_eq_sequential, FanOut.map_fst_flags, answers]

end Deployment

/-- **A batch is read in order.** Whatever number of reads may be in flight, whatever each read of a
batch answers, and however long it takes,

* the batch ends, and in the same result whichever of the reads in flight answers first, as it does
  when each read takes a number of turns;
* the result are the flags in the order of the batch if all reads have one, and otherwise the
  failure that is the first in that order;
* this is what the service gets when it reads one after the other and stops at a failure. -/
theorem FanOut.settles_in_order {σ : Type} (d : Deployment σ) (reads : List (Read ReadFault)) :
    Settles d.width (.initial reads) (sequential (reads.map Read.answer)) ∧
      (flags d.window reads).map Prod.fst = sequential (reads.map Read.answer) ∧
      (∀ fs, sequential (reads.map Read.answer) = .ok fs ↔
        reads.map Read.answer = fs.map .ok) ∧
      (∀ cause, sequential (reads.map Read.answer) = .error cause ↔
        ∃ (fs : List Bool) (rest : List (Except ReadFault Bool)),
          reads.map Read.answer = fs.map .ok ++ .error cause :: rest) ∧
      ∀ txs w, (d.readEach txs w).1.length = txs.length ∧
        ((Task.completionFlags txs).run.run d w).1 =
          (sequential (d.readEach txs w).1).mapError .read := by
  refine ⟨settles_sequential d.width_pos (.initial reads), map_fst_flags d.window reads,
    fun fs => sequential_eq_ok_iff, fun cause => sequential_eq_error_iff, fun txs w => ?_⟩
  refine ⟨d.length_readEach txs w, ?_⟩
  rw [d.run_completionFlags, d.readFlags_eq_sequential]

end TransferRelay

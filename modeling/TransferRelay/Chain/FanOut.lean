/-!
# Reading a batch

The reads of a batch run next to each other in a window of limited width. A read that is started
takes the next slot; it keeps the slot until its answer is delivered, and answers are delivered in
the order of the batch. The first failure in that order ends the batch.

* `FanOut.Step` are the moves of the window in any order that the answers may come in.
* `FanOut.run` is the course they take when each read answers after a given number of turns.
-/

namespace TransferRelay.FanOut

variable {ε : Type}

/-- A read of a batch: the turns until it answers, and its answer. -/
structure Read (ε : Type) where
  delay : Nat
  answer : Except ε Bool

/-- A read that has been started. -/
inductive Slot (ε : Type)
  /-- In flight, with the turns left. -/
  | reading (turns : Nat) (answer : Except ε Bool)
  /-- Answered and not yet delivered. -/
  | ready (answer : Except ε Bool)

/-- The state of a batch. -/
structure State (ε : Type) where
  /-- The reads not yet started. -/
  waiting : List (Read ε)
  /-- The reads started and not delivered, in the order of the batch. -/
  slots : List (Slot ε)
  /-- The flags delivered. -/
  delivered : List Bool
  /-- The greatest number of reads in flight so far. -/
  peak : Nat

/-- Whether a slot is in flight. -/
def Slot.inFlight : Slot ε → Bool
  | .reading _ _ => true
  | .ready _ => false

namespace State

/-- A batch of which no read is started. -/
def initial (reads : List (Read ε)) : State ε :=
  ⟨reads, [], [], 0⟩

/-- The number of reads in flight. -/
def inFlight (s : State ε) : Nat :=
  s.slots.countP Slot.inFlight

/-- The slot of a read that has just been started. A read without delay answers at once. -/
def slotOf (r : Read ε) : Slot ε :=
  if r.delay = 0 then .ready r.answer else .reading r.delay r.answer

/-- The state with a read started. -/
def start (r : Read ε) (s : State ε) : State ε :=
  { s with slots := s.slots ++ [slotOf r], peak := max s.peak (s.inFlight + 1) }

end State

/-! ## Moves in any order -/

/-- One move of a batch in a window of the given width. -/
inductive Step (width : Nat) : State ε → State ε → Prop
  /-- A read is started. -/
  | start (r : Read ε) (ws : List (Read ε)) (slots : List (Slot ε)) (ds : List Bool) (peak : Nat)
      (room : slots.length < width) :
      Step width ⟨r :: ws, slots, ds, peak⟩ (State.start r ⟨ws, slots, ds, peak⟩)
  /-- A read in flight answers. -/
  | answer (ws : List (Read ε)) (before after : List (Slot ε)) (turns : Nat)
      (a : Except ε Bool) (ds : List Bool) (peak : Nat) :
      Step width ⟨ws, before ++ .reading turns a :: after, ds, peak⟩
        ⟨ws, before ++ .ready a :: after, ds, peak⟩
  /-- The flag of the oldest slot is delivered. -/
  | deliver (ws : List (Read ε)) (flag : Bool) (slots : List (Slot ε)) (ds : List Bool)
      (peak : Nat) :
      Step width ⟨ws, .ready (.ok flag) :: slots, ds, peak⟩ ⟨ws, slots, ds ++ [flag], peak⟩

/-- The result of a batch that has ended: a failure of the oldest slot, or all flags. -/
inductive Ends : State ε → Except ε (List Bool) → Prop
  | failed (ws : List (Read ε)) (e : ε) (slots : List (Slot ε)) (ds : List Bool) (peak : Nat) :
      Ends ⟨ws, .ready (.error e) :: slots, ds, peak⟩ (.error e)
  | all (ds : List Bool) (peak : Nat) : Ends ⟨[], [], ds, peak⟩ (.ok ds)

/-- Reading one after the other up to the first failure. -/
def sequential : List (Except ε Bool) → Except ε (List Bool)
  | [] => .ok []
  | .error e :: _ => .error e
  | .ok flag :: rest => (sequential rest).map (flag :: ·)

/-! ## The course by turns -/

/-- Starts reads in order while the window has room. -/
def fill (width : Nat) : List (Read ε) → State ε → State ε
  | [], s => { s with waiting := [] }
  | r :: ws, s =>
    if s.slots.length < width then fill width ws (s.start r) else { s with waiting := r :: ws }

/-- A slot one turn later. -/
def Slot.tick : Slot ε → Slot ε
  | .reading turns a => if turns ≤ 1 then .ready a else .reading (turns - 1) a
  | .ready a => .ready a

/-- A bound on the turns and deliveries that a slot still takes. -/
def Slot.weight : Slot ε → Nat
  | .reading turns _ => turns + 2
  | .ready _ => 1

/-- A bound on the turns and deliveries that slots still take. -/
def slotsWeight : List (Slot ε) → Nat
  | [] => 0
  | slot :: slots => slot.weight + slotsWeight slots

/-- A bound on the turns and deliveries that reads not started take. -/
def waitingWeight : List (Read ε) → Nat
  | [] => 0
  | r :: ws => r.delay + 2 + waitingWeight ws

/-- A bound on the turns and deliveries that a batch still takes. -/
def State.weight (s : State ε) : Nat :=
  waitingWeight s.waiting + slotsWeight s.slots

theorem slotsWeight_append (as bs : List (Slot ε)) :
    slotsWeight (as ++ bs) = slotsWeight as + slotsWeight bs := by
  induction as with
  | nil => simp [slotsWeight]
  | cons a as ih =>
    simp only [List.cons_append, slotsWeight, ih]
    omega

theorem weight_slotOf_le (r : Read ε) : (State.slotOf r).weight ≤ r.delay + 2 := by
  unfold State.slotOf
  split <;> simp [Slot.weight]

theorem weight_fill_le (width : Nat) (ws : List (Read ε)) (s : State ε) :
    (fill width ws s).weight ≤ waitingWeight ws + slotsWeight s.slots := by
  induction ws generalizing s with
  | nil => simp [fill, State.weight]
  | cons r ws ih =>
    simp only [fill]
    split
    · refine Nat.le_trans (ih _) ?_
      have := weight_slotOf_le r
      simp only [State.start, slotsWeight_append, slotsWeight, waitingWeight]
      omega
    · simp [State.weight]

theorem weight_tick_le (slot : Slot ε) : slot.tick.weight ≤ slot.weight := by
  cases slot with
  | reading turns a =>
    simp only [Slot.tick]
    split <;> simp only [Slot.weight] <;> omega
  | ready a => exact Nat.le_refl _

theorem weight_tick_reading_lt (turns : Nat) (a : Except ε Bool) :
    (Slot.tick (.reading turns a)).weight < (Slot.reading turns a).weight := by
  simp only [Slot.tick]
  split <;> simp only [Slot.weight] <;> omega

theorem slotsWeight_tick_le (slots : List (Slot ε)) :
    slotsWeight (slots.map Slot.tick) ≤ slotsWeight slots := by
  induction slots with
  | nil => exact Nat.le_refl _
  | cons slot slots ih =>
    have := weight_tick_le slot
    simp only [slotsWeight, List.map_cons]
    omega

/-- Lets the turns pass until the batch has ended. -/
def run (width : Nat) (s : State ε) : Except ε (State ε) :=
  let t := fill width s.waiting s
  match _h : t.slots with
  | [] => .ok t
  | .ready (.error e) :: _ => .error e
  | .ready (.ok flag) :: rest =>
    run width { t with slots := rest, delivered := t.delivered ++ [flag] }
  | .reading _ _ :: _ => run width { t with slots := t.slots.map Slot.tick }
termination_by s.weight
decreasing_by
  · have hfill := weight_fill_le width s.waiting s
    simp only [State.weight, slotsWeight, t, _h, Slot.weight] at *
    omega
  · rename_i turns a rest
    have hfill := weight_fill_le width s.waiting s
    have hhead := weight_tick_reading_lt turns a
    have htail := slotsWeight_tick_le rest
    simp only [State.weight, slotsWeight, t, _h, List.map_cons] at *
    omega

/-- The width of the window for a configured bound. None is taken for one. -/
def width (bound : Nat) : Nat :=
  max 1 bound

theorem width_pos (bound : Nat) : 0 < width bound :=
  Nat.lt_of_lt_of_le Nat.zero_lt_one (Nat.le_max_left 1 bound)

/-- The flags of a batch and the greatest number of reads in flight, under a configured bound. -/
def flags (bound : Nat) (reads : List (Read ε)) : Except ε (List Bool × Nat) :=
  (run (width bound) (.initial reads)).map fun s => (s.delivered, s.peak)

end TransferRelay.FanOut

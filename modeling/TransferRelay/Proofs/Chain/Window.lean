import Mathlib.Order.Bounds.Basic
import TransferRelay.Chain.Ledger
import TransferRelay.Proofs.Chain.FanOut

/-!
# The window of a batch

A read keeps its slot from its start until its flag is delivered, so the reads in flight and those
that have answered out of turn are together never more than the window is wide. No read is started
twice, the window never stalls, and if no read answers at once it is used to the full: `window_kept`
is all of this.

* `Course` is a history of a batch. It takes the moves of `Step` in any order and lets turns pass,
  and it notes down which read was started for which entry and how many reads were in flight.
* `Calm` is what a move does that starts no read. An invariant of courses then has two cases: a read
  is started, or the move is calm.
* `Placed` is the invariant that the reads are started in the order of the batch: what has been
  begun is the front of it, and what waits is the rest.
* `Filled` is the invariant of courses on which the window is opened first: the peak is the number
  of reads begun until the window is full, and its width from then on.

A window without room would stall at once (`stalls_without_room`): this is why none is taken for
one.
-/

namespace TransferRelay.FanOut

variable {ε : Type} {width : Nat} {reads : List (Read ε)} {r : Read ε} {s s' : State ε}

namespace State

/-- The number of reads that have answered and are not delivered. -/
def finished (s : State ε) : Nat :=
  s.slots.countP fun slot => !slot.inFlight

/-- The number of entries whose reads have been started. -/
def begun (s : State ε) : Nat :=
  s.delivered.length + s.slots.length

/-- A read can be started. -/
def CanStart (width : Nat) (s : State ε) : Prop :=
  s.waiting ≠ [] ∧ s.slots.length < width

/-- As many reads have been started as the window has room for, or all. -/
def Opened (width : Nat) (s : State ε) : Prop :=
  s.waiting = [] ∨ width ≤ s.begun

/-- The state a turn later. -/
def tick (s : State ε) : State ε :=
  { s with slots := s.slots.map Slot.tick }

theorem inFlight_add_finished (s : State ε) : s.inFlight + s.finished = s.slots.length := by
  rw [inFlight, finished, List.length_eq_countP_add_countP Slot.inFlight]
  simp

theorem inFlight_le_length (s : State ε) : s.inFlight ≤ s.slots.length :=
  List.countP_le_length

theorem opened_of_not_canStart (h : ¬ s.CanStart width) : s.Opened width := by
  by_cases hwaiting : s.waiting = []
  · exact .inl hwaiting
  · have hfull : width ≤ s.slots.length := Nat.le_of_not_lt fun room => h ⟨hwaiting, room⟩
    exact .inr (Nat.le_trans hfull (Nat.le_add_left _ _))

end State

/-! ## Courses -/

/-- What is noted down of a course. -/
structure Notes (ε : Type) where
  /-- The reads started, each with the place of its entry in the batch. -/
  starts : List (Read ε × Nat)
  /-- The numbers of reads in flight in the states passed. -/
  inFlight : List Nat

/-- The notes with the start of a read. -/
def Notes.start (n : Notes ε) (r : Read ε) (entry : Nat) : Notes ε :=
  { n with starts := n.starts ++ [(r, entry)] }

/-- The notes with one more state passed. -/
def Notes.pass (n : Notes ε) (s : State ε) : Notes ε :=
  { n with inFlight := n.inFlight ++ [s.inFlight] }

/-- A course of a batch from its beginning to a state. Anything but the start of a read happens only
in states that are free for it. -/
inductive Course (width : Nat) (free : State ε → Prop) (reads : List (Read ε)) :
    Notes ε → State ε → Prop
  | initial : Course width free reads ⟨[], [0]⟩ (.initial reads)
  /-- The read that is taken from those waiting is started. -/
  | start {n : Notes ε} {s s' : State ε} {r : Read ε} (course : Course width free reads n s)
      (step : Step width s s') (taken : s.waiting = r :: s'.waiting) :
      Course width free reads ((n.start r s.begun).pass s') s'
  /-- A read answers, or a flag is delivered. -/
  | go {n : Notes ε} {s s' : State ε} (course : Course width free reads n s) (hfree : free s)
      (step : Step width s s') (kept : s'.waiting = s.waiting) :
      Course width free reads (n.pass s') s'
  /-- A turn passes. -/
  | turn {n : Notes ε} {s : State ε} (course : Course width free reads n s) (hfree : free s) :
      Course width free reads (n.pass s.tick) s.tick

variable {free : State ε → Prop} {n : Notes ε}

/-- What a move does that starts a read. -/
structure Started (width : Nat) (r : Read ε) (s s' : State ε) : Prop where
  room : s.slots.length < width
  begun : s'.begun = s.begun + 1
  slots : s'.slots.length = s.slots.length + 1
  inFlight : 0 < r.delay → s'.inFlight = s.inFlight + 1
  peak : s'.peak = max s.peak (s.inFlight + 1)

theorem started_of_step (step : Step width s s') (taken : s.waiting = r :: s'.waiting) :
    Started width r s s' := by
  cases step with
  | start first ws slots ds peak room =>
    obtain ⟨rfl, -⟩ := List.cons.inj taken
    refine ⟨room, ?_, ?_, fun hdelay => ?_, rfl⟩
    · simp [State.begun, State.start, Nat.add_assoc]
    · simp [State.start]
    · have hslot : State.slotOf first = .reading first.delay first.answer :=
        if_neg (Nat.ne_of_gt hdelay)
      simp [State.inFlight, State.start, hslot, Slot.inFlight, List.countP_append]
  | answer => exact absurd taken.symm (List.cons_ne_self _ _)
  | deliver => exact absurd taken.symm (List.cons_ne_self _ _)

/-- What a move does that starts no read. -/
structure Calm (s s' : State ε) : Prop where
  waiting : s'.waiting = s.waiting
  begun : s'.begun = s.begun
  slots : s'.slots.length ≤ s.slots.length
  inFlight : s'.inFlight ≤ s.inFlight
  peak : s'.peak = s.peak
  answers : s'.answers = s.answers

theorem calm_of_step (step : Step width s s') (kept : s'.waiting = s.waiting) : Calm s s' := by
  have hanswers := answers_step step
  cases step with
  | start r ws slots ds peak room => exact absurd kept.symm (List.cons_ne_self _ _)
  | answer ws before after turns a ds peak =>
    refine ⟨kept, ?_, ?_, ?_, rfl, hanswers⟩
    · simp [State.begun]
    · simp
    · simp [State.inFlight, List.countP_cons, Slot.inFlight]
  | deliver ws flag slots ds peak =>
    refine ⟨kept, ?_, ?_, ?_, rfl, hanswers⟩
    · simp only [State.begun, List.length_append, List.length_cons, List.length_nil]
      omega
    · exact Nat.le_succ _
    · simp [State.inFlight, Slot.inFlight]

theorem inFlight_of_tick {slot : Slot ε} (h : slot.tick.inFlight = true) :
    slot.inFlight = true := by
  cases slot with
  | reading => rfl
  | ready => exact h

theorem calm_tick (s : State ε) : Calm s s.tick where
  waiting := rfl
  begun := by simp [State.begun, State.tick]
  slots := by simp [State.tick]
  inFlight := by
    rw [State.inFlight, State.tick, List.countP_map]
    exact List.countP_mono_left fun slot _ h => inFlight_of_tick h
  peak := rfl
  answers := answers_tick s

/-! ## Reads are started in order -/

/-- The entries begun are the front of the batch, each with its own read. -/
structure Placed (width : Nat) (reads : List (Read ε)) (n : Notes ε) (s : State ε) : Prop where
  fits : s.slots.length ≤ width
  waiting : s.waiting = reads.drop s.begun
  begun_le : s.begun ≤ reads.length
  starts : n.starts = reads.zipIdx.take s.begun
  answers : s.answers = reads.map Read.answer

theorem Placed.calm (h : Placed width reads n s) (hcalm : Calm s s') :
    Placed width reads (n.pass s') s' where
  fits := Nat.le_trans hcalm.slots h.fits
  waiting := by rw [hcalm.waiting, hcalm.begun, h.waiting]
  begun_le := by rw [hcalm.begun]; exact h.begun_le
  starts := by rw [hcalm.begun]; exact h.starts
  answers := hcalm.answers.trans h.answers

/-- The read that is started is that of the next entry. -/
theorem Placed.getElem?_begun {ws : List (Read ε)} (h : Placed width reads n s)
    (taken : s.waiting = r :: ws) : reads[s.begun]? = some r := by
  have hhead := congrArg List.head? (h.waiting.symm.trans taken)
  rwa [List.head?_drop] at hhead

theorem Placed.start (h : Placed width reads n s) (step : Step width s s')
    (taken : s.waiting = r :: s'.waiting) :
    Placed width reads ((n.start r s.begun).pass s') s' := by
  have hstarted := started_of_step step taken
  have hread := h.getElem?_begun taken
  refine ⟨?_, ?_, ?_, ?_, (answers_step step).trans h.answers⟩
  · rw [hstarted.slots]
    exact hstarted.room
  · rw [hstarted.begun, ← List.tail_drop, ← h.waiting, taken]
    rfl
  · rw [hstarted.begun]
    exact (List.getElem?_eq_some_iff.mp hread).1
  · show n.starts ++ [(r, s.begun)] = reads.zipIdx.take s'.begun
    rw [hstarted.begun, List.take_add_one, List.getElem?_zipIdx, hread, h.starts, Nat.zero_add]
    rfl

theorem placed_of_course (course : Course width free reads n s) : Placed width reads n s := by
  induction course with
  | initial => exact ⟨Nat.zero_le _, rfl, Nat.zero_le _, rfl, rfl⟩
  | start _ step taken ih => exact ih.start step taken
  | go _ _ step kept ih => exact ih.calm (calm_of_step step kept)
  | turn _ _ ih => exact ih.calm (calm_tick _)

theorem Placed.nodup_starts (h : Placed width reads n s) : (n.starts.map Prod.snd).Nodup := by
  rw [h.starts, List.map_take, List.zipIdx_map_snd]
  exact (List.nodup_range' ..).sublist (List.take_sublist ..)

theorem Placed.getElem?_of_mem_starts {entry : Nat} (h : Placed width reads n s)
    (hmem : (r, entry) ∈ n.starts) : reads[entry]? = some r := by
  rw [h.starts] at hmem
  exact List.mem_zipIdx_iff_getElem?.mp (List.mem_of_mem_take hmem)

/-- Moves in any order are a course. -/
theorem exists_course_of_moves (moves : Relation.ReflTransGen (Step width) (.initial reads) s) :
    ∃ n, Course width (fun _ => True) reads n s := by
  induction moves with
  | refl => exact ⟨_, .initial⟩
  | tail moves step ih =>
    obtain ⟨n, course⟩ := ih
    cases step with
    | start r ws slots ds peak room => exact ⟨_, .start course (.start r ws slots ds peak room) rfl⟩
    | answer ws before after turns a ds peak =>
      exact ⟨_, .go course trivial (.answer ws before after turns a ds peak) rfl⟩
    | deliver ws flag slots ds peak =>
      exact ⟨_, .go course trivial (.deliver ws flag slots ds peak) rfl⟩

/-! ## The window never stalls -/

/-- The flag of the oldest slot is delivered. -/
inductive Delivers : State ε → State ε → Prop
  | flag {s : State ε} {flag : Bool} {slots : List (Slot ε)}
      (due : s.slots = .ready (.ok flag) :: slots) :
      Delivers s { s with slots := slots, delivered := s.delivered ++ [flag] }

theorem Delivers.step (h : Delivers s s') : Step width s s' ∧ s'.waiting = s.waiting := by
  obtain ⟨ws, slots, ds, peak⟩ := s
  cases h with
  | flag due =>
    cases due
    exact ⟨.deliver .., rfl⟩

theorem ends_failed {e : ε} {slots : List (Slot ε)} (h : s.slots = .ready (.error e) :: slots) :
    Ends s (.error e) := by
  obtain ⟨ws, _, ds, peak⟩ := s
  cases h
  exact .failed ws e slots ds peak

theorem ends_all (hslots : s.slots = []) (hwaiting : s.waiting = []) :
    Ends s (.ok s.delivered) := by
  obtain ⟨_, _, ds, peak⟩ := s
  cases hslots
  cases hwaiting
  exact .all ds peak

/-- A batch is at rest when no flag is due. Only at rest does it wait for anything. -/
def State.Resting (s : State ε) : Prop :=
  ∀ s', ¬ Delivers s s'

/-- A batch that does not stall. -/
structure Live (width : Nat) (s : State ε) : Prop where
  /-- What is due is delivered without waiting for any read. -/
  comesToRest : ∃ s', Relation.ReflTransGen Delivers s s' ∧ s'.Resting
  /-- At rest it has returned, or a read is in flight, or one can be started. -/
  goesOn : ∀ s', Relation.ReflTransGen Delivers s s' → s'.Resting →
    (∃ result, Ends s' result) ∨ 0 < s'.inFlight ∨ s'.CanStart width

/-- Delivering what is due comes to an end. -/
theorem exists_resting (s : State ε) :
    ∃ s', Relation.ReflTransGen Delivers s s' ∧ s'.Resting := by
  obtain ⟨ws, slots, ds, peak⟩ := s
  induction slots generalizing ds with
  | nil => exact ⟨_, .refl, nofun⟩
  | cons slot slots ih =>
    match slot with
    | .reading turns a => exact ⟨_, .refl, nofun⟩
    | .ready (.error e) => exact ⟨_, .refl, nofun⟩
    | .ready (.ok flag) =>
      obtain ⟨s', hdelivers, hrest⟩ := ih (ds ++ [flag])
      exact ⟨s', hdelivers.head (.flag rfl), hrest⟩

theorem goesOn_of_resting (hwidth : 0 < width) (h : s.Resting) :
    (∃ result, Ends s result) ∨ 0 < s.inFlight ∨ s.CanStart width := by
  match hslots : s.slots with
  | [] =>
    by_cases hwaiting : s.waiting = []
    · exact .inl ⟨_, ends_all hslots hwaiting⟩
    · refine .inr (.inr ⟨hwaiting, ?_⟩)
      rwa [hslots]
  | .reading turns a :: slots =>
    refine .inr (.inl ?_)
    rw [State.inFlight, hslots]
    exact List.countP_pos_iff.mpr ⟨_, List.mem_cons_self, rfl⟩
  | .ready (.error e) :: slots => exact .inl ⟨_, ends_failed hslots⟩
  | .ready (.ok flag) :: slots => exact absurd (.flag hslots) (h _)

/-- A window that has room for one read never stalls. -/
theorem live (hwidth : 0 < width) (s : State ε) : Live width s :=
  ⟨exists_resting s, fun _ _ hrest => goesOn_of_resting hwidth hrest⟩

/-- A window without room stalls at once unless there is nothing to read. -/
theorem stalls_without_room (h : reads ≠ []) :
    (∀ s, ¬ Step 0 (.initial reads) s) ∧ ∀ result, ¬ Ends (.initial reads) result := by
  obtain ⟨r, rest, rfl⟩ := List.exists_cons_of_ne_nil h
  refine ⟨fun s step => ?_, nofun⟩
  generalize hs : State.initial (r :: rest) = first at step
  cases step with
  | start _ _ _ _ _ room => exact Nat.not_lt_zero _ room
  | answer _ before after =>
    have hslots : [] = before ++ _ :: after := congrArg State.slots hs
    exact List.cons_ne_nil _ _ (List.append_eq_nil_iff.mp hslots.symm).2
  | deliver => cases hs

/-! ## The reads in flight -/

theorem inFlight_mem (course : Course width free reads n s) : s.inFlight ∈ n.inFlight := by
  cases course with
  | initial => exact List.mem_singleton_self 0
  | _ => exact List.mem_append_right _ (List.mem_singleton_self _)

theorem isGreatest_pass {m : Nat} (h : IsGreatest {k | k ∈ n.inFlight} m) (s : State ε) :
    IsGreatest {k | k ∈ (n.pass s).inFlight} (max m s.inFlight) := by
  have hset : {k | k ∈ (n.pass s).inFlight} = insert s.inFlight {k | k ∈ n.inFlight} := by
    ext k
    simp [Notes.pass, or_comm]
  rw [hset, Nat.max_comm]
  exact h.insert _

theorem isGreatest_peak_of_started {entry : Nat} (h : IsGreatest {k | k ∈ n.inFlight} s.peak)
    (hstarted : Started width r s s') (hdelay : 0 < r.delay) :
    IsGreatest {k | k ∈ ((n.start r entry).pass s').inFlight} s'.peak := by
  rw [hstarted.peak, ← hstarted.inFlight hdelay]
  exact isGreatest_pass h s'

theorem isGreatest_peak_of_calm (h : IsGreatest {k | k ∈ n.inFlight} s.peak)
    (hmem : s.inFlight ∈ n.inFlight) (hcalm : Calm s s') :
    IsGreatest {k | k ∈ (n.pass s').inFlight} s'.peak := by
  have hle : s'.inFlight ≤ s.peak := Nat.le_trans hcalm.inFlight (h.2 hmem)
  rw [hcalm.peak, ← Nat.max_eq_left hle]
  exact isGreatest_pass h s'

theorem delay_pos_of_taken {ws : List (Read ε)} (hdelay : ∀ r ∈ reads, 0 < r.delay)
    (course : Course width free reads n s) (taken : s.waiting = r :: ws) : 0 < r.delay :=
  hdelay r (List.mem_of_getElem? ((placed_of_course course).getElem?_begun taken))

/-- If no read answers at once, the peak of a state is the greatest number of reads in flight on the
course to it. -/
theorem isGreatest_peak (hdelay : ∀ r ∈ reads, 0 < r.delay)
    (course : Course width free reads n s) : IsGreatest {k | k ∈ n.inFlight} s.peak := by
  induction course with
  | initial =>
    exact ⟨List.mem_singleton_self 0, fun k hk => Nat.le_of_eq (List.mem_singleton.mp hk)⟩
  | start course step taken ih =>
    exact isGreatest_peak_of_started ih (started_of_step step taken)
      (delay_pos_of_taken hdelay course taken)
  | go course _ step kept ih =>
    exact isGreatest_peak_of_calm ih (inFlight_mem course) (calm_of_step step kept)
  | turn course _ ih => exact isGreatest_peak_of_calm ih (inFlight_mem course) (calm_tick _)

/-- A window in which as many reads have been in flight as the reads begun and its width allow. -/
structure Filled (width : Nat) (s : State ε) : Prop where
  peak : s.peak = min width s.begun
  /-- While it is opened, all reads begun are in flight. -/
  opening : ¬ s.Opened width → s.inFlight = s.begun

theorem Filled.start (h : Filled width s) (hwaiting : s.waiting ≠ [])
    (hstarted : Started width r s s') (hdelay : 0 < r.delay) : Filled width s' := by
  obtain ⟨room, hbegun, -, hinFlight, hpeak⟩ := hstarted
  have hmore := hinFlight hdelay
  have hbefore := h.peak
  have hle := s.inFlight_le_length
  by_cases hfull : width ≤ s.begun
  · -- the window has been full before, and there are never more reads in flight than fit into it
    exact ⟨by omega, fun hopening => absurd (.inr (by omega)) hopening⟩
  · have hall := h.opening fun hopened => hopened.elim hwaiting hfull
    exact ⟨by omega, fun _ => by omega⟩

theorem Filled.calm (h : Filled width s) (hopened : s.Opened width) (hcalm : Calm s s') :
    Filled width s' where
  peak := by rw [hcalm.peak, hcalm.begun, h.peak]
  opening hopening := by
    rw [State.Opened, hcalm.waiting, hcalm.begun] at hopening
    exact absurd hopened hopening

/-- Opening the window before anything else is done fills it. -/
theorem filled_of_course (hdelay : ∀ r ∈ reads, 0 < r.delay)
    (course : Course width (State.Opened width) reads n s) : Filled width s := by
  induction course with
  | initial => exact ⟨(Nat.min_zero width).symm, fun _ => rfl⟩
  | start course step taken ih =>
    exact ih.start (taken ▸ List.cons_ne_nil _ _) (started_of_step step taken)
      (delay_pos_of_taken hdelay course taken)
  | go _ hopened step kept ih => exact ih.calm hopened (calm_of_step step kept)
  | turn _ hopened ih => exact ih.calm hopened (calm_tick _)

theorem begun_of_ends {fs : List Bool} (course : Course width free reads n s)
    (ends : Ends s (.ok fs)) : s.begun = reads.length := by
  have hplaced := placed_of_course course
  have hnone : reads.drop s.begun = [] := by
    rw [← hplaced.waiting]
    cases ends
    rfl
  exact Nat.le_antisymm hplaced.begun_le (List.drop_eq_nil_iff.mp hnone)

theorem peak_of_ends {fs : List Bool} (hdelay : ∀ r ∈ reads, 0 < r.delay)
    (course : Course width (State.Opened width) reads n s) (ends : Ends s (.ok fs)) :
    s.peak = min width reads.length := by
  rw [(filled_of_course hdelay course).peak, begun_of_ends course ends]

/-! ## The course by turns -/

/-- Filling the window goes on with a course. -/
theorem exists_course_fill (ws : List (Read ε)) (s : State ε)
    (course : Course width free reads n { s with waiting := ws }) :
    ∃ n', Course width free reads n' (fill width ws s) := by
  induction ws generalizing s n with
  | nil => exact ⟨n, course⟩
  | cons r ws ih =>
    rw [fill]
    split
    next room => exact ih (s.start r) (.start course (.start r ws _ _ _ room) rfl)
    next => exact ⟨n, course⟩

theorem not_canStart_fill (ws : List (Read ε)) (s : State ε) :
    ¬ (fill width ws s).CanStart width := by
  induction ws generalizing s with
  | nil => exact fun h => h.1 rfl
  | cons r ws ih =>
    rw [fill]
    split
    next => exact ih (s.start r)
    next hfull => exact fun h => hfull h.2

/-- The turns from a state on a course go on with the course to its end. Other moves wait until the
window is filled. -/
theorem exists_course_run (hwidth : 0 < width) (hfree : ∀ s, ¬ s.CanStart width → free s)
    (s : State ε) : ∀ n, Course width free reads n s →
      (∃ n' t, Course width free reads n' t ∧ run width s = .ok t ∧ Ends t (.ok t.delivered)) ∨
        ∃ n' t e, Course width free reads n' t ∧ run width s = .error e ∧ Ends t (.error e) := by
  fun_induction run width s with
  | case1 s t hslots =>
    intro n course
    obtain ⟨n', hcourse⟩ := exists_course_fill s.waiting s course
    have hwaiting : t.waiting = [] := waiting_fill_of_slots_eq_nil hwidth hslots
    exact .inl ⟨n', t, hcourse, rfl, ends_all hslots hwaiting⟩
  | case2 s t e rest hslots =>
    intro n course
    obtain ⟨n', hcourse⟩ := exists_course_fill s.waiting s course
    exact .inr ⟨n', t, e, hcourse, rfl, ends_failed hslots⟩
  | case3 s t flag rest hslots ih =>
    intro n course
    obtain ⟨n', hcourse⟩ := exists_course_fill s.waiting s course
    obtain ⟨step, kept⟩ := (Delivers.flag hslots).step
    exact ih _ (.go hcourse (hfree t (not_canStart_fill s.waiting s)) step kept)
  | case4 s t turns a rest hslots ih =>
    intro n course
    obtain ⟨n', hcourse⟩ := exists_course_fill s.waiting s course
    exact ih _ (.turn hcourse (hfree t (not_canStart_fill s.waiting s)))

/-- If all reads have a flag, turns lead to the end of a course that opens the window first. -/
theorem exists_course_of_answers (hwidth : 0 < width) {fs : List Bool}
    (hanswers : reads.map Read.answer = fs.map .ok) :
    ∃ n t, Course width (State.Opened width) reads n t ∧
      run width (.initial reads) = .ok t ∧ Ends t (.ok fs) := by
  have hdelivered := map_delivered_run hwidth (.initial reads)
  rw [answers_initial, sequential_eq_ok_iff.mpr hanswers] at hdelivered
  rcases exists_course_run hwidth (fun _ => State.opened_of_not_canStart) (.initial reads) _
    .initial with ⟨n, t, course, hrun, ends⟩ | ⟨n, t, e, -, hrun, -⟩
  · rw [hrun] at hdelivered
    have hfs : t.delivered = fs := Except.ok.inj hdelivered
    exact ⟨n, t, course, hrun, hfs ▸ ends⟩
  · rw [hrun] at hdelivered
    cases hdelivered

/-- The flags by turns come with the greatest number of reads in flight. -/
theorem flags_of_run {bound : Nat} {t : State ε} {fs : List Bool}
    (hrun : run (FanOut.width bound) (.initial reads) = .ok t) (ends : Ends t (.ok fs)) :
    flags bound reads = .ok (fs, t.peak) := by
  rw [flags, hrun]
  cases ends
  rfl

/-- **The window of a batch is kept and never stalls.** Whatever number of reads is configured, and
none is taken for one, whatever each read answers and however long it takes,

* every state that moves lead to is one of a course, and on a course the reads in flight and those
  that have answered and are not delivered are together never more than the window is wide;
* no entry's read is started twice, and what is started for an entry is its own read;
* what is due is delivered without waiting, and then the batch has returned, or a read is in flight,
  or one can be started; so it returns once the reads answer, and always in the same result;
* if no read answers at once and all have a flag, the greatest number of reads in flight is the
  width of the window or the number of entries, whichever is less, on every course to the end on
  which the window is opened before anything else is done. There is such a course, and the flags by
  turns come with this number;
* the service gets the flags by turns for a batch whose reads have these answers. -/
theorem window_kept {σ : Type} (d : Deployment σ) (reads : List (Read ReadFault)) :
    (∀ s, Relation.ReflTransGen (Step d.width) (.initial reads) s →
      ∃ notes, Course d.width (fun _ => True) reads notes s) ∧
    (∀ free notes s, Course d.width free reads notes s →
      s.inFlight + s.finished ≤ max 1 d.window ∧
      (notes.starts.map Prod.snd).Nodup ∧
      (∀ r entry, (r, entry) ∈ notes.starts → reads[entry]? = some r) ∧
      Live d.width s ∧
      Settles d.width s (sequential (reads.map Read.answer))) ∧
    ((∀ r ∈ reads, 0 < r.delay) → ∀ fs, reads.map Read.answer = fs.map .ok →
      (∀ notes s, Course d.width (State.Opened d.width) reads notes s → Ends s (.ok fs) →
        IsGreatest {k | k ∈ notes.inFlight} (min (max 1 d.window) reads.length)) ∧
      ∃ notes s, Course d.width (State.Opened d.width) reads notes s ∧ Ends s (.ok fs) ∧
        flags d.window reads = .ok (fs, min (max 1 d.window) reads.length)) ∧
    ∀ txs w, reads.map Read.answer = (d.readEach txs w).1 →
      ((Task.completionFlags txs).run.run d w).1 =
        ((flags d.window reads).map Prod.fst).mapError .read := by
  refine ⟨fun s moves => exists_course_of_moves moves, fun free notes s course => ?_,
    fun hdelay fs hanswers => ⟨fun notes s course ends => ?_, ?_⟩,
    fun txs w answers => d.run_completionFlags_eq_flags answers d.window⟩
  · have hplaced := placed_of_course course
    have hfits : s.inFlight + s.finished ≤ d.width := by
      rw [s.inFlight_add_finished]
      exact hplaced.fits
    have hsettles := settles_sequential d.width_pos s
    rw [hplaced.answers] at hsettles
    exact ⟨hfits, hplaced.nodup_starts, fun r entry => hplaced.getElem?_of_mem_starts,
      live d.width_pos s, hsettles⟩
  · have hgreatest := isGreatest_peak hdelay course
    rwa [peak_of_ends hdelay course ends] at hgreatest
  · obtain ⟨notes, s, course, hrun, ends⟩ := exists_course_of_answers d.width_pos hanswers
    refine ⟨notes, s, course, ends, ?_⟩
    rw [flags_of_run hrun ends, peak_of_ends hdelay course ends]
    rfl

/-- Two reads at a time of three, of which the second answers before the first and keeps its slot
until the first is delivered. -/
theorem window_kept_of_late_answer :
    let d : Deployment Ledger := ⟨Ledger.answer, fun _ => true, 2⟩
    let reads : List (Read ReadFault) := [⟨3, .ok true⟩, ⟨1, .ok false⟩, ⟨2, .ok true⟩]
    let full : State ReadFault :=
      ⟨[⟨2, .ok true⟩], [.reading 3 (.ok true), .ready (.ok false)], [], 2⟩
    let notes : Notes ReadFault := ⟨reads.zipIdx, [0, 1, 2, 1, 0, 0, 1, 1, 0, 0]⟩
    (Course d.width (State.Opened d.width) reads ⟨reads.zipIdx.take 2, [0, 1, 2, 1]⟩ full ∧
      full.inFlight + full.finished ≤ 2 ∧
      Live d.width full ∧
      Settles d.width full (.ok [true, false, true])) ∧
    (∀ r ∈ reads, 0 < r.delay) ∧
    reads.map Read.answer = [true, false, true].map .ok ∧
    Course d.width (State.Opened d.width) reads notes ⟨[], [], [true, false, true], 2⟩ ∧
    (notes.starts.map Prod.snd).Nodup ∧
    IsGreatest {k | k ∈ notes.inFlight} 2 ∧
    flags d.window reads = .ok ([true, false, true], 2) := by
  intro d reads full notes
  have hdelay : ∀ r ∈ reads, 0 < r.delay := by decide
  have h₀ : Course d.width (State.Opened d.width) reads ⟨[], [0]⟩ (.initial reads) := .initial
  have h₁ := h₀.start (.start ⟨3, .ok true⟩ _ [] [] 0 (by decide)) rfl
  have h₂ := h₁.start (.start ⟨1, .ok false⟩ _ [.reading 3 (.ok true)] [] 1 (by decide)) rfl
  have h₃ := h₂.go (.inr (by decide)) (.answer _ [.reading 3 (.ok true)] [] 1 (.ok false) [] 2) rfl
  have h₄ := h₃.go (.inr (by decide)) (.answer _ [] [.ready (.ok false)] 3 (.ok true) [] 2) rfl
  have h₅ := h₄.go (.inr (by decide)) (.deliver _ true [.ready (.ok false)] [] 2) rfl
  have h₆ := h₅.start (.start ⟨2, .ok true⟩ [] [.ready (.ok false)] [true] 2 (by decide)) rfl
  have h₇ := h₆.go (.inl rfl) (.deliver [] false [.reading 2 (.ok true)] [true] 2) rfl
  have h₈ := h₇.go (.inl rfl) (.answer [] [] [] 2 (.ok true) [true, false] 2) rfl
  have h₉ := h₈.go (.inl rfl) (.deliver [] true [] [true, false] 2) rfl
  obtain ⟨-, hkept, hpeak, -⟩ := window_kept d reads
  obtain ⟨hfits, -, -, hlive, hsettles⟩ := hkept _ _ full h₃
  obtain ⟨hgreatest, -, -, -, -, hflags⟩ := hpeak hdelay [true, false, true] rfl
  exact ⟨⟨h₃, hfits, hlive, hsettles⟩, hdelay, rfl, h₉, (hkept _ notes _ h₉).2.1,
    hgreatest notes _ h₉ (.all _ _), hflags⟩

end TransferRelay.FanOut

import TransferRelay.Chain.World

/-!
# Races

Operations that start together and take turns. In its turn an operation goes on until it waits for
reads of the ledger; these reads are judged at once, and their answers come with its next turn. A
batch waits for one window of its reads in each turn. When every operation has had its turn, the
notices left behind in that round are delivered. The race is over when all operations are.

* `Plan.Later` relates a plan to what may be left of it. It is well founded.
* `Plan.turn` makes progress in that relation, so a race of any plans ends.
-/

namespace TransferRelay

variable {σ α : Type}

namespace Deployment

/-- Reads the ledger for reads in flight at the same time: no failure stops another. -/
def readEach (d : Deployment σ) :
    List TransferId → World σ → List (Except ReadFault Bool) × World σ
  | [], w => ([], w)
  | tx :: txs, w =>
    let (a, w) := d.perform (.isCompleted tx) w
    let (answers, w) := d.readEach txs w
    (a :: answers, w)

theorem width_pos (d : Deployment σ) : 0 < d.width :=
  FanOut.width_pos d.window

end Deployment

namespace Plan

/-! ## Turns -/

/-- The flags of answers up to the first failure. -/
def gather : List (Except ReadFault Bool) → Except ReadFault (List Bool)
  | [] => .ok []
  | .error cause :: _ => .error cause
  | .ok flag :: rest => (gather rest).map (flag :: ·)

/-- A plan that goes on with the flags of a batch, the first of which are known. -/
def resumeFlags (known : Except ReadFault (List Bool)) (rest : List TransferId)
    (next : Except ReadFault (List Bool) → Plan α) : Plan α :=
  match known, rest with
  | .error cause, _ => next (.error cause)
  | .ok begun, [] => next (.ok begun)
  | .ok begun, tx :: rest => flags (tx :: rest) fun r => next (r.map (begun ++ ·))

/-- One turn of a plan: what is left of it once its next reads of the ledger are judged. -/
def turn (d : Deployment σ) : Plan α → World σ → Plan α × World σ
  | done a, w => (done a, w)
  | call c next, w =>
    let (a, w) := d.perform c w
    if c.readsLedger then (next a, w) else (next a).turn d w
  | flags [] next, w => (next (.ok [])).turn d w
  | flags (tx :: txs) next, w =>
    let (answers, w) := d.readEach ((tx :: txs).take d.width) w
    (resumeFlags (gather answers) ((tx :: txs).drop d.width) next, w)
  | count component series next, w => next.turn d (d.tally component series w)
  | notify tx next, w => next.turn d { w with notices := w.notices ++ [tx] }

/-- One turn of each plan, in their order. -/
def turns (d : Deployment σ) : List (Plan α) → World σ → List (Plan α) × World σ
  | [], w => ([], w)
  | p :: ps, w =>
    let (p, w) := p.turn d w
    let (ps, w) := turns d ps w
    (p :: ps, w)

/-- The results of plans that are all at their end. -/
def results? : List (Plan α) → Option (List α)
  | [] => some []
  | done a :: ps => (results? ps).map (a :: ·)
  | _ :: _ => none

/-! ## What is left of a plan -/

/-- What may be left of a plan. -/
inductive Later : Plan α → Plan α → Prop
  | call (c : Call) (next : c.Answer → Plan α) (a : c.Answer) : Later (next a) (call c next)
  | flags (txs : List TransferId) (next : Except ReadFault (List Bool) → Plan α)
      (r : Except ReadFault (List Bool)) : Later (next r) (flags txs next)
  /-- A batch of which some reads are made is a shorter batch. -/
  | batch (rest txs : List TransferId) (next : Except ReadFault (List Bool) → Plan α)
      (f : Except ReadFault (List Bool) → Except ReadFault (List Bool))
      (shorter : rest.length < txs.length) :
      Later (.flags rest fun r => next (f r)) (.flags txs next)
  | count (component : Component) (series : Series) (next : Plan α) :
      Later next (count component series next)
  | notify (tx : TransferId) (next : Plan α) : Later next (notify tx next)

theorem acc_flags (n : Nat) :
    ∀ (txs : List TransferId) (next : Except ReadFault (List Bool) → Plan α),
      txs.length = n → (∀ r, Acc Later (next r)) → Acc Later (flags txs next) := by
  induction n using Nat.strongRecOn with
  | ind n ih =>
    intro txs next hlen hnext
    refine ⟨_, fun p h => ?_⟩
    cases h with
    | flags _ _ r => exact hnext r
    | batch rest _ _ f shorter =>
      exact ih rest.length (hlen ▸ shorter) rest _ rfl fun r => hnext (f r)

theorem acc_later (p : Plan α) : Acc Later p := by
  induction p with
  | done a => exact ⟨_, fun _ h => nomatch h⟩
  | call c next ih =>
    refine ⟨_, fun q h => ?_⟩
    cases h with
    | call _ _ a => exact ih a
  | flags txs next ih => exact acc_flags txs.length txs next rfl ih
  | count component series next ih =>
    refine ⟨_, fun q h => ?_⟩
    cases h
    exact ih
  | notify tx next ih =>
    refine ⟨_, fun q h => ?_⟩
    cases h
    exact ih

theorem resumeFlags_later (known : Except ReadFault (List Bool)) (rest txs : List TransferId)
    (next : Except ReadFault (List Bool) → Plan α) (shorter : rest.length < txs.length) :
    Later (resumeFlags known rest next) (.flags txs next) := by
  unfold resumeFlags
  split
  · exact .flags txs next _
  · exact .flags txs next _
  · exact .batch _ txs next _ shorter

/-- What is left after a turn of a later plan is later. -/
theorem transGen_turn (d : Deployment σ) {p q : Plan α} {w : World σ}
    (h : (∃ a, p = done a) ∨ Relation.TransGen Later (p.turn d w).1 p) (hpq : Later p q) :
    Relation.TransGen Later (p.turn d w).1 q := by
  rcases h with ⟨a, rfl⟩ | h
  · exact .single hpq
  · exact h.tail hpq

/-- A turn of a plan that is not at its end makes progress. -/
theorem turn_later (d : Deployment σ) (p : Plan α) (w : World σ) :
    (∃ a, p = done a) ∨ Relation.TransGen Later (p.turn d w).1 p := by
  induction p generalizing w with
  | done a => exact .inl ⟨a, rfl⟩
  | call c next ih =>
    refine .inr ?_
    simp only [turn]
    split
    · exact .single (.call c next _)
    · exact transGen_turn d (ih _ _) (.call c next _)
  | flags txs next ih =>
    refine .inr ?_
    cases txs with
    | nil =>
      simp only [turn]
      exact transGen_turn d (ih (.ok []) w) (.flags [] next (.ok []))
    | cons tx txs =>
      refine .single (resumeFlags_later _ _ _ next ?_)
      have := d.width_pos
      simp only [List.length_drop, List.length_cons]
      omega
  | count component series next ih =>
    simp only [turn]
    exact .inr (transGen_turn d (ih _) (.count component series next))
  | notify tx next ih =>
    simp only [turn]
    exact .inr (transGen_turn d (ih _) (.notify tx next))

/-- Plans each of which is as before or later. -/
inductive Onward : List (Plan α) → List (Plan α) → Prop
  | nil : Onward [] []
  | same (p : Plan α) (qs ps : List (Plan α)) : Onward qs ps → Onward (p :: qs) (p :: ps)
  | later (q p : Plan α) (qs ps : List (Plan α)) :
      Relation.TransGen Later q p → Onward qs ps → Onward (q :: qs) (p :: ps)

/-- Plans of which at least one is later. -/
def Ahead (qs ps : List (Plan α)) : Prop :=
  Onward qs ps ∧ qs ≠ ps

theorem acc_ahead (ps : List (Plan α)) : Acc Ahead ps := by
  induction ps with
  | nil =>
    refine ⟨_, fun qs h => ?_⟩
    obtain ⟨hon, hne⟩ := h
    cases hon
    exact absurd rfl hne
  | cons p ps ih =>
    have hp := (acc_later p).transGen
    induction hp generalizing ps with
    | intro p _ ihp =>
      induction ih with
      | intro ps hps ihps =>
        refine ⟨_, fun qs h => ?_⟩
        obtain ⟨hon, hne⟩ := h
        cases hon with
        | same _ qs _ hqs => exact ihps qs ⟨hqs, fun h => hne (h ▸ rfl)⟩
        | later q _ qs _ hq hqs =>
          refine ihp q hq qs ?_
          by_cases heq : qs = ps
          · exact heq ▸ ⟨_, hps⟩
          · exact hps qs ⟨hqs, heq⟩

theorem wellFounded_ahead : WellFounded (Ahead : List (Plan α) → List (Plan α) → Prop) :=
  ⟨acc_ahead⟩

theorem turns_onward (d : Deployment σ) (ps : List (Plan α)) (w : World σ) :
    Onward (turns d ps w).1 ps := by
  induction ps generalizing w with
  | nil => exact .nil
  | cons p ps ih =>
    rcases turn_later d p w with ⟨a, rfl⟩ | h
    · exact .same _ _ _ (ih w)
    · exact .later _ _ _ _ h (ih _)

theorem turns_ahead (d : Deployment σ) {ps : List (Plan α)} (w : World σ)
    (h : results? ps = none) : Ahead (turns d ps w).1 ps := by
  refine ⟨turns_onward d ps w, ?_⟩
  induction ps generalizing w with
  | nil => simp [results?] at h
  | cons p ps ih =>
    intro heq
    rcases turn_later d p w with ⟨a, rfl⟩ | hp
    · have hps : results? ps = none := by simpa [results?] using h
      exact ih w hps (List.cons.inj heq).2
    · have hsame : (p.turn d w).1 = p := (List.cons.inj heq).1
      rw [hsame] at hp
      exact irrefl p (acc_later p).transGen hp
where
  /-- No plan is later than itself. -/
  irrefl (p : Plan α) (h : Acc (Relation.TransGen Later) p) : ¬ Relation.TransGen Later p p := by
    induction h with
    | intro p _ ih => exact fun hp => ih p hp hp

/-! ## Races -/

/-- Lets plans that start together take turns until all are at their end. -/
def race (d : Deployment σ) (ps : List (Plan α)) (w : World σ) : List α × World σ :=
  match _h : results? ps with
  | some as => (as, w)
  | none => race d (turns d ps w).1 (d.deliver (turns d ps w).2)
termination_by wellFounded_ahead.wrap ps
decreasing_by exact turns_ahead d w _h

end Plan

end TransferRelay

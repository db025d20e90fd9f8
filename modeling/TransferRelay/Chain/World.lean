import TransferRelay.Chain.FanOut
import TransferRelay.Chain.Plan

/-!
# Running plans

A `World` is the chain, the counters, the calls made so far and the notices left behind. A
`Deployment` says how the chain answers, which components count, and how many reads of a batch may
be in flight. `Plan.run` makes the calls of a plan one after the other; the reads of a batch stop at
the first that fails.

This is all that happens over a chain that answers at once, as a chain in memory does. Where answers
take time, up to `Deployment.width` reads of a batch are under way together, so when one fails those
behind it may have been sent already, and each of them that fails before the batch ends is counted
by itself. The result of the batch is the same (`Deployment.run_completionFlags_eq_flags`); the
calls of a failed batch and its failures as counted are the least that there can be.
-/

namespace TransferRelay

/-- The state around a running service. -/
structure World (σ : Type) where
  chain : σ
  metrics : Metrics
  /-- The calls made so far, last first. -/
  log : List Event
  notices : List TransferId

/-- How the service is set up. -/
structure Deployment (σ : Type) where
  /-- The answer of the chain to a call, and the chain behind it. -/
  answer : (c : Call) → σ → c.Answer × σ
  /-- The components that count. -/
  counts : Component → Bool
  /-- The configured number of reads of a batch in flight. -/
  window : Nat

/-- The window if none is configured. -/
def Deployment.defaultWindow : Nat := 8

variable {σ α β : Type}

/-- A world in which nothing has happened. -/
def World.initial (chain : σ) : World σ :=
  ⟨chain, .empty, [], []⟩

namespace Deployment

/-- The number of reads of a batch that are in flight at most. -/
def width (d : Deployment σ) : Nat :=
  FanOut.width d.window

/-- Makes a call. -/
def perform (d : Deployment σ) (c : Call) (w : World σ) : c.Answer × World σ :=
  let (a, chain) := d.answer c w.chain
  (a, { w with chain := chain, log := ⟨c, c.failed a⟩ :: w.log })

/-- Counts one more in a series, if the component counts. -/
def tally (d : Deployment σ) (component : Component) (series : Series) (w : World σ) : World σ :=
  if d.counts component then { w with metrics := w.metrics.bump series } else w

/-- Reads the ledger for a batch in its order, up to the first failure. No read is made behind it,
which is so of a chain that answers at once. -/
def readFlags (d : Deployment σ) :
    List TransferId → World σ → Except ReadFault (List Bool) × World σ
  | [], w => (.ok [], w)
  | tx :: txs, w =>
    match d.perform (.isCompleted tx) w with
    | (.error cause, w) => (.error cause, w)
    | (.ok flag, w) =>
      match d.readFlags txs w with
      | (.error cause, w) => (.error cause, w)
      | (.ok flags, w) => (.ok (flag :: flags), w)

/-- Makes the calls for the notices left behind. Their answers change nothing else. -/
def deliver (d : Deployment σ) (w : World σ) : World σ :=
  w.notices.foldl (fun w tx => (d.perform (.notifyAccepted tx) w).2) { w with notices := [] }

end Deployment

namespace Plan

/-- Runs a plan to its result. -/
def run (d : Deployment σ) : Plan α → World σ → α × World σ
  | done a, w => (a, w)
  | call c next, w =>
    let (a, w) := d.perform c w
    (next a).run d w
  | flags txs next, w =>
    let (r, w) := d.readFlags txs w
    (next r).run d w
  | count component series next, w => next.run d (d.tally component series w)
  | notify tx next, w => next.run d { w with notices := w.notices ++ [tx] }

/-- Runs a plan to its result and then delivers its notices. -/
def complete (d : Deployment σ) (p : Plan α) (w : World σ) : α × World σ :=
  let (a, w) := p.run d w
  (a, d.deliver w)

theorem run_bind (d : Deployment σ) (p : Plan α) (f : α → Plan β) (w : World σ) :
    (p.bind f).run d w = (f (p.run d w).1).run d (p.run d w).2 := by
  induction p generalizing w with
  | done a => rfl
  | call c next ih => exact ih _ _
  | flags txs next ih => exact ih _ _
  | count component series next ih => exact ih _
  | notify tx next ih => exact ih _

end Plan

end TransferRelay

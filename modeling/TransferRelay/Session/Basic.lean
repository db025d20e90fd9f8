import TransferRelay.Chain.Ledger
import TransferRelay.Session.Operation

/-!
# Sessions

A session is a service over a chain in memory: a list of steps, each an operation of the service or
a change of the chain from outside. Each step is answered with its result and with the calls that
the chain saw during it.
-/

namespace TransferRelay.Session

/-- A step of a session. -/
inductive Step
  | change (c : Ledger.Change)
  | operation (op : Operation)

/-- The result of a step, none for a change, and the calls made during it. -/
structure Answer where
  result : Option Operation.Result
  log : List Event

/-- The parts of the service that count. The server always does. -/
structure Counting where
  ledger : Bool
  transfers : Bool
  requests : Bool
deriving DecidableEq, Repr

/-- Whether a component counts. -/
def Counting.counts (c : Counting) : Component → Bool
  | .ledger => c.ledger
  | .transfers => c.transfers
  | .requests => c.requests
  | .server => true

/-- A service over a chain in memory. -/
def deployment (counting : Counting) (window : Nat) : Deployment Ledger where
  answer := Ledger.answer
  counts := counting.counts
  window := window

/-- Takes one step. -/
def Step.run (d : Deployment Ledger) (w : World Ledger) : Step → Answer × World Ledger
  | .change c => (⟨none, []⟩, { w with chain := w.chain.apply c })
  | .operation op =>
    let (result, w) := op.run d { w with log := [] }
    (⟨some result, w.log.reverse⟩, w)

/-- Takes steps in order. -/
def run (d : Deployment Ledger) : List Step → World Ledger → List Answer × World Ledger
  | [], w => ([], w)
  | s :: rest, w =>
    let (answer, w) := s.run d w
    let (answers, w) := run d rest w
    (answer :: answers, w)

/-- The answers of a session that starts on an empty chain. -/
def answers (counting : Counting) (window : Nat) (steps : List Step) : List Answer :=
  (run (deployment counting window) steps (.initial .empty)).1

end TransferRelay.Session

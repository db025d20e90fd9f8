import TransferRelay.Node.Client
import TransferRelay.Session.Operation

/-!
# Sessions over a node

A session over a node of the side chain: operations of the service, or single calls of the client.
Each step is answered with its result and with the requests that the node received during it.
-/

namespace TransferRelay.Session.OverNode

variable {ν : Type}

/-- A step of a session. -/
inductive Step (ν : Type)
  /-- An operation of the service. -/
  | operation (op : Operation)
  /-- A call of the client alone. -/
  | call (c : Call)
  /-- A change of the node. -/
  | change (f : ν → ν)

/-- The result of a step. -/
inductive Result
  | operation (r : Operation.Result)
  | call (c : Call) (answer : c.Answer)
  | change

/-- The result of a step and the requests made during it. -/
structure Answer where
  result : Result
  requests : List Node.Request

/-- Takes one step. -/
def Step.run (d : Deployment (Node.Line ν)) (w : World (Node.Line ν)) :
    Step ν → Result × World (Node.Line ν)
  | .operation op =>
    let (r, w) := op.run d w
    (.operation r, w)
  | .call c =>
    let (a, line) := d.answer c w.chain
    (.call c a, { w with chain := line })
  | .change f => (.change, { w with chain := { w.chain with node := f w.chain.node } })

/-- Takes steps in order. -/
def run (d : Deployment (Node.Line ν)) :
    List (Step ν) → World (Node.Line ν) → List Answer × World (Node.Line ν)
  | [], w => ([], w)
  | s :: rest, w =>
    let (r, w) := s.run d { w with chain := { w.chain with requests := [] } }
    let answer : Answer := ⟨r, w.chain.requests⟩
    let (answers, w) := run d rest w
    (answer :: answers, w)

end TransferRelay.Session.OverNode

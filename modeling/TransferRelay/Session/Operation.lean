import TransferRelay.Chain.Race
import TransferRelay.Http.Service

/-!
# Operations

Everything that can be asked of a running service, on any chain. `Operation.run` gives the result
and the world behind it.
-/

namespace TransferRelay

/-- Something asked of the service. -/
inductive Operation
  | request (r : Json)
  | http (r : Http.Request)
  | process (t : Transfer)
  | filter (txs : List TransferId)
  | filterTexts (items : List String)
  | completionFlags (txs : List TransferId)
  | isCompleted (tx : TransferId)
  | rechargeEntries (tx : TransferId)
  | withdrawal (tx : TransferId)
  | metrics
  | race (requests : List Json)

namespace Operation

/-- The result of an operation. -/
inductive Result
  | envelope (e : Rpc.Envelope)
  | response (r : Http.Response)
  | outcome (r : Except Fault TransferOutcome)
  | txs (r : Except Fault (List TransferId))
  | texts (r : Except Fault (List String))
  | flags (r : Except Fault (List Bool))
  | flag (r : Except Fault Bool)
  | entries (r : Except Fault (List RechargeEntry))
  | withdrawal (r : Except Fault Withdrawal)
  | metrics (m : Metrics)
  | envelopes (es : List Rpc.Envelope)

variable {σ : Type}

/-- Runs an operation and delivers its notices. The service is taken to have just started. -/
def run (d : Deployment σ) (w : World σ) : Operation → Result × World σ
  | .request r => of .envelope (Rpc.handle r)
  | .http r =>
    let (response, w) := Http.handle d 0 r w
    (.response response, w)
  | .process t => of .outcome t.process.run
  | .filter txs => of .txs (Inquiry.filter txs).run
  | .filterTexts items => of .texts (Inquiry.filterBy TransferId.parse items).run
  | .completionFlags txs => of .flags (Task.completionFlags txs).run
  | .isCompleted tx => of .flag (Task.isCompleted tx).run
  | .rechargeEntries tx => of .entries (Task.rechargeData tx).run
  | .withdrawal tx => of .withdrawal (Inquiry.withdrawal tx).run
  | .metrics => (.metrics w.metrics, w)
  | .race requests =>
    let (es, w) := Plan.race d (requests.map Rpc.handle) w
    (.envelopes es, w)
where
  /-- The result of a plan. -/
  of {α : Type} (wrap : α → Result) (p : Plan α) : Result × World σ :=
    let (a, w) := p.complete d w
    (wrap a, w)

end Operation

end TransferRelay

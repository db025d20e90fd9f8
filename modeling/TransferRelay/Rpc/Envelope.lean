import TransferRelay.Rpc.Refusal

/-!
# Envelopes

The answer to a request: the identifier of the request and a result or a refusal. Written as JSON
it has the four members `error`, `id`, `jsonrpc` and `result`, one of the first and the last null.
-/

namespace TransferRelay.Rpc

/-- The answer to a request. -/
structure Envelope where
  id : Json
  answer : Except Refusal Json

namespace Envelope

/-- A refusal as the value of the member `error`. -/
def errorJson (r : Refusal) : Json :=
  .obj [("code", .num (.whole r.code r.code_range)), ("message", .str r.message)]

/-- An envelope as JSON. -/
def json (e : Envelope) : Json :=
  match e.answer with
  | .ok result =>
    .obj [("error", .null), ("id", e.id), ("jsonrpc", .str "2.0"), ("result", result)]
  | .error r =>
    .obj [("error", errorJson r), ("id", e.id), ("jsonrpc", .str "2.0"), ("result", .null)]

end Envelope

end TransferRelay.Rpc

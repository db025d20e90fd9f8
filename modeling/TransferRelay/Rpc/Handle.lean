import TransferRelay.Rpc.Envelope
import TransferRelay.Rpc.Params

/-!
# Handling requests

`Rpc.handle` is what the service does with one request: it finds the method, reads the parameters,
does what is asked and counts the request once, under the name of its method and how it ended.
-/

namespace TransferRelay.Rpc

/-! ## Results -/

/-- An entry of a recharge as JSON. -/
def entryJson (e : RechargeEntry) : Json :=
  .obj [("fee", .str e.fee.text), ("targetAddress", .str e.target.checksummed),
    ("targetAmount", .str e.amount.text), ("targetData", .str (Hex.encodeMarked e.data))]

/-- The entries of a recharge as JSON. -/
def entriesJson (es : List RechargeEntry) : Json :=
  .arr (es.map entryJson)

/-- A withdrawal as JSON. -/
def withdrawJson (r : Withdrawal) : Json :=
  .obj [("amount", .str r.amount.text), ("completed", .bool r.completed),
    ("signatures", .str (Hex.encodeMarked r.signatures)), ("target", .str r.target.checksummed)]

/-- The entries in a text. -/
def decodeEntries (data : String) : Task (List RechargeEntry) :=
  Task.ofExcept (Recharge.decodeText data)

/-- Does what a method is asked to do. -/
def Invocation.perform : Invocation → Task Json
  | .processed txs => do
    let kept ← Inquiry.filterBy TransferId.parse txs
    return .arr (kept.map .str)
  | .transfer t => do
    let outcome ← t.process
    return .bool outcome.alreadyCompleted
  | .rechargeData tx => do
    let es ← Task.rechargeData tx
    return entriesJson es
  | .decodeRechargeData data => do
    let es ← decodeEntries data
    return entriesJson es
  | .withdrawData tx => do
    let record ← Inquiry.withdrawal tx
    return withdrawJson record
  | .encodeWithdraw request => return .str (Hex.encodeMarked request.callData)

/-- The result of a method on parameters. -/
def Method.call (m : Method) (params : Json) : Task Json := do
  let invocation ← Task.ofExcept (Params.parse m params)
  invocation.perform

/-! ## Requests -/

/-- The identifier of a request, null if it has none. -/
def requestId (request : Json) : Json :=
  (request.get? "id").getD .null

/-- The parameters of a request, null if it has none. -/
def requestParams (request : Json) : Json :=
  (request.get? "params").getD .null

/-- The name of the method that a request asks for. -/
def requestMethod? (request : Json) : Option String :=
  (request.get? "method").bind Json.str?

/-- Counts a request and answers it. -/
def answer (request : Json) (name : RequestName) (result : Except Refusal Json) : Plan Envelope :=
  let outcome := match result with
    | .ok _ => .ok
    | .error r => r.outcome
  .count .requests (.request name outcome) (.done ⟨requestId request, result⟩)

/-- Handles a request. -/
def handle (request : Json) : Plan Envelope :=
  match requestMethod? request with
  | none => answer request .invalid (.error .noMethod)
  | some name =>
    match Method.ofName? name with
    | none => answer request .unknown (.error (.unknownMethod name))
    | some m =>
      Plan.bind (m.call (requestParams request)).run fun
        | .ok result => answer request (.served m) (.ok result)
        | .error fault => answer request (.served m) (.error (.failed fault))

end TransferRelay.Rpc

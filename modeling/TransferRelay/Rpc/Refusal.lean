import TransferRelay.Fault
import TransferRelay.Rpc.Method

/-!
# Refusals

A request is refused before a method is found, or fails in its method. A `Refusal` has the code
and the message of the answer. `RequestName` and `Outcome` are the labels under which requests are
counted; a name that a client makes up is no label.
-/

namespace TransferRelay.Rpc

/-- Why a request has no result. -/
inductive Refusal
  /-- The body is no JSON. -/
  | notJson
  /-- The request names no method. -/
  | noMethod
  /-- The service does not have the method. -/
  | unknownMethod (name : String)
  /-- The method failed. -/
  | failed (fault : Fault)
deriving DecidableEq

/-- How a request ended, as it is counted. -/
inductive Outcome
  | ok
  | parseError
  | invalidRequest
  | methodNotFound
  | fault (kind : FaultKind)
deriving DecidableEq, Repr

/-- The name under which a request is counted. -/
inductive RequestName
  | served (method : Method)
  | unknown
  | invalid
deriving DecidableEq, Repr

namespace Refusal

/-- The code in the answer. -/
def code : Refusal → Int
  | .notJson => -32700
  | .noMethod => -32600
  | .unknownMethod _ => -32601
  | .failed fault => fault.kind.code

/-- The message in the answer. -/
def message : Refusal → String
  | .notJson => "parse error"
  | .noMethod => "invalid request: missing method"
  | .unknownMethod name => "method not found: " ++ name
  | .failed fault => fault.publicMessage

/-- The outcome that is counted. -/
def outcome : Refusal → Outcome
  | .notJson => .parseError
  | .noMethod => .invalidRequest
  | .unknownMethod _ => .methodNotFound
  | .failed fault => .fault fault.kind

theorem code_range (r : Refusal) : -0x8000000000000000 ≤ r.code ∧ r.code < 0x10000000000000000 := by
  cases r with
  | failed fault => cases fault <;> simp [code, Fault.kind, FaultKind.code]
  | _ => simp [code]

end Refusal

namespace Outcome

/-- All outcomes. -/
def all : List Outcome :=
  [.ok, .parseError, .invalidRequest, .methodNotFound, .fault .malformedEncoding,
    .fault .queryUnavailable, .fault .submissionFailed, .fault .invalidInput]

/-- The label of an outcome. -/
def label : Outcome → String
  | .ok => "ok"
  | .parseError => "parse_error"
  | .invalidRequest => "invalid_request"
  | .methodNotFound => "method_not_found"
  | .fault kind => kind.name

end Outcome

namespace RequestName

/-- All names. -/
def all : List RequestName :=
  Method.all.map .served ++ [.unknown, .invalid]

/-- The label of a name. -/
def label : RequestName → String
  | .served method => method.name
  | .unknown => "unknown"
  | .invalid => "invalid"

end RequestName

end TransferRelay.Rpc

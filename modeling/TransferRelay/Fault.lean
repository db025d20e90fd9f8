import TransferRelay.Contract
import TransferRelay.Recharge
import TransferRelay.Rpc.Shape
import TransferRelay.Transfer.State
import TransferRelay.Transfer.Id

/-!
# Faults

A request fails for one of four kinds of reasons. `FaultKind` gives each kind its code, its name
and two wordings: one with all detail, and a public one, which keeps what the node said to itself.
A `Fault` is the cause.
-/

namespace TransferRelay

/-- A kind of failure. -/
inductive FaultKind
  /-- Data is not what the contract writes. -/
  | malformedEncoding
  /-- The chain could not be read. -/
  | queryUnavailable
  /-- A submission was not taken. -/
  | submissionFailed
  /-- Parameters are missing or wrong. -/
  | invalidInput
deriving DecidableEq, Repr

namespace FaultKind

/-- The name of a kind, which labels its counters. -/
def name : FaultKind → String
  | .malformedEncoding => "malformed_encoding"
  | .queryUnavailable => "query_unavailable"
  | .submissionFailed => "submission_failed"
  | .invalidInput => "invalid_input"

/-- The kind that a name denotes. -/
def ofName? : String → Option FaultKind
  | "malformed_encoding" => some .malformedEncoding
  | "query_unavailable" => some .queryUnavailable
  | "submission_failed" => some .submissionFailed
  | "invalid_input" => some .invalidInput
  | _ => none

/-- The code of a kind in an answer. -/
def code : FaultKind → Int
  | .malformedEncoding => -32001
  | .queryUnavailable => -32002
  | .submissionFailed => -32003
  | .invalidInput => -32602

/-- The wording with all detail. -/
def message (detail : String) : FaultKind → String
  | .malformedEncoding => "malformed encoding: " ++ detail
  | .queryUnavailable => "chain query unavailable: " ++ detail
  | .submissionFailed => "submission failed: " ++ detail
  | .invalidInput => "invalid input: " ++ detail

/-- The wording for clients. Of a failure of the chain they learn nothing but the kind. -/
def publicMessage (detail : String) : FaultKind → String
  | .malformedEncoding => "malformed encoding: " ++ detail
  | .queryUnavailable => "chain query unavailable"
  | .submissionFailed => "transaction submission failed"
  | .invalidInput => "invalid params: " ++ detail

end FaultKind

/-- Why the chain could not be read. -/
inductive ReadFault
  /-- Reads are switched off for a reason. -/
  | outage (reason : String)
  /-- No withdrawal is stored under the identifier. -/
  | noWithdraw (tx : TransferId)
  /-- The node did not answer a read of the contract with a value. -/
  | noAnswer (view : ContractView) (tx : TransferId)
deriving DecidableEq

/-- The wording of a failed read. -/
def ReadFault.detail : ReadFault → String
  | .outage reason => reason
  | .noWithdraw tx => "no withdraw " ++ tx.text
  | .noAnswer view tx => view.name ++ "(" ++ tx.text ++ ")"

/-- Why a submission was not taken. -/
inductive SubmitFault
  /-- Submissions are switched off for a reason. -/
  | outage (reason : String)
  /-- There is no key to sign with. -/
  | noSigner
  /-- The node could not be reached. -/
  | unreachable (method : NodeMethod)
  /-- The node answered with a status that is no success. -/
  | badStatus (method : NodeMethod) (status : String) (body : String)
  /-- The node answered with a body that is no JSON. -/
  | badBody (method : NodeMethod)
  /-- The node answered with an error. -/
  | refused (method : NodeMethod) (message : String)
  /-- A signed transaction was not accepted. -/
  | notSent (action : ContractAction) (tx : TransferId)
deriving DecidableEq

/-- The wording of a failed submission. -/
def SubmitFault.detail : SubmitFault → String
  | .outage reason => reason
  | .noSigner => "no signer configured for local submission"
  | .unreachable method => method.name ++ " request failed"
  | .badStatus method status body => method.name ++ " returned HTTP " ++ status ++ ": " ++ body
  | .badBody method => method.name ++ " returned invalid JSON"
  | .refused method message => method.name ++ " rejected by node: " ++ message
  | .notSent action tx => action.name ++ "(" ++ tx.text ++ ")"

/-- What is wrong with the input of a request. -/
inductive InputFault
  /-- A text is no identifier. -/
  | badTx (cause : TransferId.Fault)
  /-- A field that must hold text is blank. -/
  | blank (field : String)
  /-- A field is not hexadecimal. -/
  | badHex (field : String) (cause : Hex.Fault)
  /-- A field is no amount. -/
  | badAmount (field : String)
  /-- There are no parameters. -/
  | missingParams
  /-- The parameters do not have the shape of the method. -/
  | badShape (cause : Rpc.ShapeFault)
  /-- A transfer would take a step that is not allowed. -/
  | badTransition (cause : IllegalTransition)
deriving DecidableEq

/-- The wording of a wrong input. -/
def InputFault.detail : InputFault → String
  | .badTx cause => cause.message
  | .blank field => field ++ " must not be empty"
  | .badHex field cause => field ++ " is not valid hex: " ++ cause.message
  | .badAmount field => field ++ " must be an unsigned integer"
  | .missingParams => "missing params"
  | .badShape cause => cause.message
  | .badTransition cause => cause.message

/-- Why a request failed. -/
inductive Fault
  | malformed (cause : Recharge.TextFault)
  | read (cause : ReadFault)
  | submit (cause : SubmitFault)
  | input (cause : InputFault)
deriving DecidableEq

namespace Fault

/-- The kind of a fault. -/
def kind : Fault → FaultKind
  | .malformed _ => .malformedEncoding
  | .read _ => .queryUnavailable
  | .submit _ => .submissionFailed
  | .input _ => .invalidInput

/-- The detail of a fault. -/
def detail : Fault → String
  | .malformed cause => cause.message
  | .read cause => cause.detail
  | .submit cause => cause.detail
  | .input cause => cause.detail

/-- The wording of a fault with all detail. -/
def message (f : Fault) : String :=
  f.kind.message f.detail

/-- The wording of a fault for clients. -/
def publicMessage (f : Fault) : String :=
  f.kind.publicMessage f.detail

end Fault

end TransferRelay

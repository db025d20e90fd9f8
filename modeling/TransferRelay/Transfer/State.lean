/-!
# States of a transfer

A transfer is unseen, submitted, completed or refunded. `TransferState.transition` allows the steps
of its life and refuses every step out of a terminal state.
-/

namespace TransferRelay

/-- The state of a transfer. -/
inductive TransferState
  | unseen
  | submitted
  | completed
  | refunded
deriving DecidableEq, Repr

/-- A step between two states that is not allowed. -/
structure IllegalTransition where
  source : TransferState
  target : TransferState
deriving DecidableEq, Repr

namespace TransferState

/-- The name of a state. -/
def name : TransferState → String
  | .unseen => "unseen"
  | .submitted => "submitted"
  | .completed => "completed"
  | .refunded => "refunded"

/-- The state that a name denotes. -/
def ofName? : String → Option TransferState
  | "unseen" => some .unseen
  | "submitted" => some .submitted
  | "completed" => some .completed
  | "refunded" => some .refunded
  | _ => none

/-- Whether a transfer stays in this state for ever. -/
def isTerminal : TransferState → Bool
  | .completed | .refunded => true
  | _ => false

/-- Whether a transfer may pass from one state to another. Staying is always allowed. -/
def canBecome (source target : TransferState) : Bool :=
  source = target ||
    match source, target with
    | .unseen, .submitted => true
    | .submitted, .completed => true
    | .submitted, .refunded => true
    | _, _ => false

/-- The state after a step, if the step is allowed. -/
def transition (source target : TransferState) : Except IllegalTransition TransferState :=
  if source.canBecome target then .ok target else .error ⟨source, target⟩

end TransferState

/-- The wording of a refused step. -/
def IllegalTransition.message (e : IllegalTransition) : String :=
  "illegal transfer transition " ++ e.source.name ++ " -> " ++ e.target.name

end TransferRelay

import TransferRelay.Net.SocketAddress

/-!
# Listening

The service listens at a literal address of the machine. `Http.listen` says where, or why not.
-/

namespace TransferRelay.Http

/-- Why the service cannot listen. -/
inductive ListenFault
  /-- The host and the port make no address. -/
  | badAddress (host : String) (port : Nat)
  /-- The address is none of the machine. -/
  | foreignAddress
deriving DecidableEq, Repr

/-- The wording of a fault. -/
def ListenFault.message : ListenFault → String
  | .badAddress host port =>
    "Invalid bind address " ++ host ++ ":" ++ toString port ++ ": invalid socket address syntax"
  | .foreignAddress => "Cannot assign requested address (os error 99)"

/-- The address at which the service listens on a machine that owns some addresses. -/
def listen (owned : IpAddress → Bool) (host : String) (port : Nat) :
    Except ListenFault SocketAddress :=
  match SocketAddress.parse? (host ++ ":" ++ toString port) with
  | none => .error (.badAddress host port)
  | some a => if owned a.ip then .ok a else .error .foreignAddress

end TransferRelay.Http

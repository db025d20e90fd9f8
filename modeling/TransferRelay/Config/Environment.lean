import TransferRelay.Text.Blank

/-!
# The environment

An `Environment` gives each variable that is set its bytes. Only bytes that are UTF-8 count, any
others are as good as none. `Variable` names the seven variables that configure the service.
-/

namespace TransferRelay

/-- A variable that configures the service. -/
inductive Variable
  | rpcUrl
  | bridgeAddress
  | privateKey
  | bindAddress
  | port
  | rpcTimeout
  | maxConcurrentQueries
deriving DecidableEq, Repr

namespace Variable

/-- All variables. -/
def all : List Variable :=
  [.rpcUrl, .bridgeAddress, .privateKey, .bindAddress, .port, .rpcTimeout, .maxConcurrentQueries]

/-- The name of a variable. -/
def name : Variable → String
  | .rpcUrl => "SIDECHAIN_RPC_URL"
  | .bridgeAddress => "BRIDGE_ADDRESS"
  | .privateKey => "ORACLE_PRIVATE_KEY"
  | .bindAddress => "BIND_ADDRESS"
  | .port => "ORACLE_PORT"
  | .rpcTimeout => "RPC_TIMEOUT_MS"
  | .maxConcurrentQueries => "MAX_CONCURRENT_QUERIES"

end Variable

/-- The value of each variable that is set, by name. -/
structure Environment where
  bytes : String → Option ByteArray

namespace Environment

/-- An environment in which nothing is set. -/
def empty : Environment := ⟨fun _ => none⟩

/-- The text of a variable. -/
def text? (e : Environment) (name : String) : Option String :=
  (e.bytes name).bind String.fromUTF8?

/-- An environment with one variable set. -/
def set (e : Environment) (name : String) (value : ByteArray) : Environment :=
  ⟨fun other => if other = name then some value else e.bytes other⟩

/-- An environment with one variable set, unless it has a text. -/
def setMissing (e : Environment) (name value : String) : Environment :=
  match e.text? name with
  | some _ => e
  | none => e.set name value.toUTF8

end Environment

end TransferRelay

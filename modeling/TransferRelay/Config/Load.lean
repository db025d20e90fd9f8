import TransferRelay.Address
import TransferRelay.Chain.World
import TransferRelay.Config.SettingsFile
import TransferRelay.Text.Unsigned

/-!
# Configuration

`Config.load` reads the configuration from the environment. Every variable but the URL of the node
has a default; one that is set and cannot be read is a fault that names it. `Config.debugText` shows
a configuration without its private key.
-/

namespace TransferRelay

/-- The configuration of the service. -/
structure Config where
  rpcUrl : String
  bridgeAddress : Address
  privateKey : Option String
  bindAddress : String
  port : Nat
  rpcTimeoutMs : Nat
  maxConcurrentQueries : Nat
deriving DecidableEq

namespace Config

/-- Why there is no configuration. -/
inductive Fault
  /-- The URL of the node is not set or blank. -/
  | missingUrl
  /-- The address of the contract is no address. -/
  | badBridge (raw : String) (cause : FixedHexFault)
  /-- A number cannot be read. -/
  | badNumber (source : Variable) (raw : String) (cause : Text.UnsignedFault)
  /-- No read of a batch might be in flight. -/
  | noQueries
  /-- There is no time for a call. -/
  | noTimeout
deriving DecidableEq

/-- The wording of a fault. -/
def Fault.message : Fault → String
  | .missingUrl => Variable.rpcUrl.name ++ " required"
  | .badBridge raw cause =>
    "Invalid " ++ Variable.bridgeAddress.name ++ " " ++ raw ++ ": " ++ cause.message
  | .badNumber source raw cause =>
    "Invalid " ++ source.name ++ " " ++ Text.quote raw ++ ": " ++ cause.message
  | .noQueries => "Invalid " ++ Variable.maxConcurrentQueries.name ++ ": must be at least 1"
  | .noTimeout => "Invalid " ++ Variable.rpcTimeout.name ++ ": must be positive"

/-! ## Defaults -/

/-- The address of the contract on the side chain. -/
def defaultBridge : Address := ⟨List.replicate 19 0 ++ [0x64], rfl⟩

def defaultBindAddress : String := "0.0.0.0"

def defaultPort : Nat := 20632

def defaultTimeoutMs : Nat := 30000

/-! ## Loading -/

/-- The text of a variable, if it is more than blanks. -/
def notBlank? (e : Environment) (v : Variable) : Option String :=
  (e.text? v.name).filter fun s => !Text.isAllBlank s

/-- The URL of the node. -/
def loadUrl (e : Environment) : Except Fault String :=
  match notBlank? e .rpcUrl with
  | some url => .ok url
  | none => .error .missingUrl

/-- The address of the contract. -/
def loadBridge (e : Environment) : Except Fault Address :=
  match e.text? Variable.bridgeAddress.name with
  | none => .ok defaultBridge
  | some raw =>
    match Address.parse (Text.trim raw) with
    | .ok a => .ok a
    | .error cause => .error (.badBridge raw cause)

/-- A number below a limit. -/
def loadNumber (e : Environment) (v : Variable) (limit default : Nat) : Except Fault Nat :=
  match e.text? v.name with
  | none => .ok default
  | some raw =>
    match Text.readUnsigned limit (Text.trimChars raw.toList) with
    | .ok n => .ok n
    | .error cause => .error (.badNumber v raw cause)

/-- A number that must not be zero. -/
def positive (fault : Fault) (n : Nat) : Except Fault Nat :=
  if n = 0 then .error fault else .ok n

/-- Reads the configuration. -/
def load (e : Environment) : Except Fault Config := do
  let url ← loadUrl e
  let bridge ← loadBridge e
  let queries ← loadNumber e .maxConcurrentQueries (Nat.pow 2 64) Deployment.defaultWindow
  let queries ← positive .noQueries queries
  let timeout ← loadNumber e .rpcTimeout (Nat.pow 2 64) defaultTimeoutMs
  let timeout ← positive .noTimeout timeout
  let port ← loadNumber e .port (Nat.pow 2 16) defaultPort
  return {
    rpcUrl := url
    bridgeAddress := bridge
    privateKey := notBlank? e .privateKey
    bindAddress := (e.text? Variable.bindAddress.name).getD defaultBindAddress
    port := port
    rpcTimeoutMs := timeout
    maxConcurrentQueries := queries }

/-! ## Showing -/

/-- A configuration as diagnostics show it. Of the private key they show only whether it is set. -/
def debugText (c : Config) : String :=
  let key := match c.privateKey with
    | some _ => "Some(\"<redacted>\")"
    | none => "None"
  "Config \x7b sidechain_rpc_url: " ++ Text.quote c.rpcUrl ++
    ", bridge_address: " ++ c.bridgeAddress.text ++
    ", private_key: " ++ key ++
    ", bind_address: " ++ Text.quote c.bindAddress ++
    ", port: " ++ toString c.port ++
    ", rpc_timeout_ms: " ++ toString c.rpcTimeoutMs ++
    ", max_concurrent_queries: " ++ toString c.maxConcurrentQueries ++ " \x7d"

end Config

end TransferRelay

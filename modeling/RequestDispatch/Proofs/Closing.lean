import RequestDispatch.Proofs.Lifetime

/-!
# Closing sources

A source that yields one value may come with an action that closes it. The action is run once in a
dispatch, be it that the source gives no value or that its cleanup ends it, with one exception: when
the source panics as the cleanup ends it, the closing is left out if the source is asynchronous or
the closing is blocking. `Dispatcher.dispatch_closes` says so of every call of a factory that gives
such a source, and `panicking_source_unclosed` shows the exception. When a panic that nothing
contains ends the dispatch, no cleanup is run and a source that has yielded stays open.
-/

namespace RequestDispatch

variable {σ κ ν : Type}

/-! ## Closings in a journal -/

/-- The closing of the source of an invocation. -/
def Event.isClosed (origin : Nat) : Event → Bool
  | .closed o => o == origin
  | _ => false

/-- How often the source of an invocation is closed. -/
def closings (origin : Nat) (journal : List Event) : Nat := journal.countP (Event.isClosed origin)

theorem Event.isOf_of_isClosed {origin : Nat} {e : Event} (h : e.isClosed origin) :
    e.isOf origin := by
  cases e <;> simp_all [isClosed, isOf]

/-- A closing belongs to the life of the source. -/
theorem closings_lifeOf (origin : Nat) (journal : List Event) :
    closings origin (lifeOf origin journal) = closings origin journal := by
  rw [closings, lifeOf, List.countP_filter]
  refine List.countP_congr fun e _ => ?_
  rw [Bool.and_eq_true]
  exact ⟨fun h => h.1, fun h => ⟨h, Event.isOf_of_isClosed h⟩⟩

/-! ## The cleanup of a source -/

/-- A piece of application code panicked. -/
def Completion.isPanic {α : Type} : Completion α → Bool
  | .error (.panicked _ _) => true
  | _ => false

namespace Cleanup

/-- How the rest of a source ends when it is advanced in a session. -/
def ending (rest : Effect σ κ (Option ν)) (s : Session σ κ) : Completion (Option ν) :=
  (rest ⟨s.telemetry, s.queue.length⟩ s.world).1

/-- Ending a source leaves its closing out: the source panics, and either the closing is of one
piece with it or nothing contains the panic. -/
def leavesOut (source : Mode) (rest : Effect σ κ (Option ν)) (close : Action σ κ)
    (s : Session σ κ) : Bool :=
  (ending rest s).isPanic && (source == .async || close.mode == .blocking)

section

variable {origin : Nat} {source : Mode} {rest : Effect σ κ (Option ν)} {close : Action σ κ}
  {s : Session σ κ}

theorem journal_closeInside : (closeInside origin (some close) s).journal = [.closed origin] := rfl

theorem journal_exhaustTogether :
    (exhaustTogether origin rest (some close) s).journal =
      .advanced origin :: if (ending rest s).isPanic then [] else [.closed origin] := by
  have hended : (Run.perform (.advanced origin) rest s).result = ending rest s := rfl
  -- by how the source ends and how the closing does
  rcases h : ending rest s with (e | ⟨p, early⟩) | (_ | value) <;>
    rcases hclosed : (closeInside origin (some close)
      (Run.perform (.advanced origin) rest s).session).result with (e' | ⟨p', early'⟩) | ⟨⟩ <;>
    simp [exhaustTogether, Run.bind_apply, hended, h, hclosed, Completion.exhausted,
      journal_closeInside, Completion.isPanic]

theorem journal_exhaustApart :
    (exhaustApart origin source rest (some close) s).journal =
      .advanced origin ::
        if (ending rest s).isPanic && source == .async then [] else [.closed origin] := by
  have hended : (Run.perform (.advanced origin) rest s).result = ending rest s := rfl
  rcases h : ending rest s with (e | ⟨p, early⟩) | (_ | value) <;> cases source <;>
    simp [exhaustApart, Run.bind_apply, hended, h, Completion.exhausted, closeApart,
      Completion.isPanic]

/-- Ending a source closes it once, or not at all if the closing is left out. -/
theorem journal_exhaust :
    ((exhaust source rest (some close)).run origin s).journal =
      .advanced origin :: if leavesOut source rest close s then [] else [.closed origin] := by
  -- by the modes: a blocking source and a blocking closing are of one piece
  cases source with
  | async => simp [run, mode, Run.bind_apply, journal_exhaustApart, leavesOut]
  | blocking =>
    rcases h : close.mode with _ | _
    · simp [run, mode, h, Run.bind_apply, journal_exhaustTogether, leavesOut]
    · simp [run, mode, h, Run.bind_apply, journal_exhaustApart, leavesOut]

end

end Cleanup

/-! ## The first advance of a source -/

namespace SingleStep

variable {step : SingleStep σ κ ν} {close : Action σ κ} (origin : Nat) {s : Session σ κ}

/-- What the first advance of a source gives: a value and the rest, nothing or an error. -/
def opening (step : SingleStep σ κ ν) (s : Session σ κ) :
    Except DispatchError (Option (Yield σ κ ν)) :=
  (step.first ⟨s.telemetry, s.queue.length⟩ s.world).1.contain step.mode

/-- A source that yields is not closed yet, and its cleanup will end and close it. -/
theorem normalize_yielded {yielded : Yield σ κ ν} (h : step.opening s = .ok (some yielded)) :
    let t := (Outcome.singleStep step).normalize origin s
    t.result = .ok ⟨yielded.value, some (.exhaust step.mode yielded.rest step.close)⟩ ∧
      t.journal = [.advanced origin, .yielded origin] := by
  have hfirst : (Run.perform (.advanced origin) step.first s).result.contain step.mode =
      .ok (some yielded) := h
  simp [Outcome.normalize, Run.bind_apply, hfirst]

/-- A source that gives no value is closed at once, and no cleanup remains. -/
theorem normalize_unused (hclose : step.close = some close)
    (h : ∀ yielded, step.opening s ≠ .ok (some yielded)) :
    let t := (Outcome.singleStep step).normalize origin s
    (∃ e, t.result = .error e) ∧ t.journal = [.advanced origin, .closed origin] := by
  rcases hopening : step.opening s with e | (_ | yielded)
  · have hfirst : (Run.perform (.advanced origin) step.first s).result.contain step.mode =
        .error e := hopening
    simp [Outcome.normalize, Run.bind_apply, hfirst, Cleanup.closeApart, hclose]
  · have hfirst : (Run.perform (.advanced origin) step.first s).result.contain step.mode =
        .ok none := hopening
    simp [Outcome.normalize, Run.bind_apply, hfirst, Cleanup.closeApart, hclose]
  · exact absurd hopening (h yielded)

end SingleStep

/-! ## The closings of a dispatch -/

namespace Dispatcher

/-- How often a dispatch closes a source that one of its calls gave. What a source that yields
leaves pending is the one cleanup of the call, and it starts in the session that the cleanups before
it leave. -/
inductive Closes (d : Dispatcher σ κ ν) (request : Request) (s : Session σ κ)
    (i : Invocation σ κ ν) (step : SingleStep σ κ ν) (close : Action σ κ) : Nat → Prop where
  /-- The source gave no value and is closed at once. -/
  | unused (h : ∀ yielded, step.opening i.called.session ≠ .ok (some yielded)) :
      Closes d request s i step close 1
  /-- The source is closed when its cleanup has ended it. -/
  | ended {yielded : Yield σ κ ν} {pending : List (Nat × Cleanup σ κ ν)} {u : Session σ κ}
      (h : step.opening i.called.session = .ok (some yielded))
      (cleans : d.Cleans request s pending u)
      (held : cleanupsOf i.origin pending =
        [(i.origin, .exhaust step.mode yielded.rest (some close))])
      (closes : Cleanup.leavesOut step.mode yielded.rest close
        (CleanupStack.startOf i.origin pending u) = false) :
      Closes d request s i step close 1
  /-- The source panics when its cleanup ends it, and the closing is left out. -/
  | leftOut {yielded : Yield σ κ ν} {pending : List (Nat × Cleanup σ κ ν)} {u : Session σ κ}
      (h : step.opening i.called.session = .ok (some yielded))
      (cleans : d.Cleans request s pending u)
      (held : cleanupsOf i.origin pending =
        [(i.origin, .exhaust step.mode yielded.rest (some close))])
      (leavesOut : Cleanup.leavesOut step.mode yielded.rest close
        (CleanupStack.startOf i.origin pending u) = true) :
      Closes d request s i step close 0
  /-- A panic ends the dispatch, and no cleanup is run after it. -/
  | abandoned {yielded : Yield σ κ ν} {panic : Panic}
      (h : step.opening i.called.session = .ok (some yielded))
      (panics : (d.dispatch request s).result = .error panic) :
      Closes d request s i step close 0

/-- A dispatch closes every source with a closing action that one of its calls gives as `Closes`
says. -/
structure ClosesSources (d : Dispatcher σ κ ν) (request : Request) (s : Session σ κ) : Prop where
  closes : ∀ i step close, d.Invokes request s i → i.outcome = .ok (.singleStep step) →
    step.close = some close →
      d.Closes request s i step close (closings i.origin (d.dispatch request s).journal)

/-- A source that has yielded leaves its ending and closing pending. -/
private theorem held_yielded {i : Invocation σ κ ν} {step : SingleStep σ κ ν}
    {close : Action σ κ} {yielded : Yield σ κ ν} (hout : i.outcome = .ok (.singleStep step))
    (hclose : step.close = some close) (h : step.opening i.called.session = .ok (some yielded)) :
    i.held = [(i.origin, .exhaust step.mode yielded.rest (some close))] := by
  obtain ⟨hresult, -⟩ := SingleStep.normalize_yielded i.origin h
  rw [i.held_of_ok hout hresult, hclose]
  rfl

/-- A source that has yielded is not closed by then. -/
private theorem obtaining_yielded {i : Invocation σ κ ν} {step : SingleStep σ κ ν}
    {yielded : Yield σ κ ν} (hout : i.outcome = .ok (.singleStep step))
    (h : step.opening i.called.session = .ok (some yielded)) :
    i.obtaining = [.advanced i.origin, .yielded i.origin] := by
  obtain ⟨-, hjournal⟩ := SingleStep.normalize_yielded i.origin h
  rw [i.obtaining_of_ok hout]
  exact hjournal

/-- The closings of a source that has yielded are those of its cleanup. -/
private theorem closings_yielded {i : Invocation σ κ ν} {step : SingleStep σ κ ν}
    {close : Action σ κ} {yielded : Yield σ κ ν} (hout : i.outcome = .ok (.singleStep step))
    (h : step.opening i.called.session = .ok (some yielded))
    (hheld : i.held = [(i.origin, .exhaust step.mode yielded.rest (some close))])
    (pending : List (Nat × Cleanup σ κ ν)) (u : Session σ κ) :
    closings i.origin (i.obtaining ++ i.undoing pending u) =
      if Cleanup.leavesOut step.mode yielded.rest close
        (CleanupStack.startOf i.origin pending u) then 0 else 1 := by
  rw [obtaining_yielded hout h, Invocation.undoing, hheld, List.flatMap_singleton,
    CleanupStack.undoing,
    Cleanup.journal_exhaust]
  split <;> simp [closings, Event.isClosed]

/-- A source that gives no value is closed at once. -/
private theorem closings_obtaining {i : Invocation σ κ ν} {step : SingleStep σ κ ν}
    {close : Action σ κ} (hout : i.outcome = .ok (.singleStep step))
    (hclose : step.close = some close)
    (h : ∀ yielded, step.opening i.called.session ≠ .ok (some yielded)) :
    i.held = [] ∧ closings i.origin i.obtaining = 1 := by
  obtain ⟨⟨e, he⟩, hjournal⟩ := SingleStep.normalize_unused i.origin hclose h
  have hobtaining : i.obtaining = [.advanced i.origin, .closed i.origin] := by
    rw [i.obtaining_of_ok hout]
    exact hjournal
  refine ⟨i.held_of_refused hout he, ?_⟩
  rw [hobtaining]
  simp [closings, Event.isClosed]

/-- Every source is closed once, but for those whose panic leaves the closing out and for those that
a dispatch leaves behind as a panic ends it. -/
theorem dispatch_closes (d : Dispatcher σ κ ν) (request : Request) (s : Session σ κ) :
    d.ClosesSources request s := by
  refine ⟨fun i step close invokes hout hclose => ?_⟩
  have life := d.life invokes
  rw [← closings_lifeOf]
  -- by whether the source yields, and then by whether its panic leaves the closing out
  by_cases h : ∃ yielded, step.opening i.called.session = .ok (some yielded)
  · obtain ⟨yielded, h⟩ := h
    have hheld := held_yielded hout hclose h
    rcases life with ⟨pending, u, cleans, hcleanups, hlife⟩ | ⟨panic, panics, hlife⟩
    · rw [hlife, closings_yielded hout h hheld]
      split
      · next leavesOut => exact .leftOut h cleans (hcleanups.trans hheld) leavesOut
      · next closes => exact .ended h cleans (hcleanups.trans hheld) (Bool.eq_false_iff.mpr closes)
    · have hnone : closings i.origin (lifeOf i.origin (d.dispatch request s).journal) = 0 := by
        rw [hlife, obtaining_yielded hout h]
        rfl
      rw [hnone]
      exact .abandoned h panics
  · have hunused : ∀ yielded, step.opening i.called.session ≠ .ok (some yielded) :=
      fun yielded hyielded => h ⟨yielded, hyielded⟩
    obtain ⟨hheld, hclosings⟩ := closings_obtaining hout hclose hunused
    have hone : closings i.origin (lifeOf i.origin (d.dispatch request s).journal) = 1 := by
      rcases life with ⟨pending, u, -, -, hlife⟩ | ⟨panic, -, hlife⟩
      · rw [hlife, Invocation.undoing, hheld, List.flatMap_nil, List.append_nil, hclosings]
      · rw [hlife, hclosings]
    rw [hone]
    exact .unused hunused

end Dispatcher

/-! ## A source that panics -/

/-- A connection that a blocking source yields; ending the source panics. Closing it is blocking. -/
def brittleConnection : Factory Unit Unit Unit :=
  .new 1 "connection" .async fun _ => Effect.value (.singleStep
    { mode := .blocking
      first := Effect.value
        (some ⟨(), fun _ w => (.error (.panicked (.message "lost") false), w, [])⟩)
      close := some ⟨.blocking, Effect.value ()⟩ })

/-- The dispatcher of a route that needs the connection. -/
def brittleDispatcher : Dispatcher Unit Unit Unit :=
  .new { Route.new "GET" "/" ⟨.async, fun _ => Effect.value (.response (.ofStatus 204))⟩ with
    dependencies := [("connection", brittleConnection)] }

/-- The connection is opened and cleaned up, but it is never closed. -/
theorem panicking_source_unclosed :
    let journal := (brittleDispatcher.dispatch (.new "GET" "/") ⟨(), (), []⟩).journal
    lifeOf 0 journal =
        [.advanced 0, .yielded 0, .cleanupStarted 0, .advanced 0, .cleanupFinished 0] ∧
      closings 0 journal = 0 := by
  decide +kernel

end RequestDispatch

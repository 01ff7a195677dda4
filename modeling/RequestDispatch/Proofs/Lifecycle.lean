import RequestDispatch.Application.Lifecycle
import RequestDispatch.Proofs.InTurn

/-!
# The life of an application

Hooks are registered with an application, and it is started, stopped, or run until something is
over, in any order and any number of times. `Application.startup` and `Application.shutdown` each
have a latch that only their first call passes. This file says what one such call does
(`LifecycleCall.run_application`, `LifecycleCall.startups_run`, `LifecycleCall.stops_run`) and, by
induction, what a sequence of calls does: `Application.hooks_run_once` is about which hooks run, and
`Application.starts_report` about what the calls that start the application report. A panic in the
call of an asynchronous hook goes through the call that starts or stops the application.
-/

namespace RequestDispatch

variable {σ κ ν : Type}

/-! ## Calls -/

namespace Event

/-- A call of a startup hook. -/
def isStartup : Event → Bool
  | .startupHook _ => true
  | _ => false

/-- A call of a shutdown hook, or a flush of the telemetry. -/
def isStopping : Event → Bool
  | .shutdownHook _ | .notice .flushed => true
  | _ => false

end Event

/-- The calls of startup hooks in a journal. -/
def startups (journal : List Event) : List Event := journal.filter Event.isStartup

/-- The calls of shutdown hooks and the flushes in a journal. -/
def stops (journal : List Event) : List Event := journal.filter Event.isStopping

@[simp] theorem startups_append (first second : List Event) :
    startups (first ++ second) = startups first ++ startups second := List.filter_append ..

@[simp] theorem stops_append (first second : List Event) :
    stops (first ++ second) = stops first ++ stops second := List.filter_append ..

/-- What an application waits for between its start and its end. It starts and stops nothing. -/
structure Wait (σ κ : Type) where
  run : Run σ κ Unit
  starts_nothing : ∀ s, startups (run s).journal = []
  stops_nothing : ∀ s, stops (run s).journal = []

/-- A call in the life of an application. -/
inductive LifecycleCall (σ κ : Type) where
  | onStartup (hook : LifecycleHook σ κ)
  | onShutdown (hook : LifecycleHook σ κ)
  | startup
  | shutdown
  | runUntil (wait : Wait σ κ)

namespace LifecycleCall

/-- Whether a call starts the application. -/
def starts : LifecycleCall σ κ → Bool
  | .startup | .runUntil _ => true
  | _ => false

/-- The startup hook that a call registers. -/
def startupHooks : LifecycleCall σ κ → List (LifecycleHook σ κ)
  | .onStartup hook => [hook]
  | _ => []

/-- The shutdown hook that a call registers. -/
def shutdownHooks : LifecycleCall σ κ → List (LifecycleHook σ κ)
  | .onShutdown hook => [hook]
  | _ => []

/-- Makes a call: what it reports, which is a success unless a start fails or a panic of a hook goes
through the call, and the application after it. The caller survives such a panic. -/
def run : LifecycleCall σ κ → Application σ κ ν →
    Run σ κ (Except (Stop StartupFailure) Unit × Application σ κ ν)
  | .onStartup hook, a => pure (.ok (), a.onStartup hook)
  | .onShutdown hook, a => pure (.ok (), a.onShutdown hook)
  | .startup, a => a.startup
  | .shutdown, a => do
    let (result, a) ← a.shutdown
    return (result.mapError .unwound, a)
  | .runUntil wait, a => a.runUntil wait.run

/-- The session in which a call stops the application, if the call comes to that: running until
something is over does so only if the start reports a success. -/
def stopsAt : LifecycleCall σ κ → Application σ κ ν → Session σ κ → Option (Session σ κ)
  | .shutdown, _, s => some s
  | .runUntil wait, a, s =>
    match (a.startup s).result.1 with
    | .ok () => some (wait.run (a.startup s).session).session
    | .error _ => none
  | _, _, _ => none

end LifecycleCall

/-- Makes calls one after another. -/
def Application.runCalls : List (LifecycleCall σ κ) → Application σ κ ν →
    Run σ κ (List (Except (Stop StartupFailure) Unit) × Application σ κ ν)
  | [], a => pure ([], a)
  | call :: calls, a => do
    let (report, a) ← call.run a
    let (reports, a) ← runCalls calls a
    return (report :: reports, a)

/-- Whether one of the calls comes to stopping the application. -/
def Application.stopsWithin : List (LifecycleCall σ κ) → Application σ κ ν → Session σ κ → Bool
  | [], _, _ => false
  | call :: calls, a, s =>
    (call.stopsAt a s).isSome ||
      stopsWithin calls (call.run a s).result.2 (call.run a s).session

namespace Application

/-! ## Hooks in turn -/

/-- The call of a startup hook: the next one follows, or the start has stopped. -/
def startupCall (position : Nat) (hook : LifecycleHook σ κ) (_ : Unit) :
    Run σ κ (Unit ⊕ Stop StartupFailure) := do
  let completion ← Run.performAlone (.startupHook position) hook.call
  return match completion.called hook.mode with
    | .ok () => .inl ()
    | .error stop => .inr (stop.map (.mk hook.name))

/-- The call of a shutdown hook. How it ends is dropped, so nothing but a panic that is not
contained stops the next. -/
def shutdownCall (position : Nat) (hook : LifecycleHook σ κ) (_ : Unit) :
    Run σ κ (Unit ⊕ Panic) := do
  let completion ← Run.performAlone (.shutdownHook position) hook.call
  return match completion.called hook.mode with
    | .error (.unwound panic) => .inr panic
    | _ => .inl ()

/-- What is reported when hooks have been called. -/
def hooksReport {β : Type} : Unit × Option β → Except β Unit
  | (_, none) => .ok ()
  | (_, some stop) => .error stop

/-- The startup hooks are called in turn. -/
theorem runStartup_inTurn (position : Nat) (hooks : List (LifecycleHook σ κ)) (s : Session σ κ) :
    ∃ t, InTurn startupCall position hooks () s t ∧
      runStartup position hooks s = ⟨hooksReport t.result, t.session, t.journal⟩ := by
  induction hooks generalizing position s with
  | nil => exact ⟨_, .done _ _ _, rfl⟩
  | cons hook hooks ih =>
    -- by whether the first hook stops the start
    rcases h : (Run.performAlone (.startupHook position) hook.call s).result.called
      hook.mode with stop | _
    · have hcall : (startupCall position hook () s).result = .inr (stop.map (.mk hook.name)) := by
        simp [startupCall, h]
      refine ⟨_, .stopped hooks hcall, ?_⟩
      simp [runStartup, startupCall, hooksReport, Run.bind_apply, h]
    · have hcall : (startupCall position hook () s).result = .inl () := by
        simp [startupCall, h]
      obtain ⟨t, ht, hrun⟩ := ih (position + 1) (startupCall position hook () s).session
      refine ⟨_, .passed hcall ht, ?_⟩
      simp only [startupCall, Run.bind_apply, Run.pure_apply] at hrun ⊢
      simp [runStartup, Run.bind_apply, h, hrun]

/-- The shutdown hooks are called in turn. -/
theorem runShutdown_inTurn (position : Nat) (hooks : List (LifecycleHook σ κ)) (s : Session σ κ) :
    ∃ t, InTurn shutdownCall position hooks () s t ∧
      runShutdown position hooks s = ⟨hooksReport t.result, t.session, t.journal⟩ := by
  induction hooks generalizing position s with
  | nil => exact ⟨_, .done _ _ _, rfl⟩
  | cons hook hooks ih =>
    -- by whether a panic goes through the first hook
    rcases hcall : (shutdownCall position hook () s).result with ⟨⟩ | panic
    · obtain ⟨t, ht, hrun⟩ := ih (position + 1) (shutdownCall position hook () s).session
      refine ⟨_, .passed hcall ht, ?_⟩
      simp only [shutdownCall, Run.bind_apply, Run.pure_apply] at hcall hrun ⊢
      simp only [runShutdown, Run.bind_apply]
      split at hcall <;> simp_all
    · refine ⟨_, .stopped hooks hcall, ?_⟩
      simp only [shutdownCall, Run.bind_apply, Run.pure_apply] at hcall ⊢
      simp only [runShutdown, Run.bind_apply, hooksReport]
      split at hcall <;> simp_all

/-- Calls in turn that enter one event each enter them in order. -/
theorem journal_inTurn {ι β : Type} {call : Nat → ι → Unit → Run σ κ (Unit ⊕ β)}
    {event : Nat → Event}
    (hcall : ∀ position i a s, (call position i a s).journal = [event position]) {is : List ι}
    {s : Session σ κ} {t : Step σ κ (Unit × Option β)} (h : InTurn call 0 is () s t) :
    ∃ n ≤ is.length, t.journal = (List.range n).map event ∧
      (t.result.2 = none → n = is.length) := by
  obtain ⟨n, hn, ht, hall⟩ := h.positions hcall
  exact ⟨n, hn, by rw [ht, ← List.map_eq_flatMap, List.range_eq_range'], hall⟩

/-- Startup hooks are called in order, from the first one on. -/
theorem journal_runStartup (hooks : List (LifecycleHook σ κ)) (s : Session σ κ) :
    ∃ n, (runStartup 0 hooks s).journal = (List.range n).map .startupHook := by
  obtain ⟨t, ht, hrun⟩ := runStartup_inTurn 0 hooks s
  obtain ⟨n, -, hn, -⟩ := journal_inTurn (fun _ _ _ _ => rfl) ht
  exact ⟨n, by rw [hrun, hn]⟩

/-- All shutdown hooks are called, unless a panic goes through one of them. -/
theorem journal_runShutdown (hooks : List (LifecycleHook σ κ)) (s : Session σ κ) :
    ∃ n ≤ hooks.length, (runShutdown 0 hooks s).journal = (List.range n).map .shutdownHook ∧
      ((runShutdown 0 hooks s).result.isOk → n = hooks.length) := by
  obtain ⟨t, ht, hrun⟩ := runShutdown_inTurn 0 hooks s
  obtain ⟨n, hle, hn, hall⟩ := journal_inTurn (fun _ _ _ _ => rfl) ht
  refine ⟨n, hle, by rw [hrun, hn], fun hok => hall ?_⟩
  rw [hrun] at hok
  rcases hresult : t.result with ⟨⟨⟩, _ | panic⟩
  · rfl
  · rw [hresult] at hok
    cases hok

/-- A startup calls startup hooks and does nothing else. -/
@[simp] theorem startups_runStartup (hooks : List (LifecycleHook σ κ)) (s : Session σ κ) :
    startups (runStartup 0 hooks s).journal = (runStartup 0 hooks s).journal := by
  obtain ⟨n, hn⟩ := journal_runStartup hooks s
  rw [hn, startups, List.filter_eq_self]
  simp [Event.isStartup]

/-- A startup stops nothing. -/
@[simp] theorem stops_runStartup (hooks : List (LifecycleHook σ κ)) (s : Session σ κ) :
    stops (runStartup 0 hooks s).journal = [] := by
  obtain ⟨n, hn⟩ := journal_runStartup hooks s
  rw [hn, stops, List.filter_eq_nil_iff]
  simp [Event.isStopping]

/-! ## One call -/

/-- Whether hooks are called or not, starting leaves the application started. -/
theorem startup_apply (a : Application σ κ ν) (s : Session σ κ) :
    a.startup s =
      if a.started then ⟨(.ok (), { a with started := true }), s, []⟩
      else
        let t := runStartup 0 a.startupHooks s
        ⟨(t.result, { a with started := true }), t.session, t.journal⟩ := by
  obtain ⟨_, _, _, _, _, _, _, _, _, _, _, started, _⟩ := a
  cases started with
  | true => rfl
  | false => simp [startup, Run.bind_apply]

/-- Whether hooks are called or not, stopping leaves the application stopped. -/
theorem shutdown_apply (a : Application σ κ ν) (s : Session σ κ) :
    a.shutdown s =
      if a.stopped then ⟨(.ok (), { a with stopped := true }), s, []⟩
      else
        let t := runShutdown 0 a.shutdownHooks s
        match t.result with
        | .error panic => ⟨(.error panic, { a with stopped := true }), t.session, t.journal⟩
        | .ok () => ⟨(.ok (), { a with stopped := true }),
            (Run.notify a.observability .flushed t.session).session,
            t.journal ++ [.notice .flushed]⟩ := by
  obtain ⟨_, _, _, _, _, _, _, _, _, _, _, _, stopped⟩ := a
  cases stopped with
  | true => rfl
  | false =>
    simp only [shutdown, Bool.false_eq_true, if_false, Run.bind_apply]
    split <;> simp [*]

/-- A startup marks the application as started, whatever comes of it. -/
theorem startup_application (a : Application σ κ ν) (s : Session σ κ) :
    (a.startup s).result.2 = { a with started := true } := by
  rw [startup_apply]
  split <;> rfl

/-- A shutdown marks the application as stopped, whatever comes of it. -/
theorem shutdown_application (a : Application σ κ ν) (s : Session σ κ) :
    (a.shutdown s).result.2 = { a with stopped := true } := by
  rw [shutdown_apply]
  split
  · rfl
  · dsimp only
    split <;> rfl

/-- Only the first startup calls hooks. -/
theorem startups_startup (a : Application σ κ ν) (s : Session σ κ) :
    startups (a.startup s).journal =
      if a.started then [] else (runStartup 0 a.startupHooks s).journal := by
  rw [startup_apply]
  split
  · rfl
  · exact startups_runStartup _ _

theorem stops_startup (a : Application σ κ ν) (s : Session σ κ) :
    stops (a.startup s).journal = [] := by
  rw [startup_apply]
  split
  · rfl
  · exact stops_runStartup _ _

/-- What a stop enters: the calls of shutdown hooks and then the flush, unless a panic goes through
one of the hooks. -/
def stopEvents (hooks : List (LifecycleHook σ κ)) (s : Session σ κ) : List Event :=
  let t := runShutdown 0 hooks s
  t.journal ++ if t.result.isOk then [.notice .flushed] else []

/-- Only the first shutdown leaves events. -/
theorem journal_shutdown (a : Application σ κ ν) (s : Session σ κ) :
    (a.shutdown s).journal = if a.stopped then [] else stopEvents a.shutdownHooks s := by
  rw [shutdown_apply, stopEvents]
  split
  · rfl
  · dsimp only
    split <;> simp [*, Except.isOk, Except.toBool]

/-- What a shutdown does is part of the stopping, and no startup hook is. -/
theorem isStopping_of_mem_stopEvents {hooks : List (LifecycleHook σ κ)} {s : Session σ κ}
    {e : Event} (h : e ∈ stopEvents hooks s) : e.isStopping ∧ ¬ e.isStartup := by
  obtain ⟨n, -, hn, -⟩ := journal_runShutdown hooks s
  rw [stopEvents, hn, List.mem_append, List.mem_map] at h
  rcases h with ⟨position, -, rfl⟩ | h
  · exact ⟨rfl, Bool.false_ne_true⟩
  · split at h
    · rw [List.mem_singleton.mp h]
      exact ⟨rfl, Bool.false_ne_true⟩
    · exact absurd h List.not_mem_nil

theorem startups_shutdown (a : Application σ κ ν) (s : Session σ κ) :
    startups (a.shutdown s).journal = [] := by
  rw [journal_shutdown]
  split
  · rfl
  · exact List.filter_eq_nil_iff.mpr fun e he => (isStopping_of_mem_stopEvents he).2

/-- All that a shutdown does is part of the stopping. -/
theorem stops_shutdown (a : Application σ κ ν) (s : Session σ κ) :
    stops (a.shutdown s).journal = if a.stopped then [] else stopEvents a.shutdownHooks s := by
  rw [journal_shutdown]
  split
  · rfl
  · exact List.filter_eq_self.mpr fun e he => (isStopping_of_mem_stopEvents he).1

/-- Running until something is over is starting, waiting and stopping, or only a start that does not
succeed. -/
theorem runUntil_apply (a : Application σ κ ν) (wait : Run σ κ Unit) (s : Session σ κ) :
    a.runUntil wait s =
      let started := a.startup s
      match started.result.1 with
      | .error stop => ⟨(.error stop, started.result.2), started.session, started.journal⟩
      | .ok () =>
        let waited := wait started.session
        let stopped := started.result.2.shutdown waited.session
        ⟨(stopped.result.1.mapError .unwound, stopped.result.2), stopped.session,
          started.journal ++ (waited.journal ++ stopped.journal)⟩ := by
  rw [runUntil, Run.bind_apply]
  obtain ⟨⟨report, started⟩, session, journal⟩ := a.startup s
  cases report <;> simp [Run.bind_apply]

end Application

namespace LifecycleCall

/-- The application after a call. -/
theorem run_application (call : LifecycleCall σ κ) (a : Application σ κ ν) (s : Session σ κ) :
    (call.run a s).result.2 =
      { a with
        startupHooks := a.startupHooks ++ call.startupHooks
        shutdownHooks := a.shutdownHooks ++ call.shutdownHooks
        started := a.started || call.starts
        stopped := a.stopped || (call.stopsAt a s).isSome } := by
  cases call with
  | onStartup hook | onShutdown hook =>
    simp [run, Application.onStartup, Application.onShutdown, startupHooks, shutdownHooks, starts,
      stopsAt]
  | startup =>
    simp [run, Application.startup_application, startupHooks, shutdownHooks, starts, stopsAt]
  | shutdown =>
    simp [run, Application.shutdown_application, startupHooks, shutdownHooks, starts, stopsAt]
  | runUntil wait =>
    simp only [run, Application.runUntil_apply, startupHooks, shutdownHooks, starts, stopsAt]
    -- it stops the application exactly if the start reports a success
    rcases (a.startup s).result.1 with failure | _
    · simp [Application.startup_application]
    · simp [Application.startup_application, Application.shutdown_application]

/-- A call runs startup hooks if it is the first to start the application. -/
theorem startups_run (call : LifecycleCall σ κ) (a : Application σ κ ν) (s : Session σ κ) :
    startups (call.run a s).journal =
      if call.starts && !a.started then (Application.runStartup 0 a.startupHooks s).journal
      else [] := by
  cases call with
  | onStartup hook | onShutdown hook => rfl
  | startup => cases h : a.started <;> simp [run, starts, Application.startups_startup, h]
  | shutdown => simp [run, starts, Application.startups_shutdown]
  | runUntil wait =>
    simp only [run, Application.runUntil_apply, starts]
    -- neither waiting nor stopping adds to what the start enters
    have hstart : startups (a.startup s).journal = if true && !a.started then
        (Application.runStartup 0 a.startupHooks s).journal else [] := by
      cases h : a.started <;> simp [Application.startups_startup, h]
    rcases (a.startup s).result.1 with failure | _
    · exact hstart
    · simpa [Application.startups_shutdown, wait.starts_nothing] using hstart

/-- A call runs shutdown hooks if it is the first to stop the application. -/
theorem stops_run (call : LifecycleCall σ κ) (a : Application σ κ ν) (s : Session σ κ) :
    stops (call.run a s).journal =
      if a.stopped then []
      else (call.stopsAt a s).elim [] (Application.stopEvents a.shutdownHooks) := by
  cases call with
  | onStartup hook | onShutdown hook => exact (ite_self _).symm
  | startup => simp [run, stopsAt, Application.stops_startup]
  | shutdown => simp [run, stopsAt, Application.stops_shutdown]
  | runUntil wait =>
    simp only [run, Application.runUntil_apply, stopsAt]
    split
    · next stop hstart => simp [Application.stops_startup, hstart]
    · next hstart =>
      simp [Application.stops_startup, Application.stops_shutdown, wait.stops_nothing,
        Application.startup_application, hstart]

end LifecycleCall

namespace Application

/-! ## Calls in a row -/

/-- Some calls and then others. -/
theorem runCalls_append (before after : List (LifecycleCall σ κ)) (a : Application σ κ ν)
    (s : Session σ κ) :
    runCalls (before ++ after) a s =
      let first := runCalls before a s
      let second := runCalls after first.result.2 first.session
      ⟨(first.result.1 ++ second.result.1, second.result.2), second.session,
        first.journal ++ second.journal⟩ := by
  induction before generalizing a s with
  | nil => rfl
  | cons call before ih => simp [runCalls, Run.bind_apply, ih]

theorem runCalls_cons (call : LifecycleCall σ κ) (calls : List (LifecycleCall σ κ))
    (a : Application σ κ ν) (s : Session σ κ) :
    runCalls (call :: calls) a s =
      let first := call.run a s
      let rest := runCalls calls first.result.2 first.session
      ⟨(first.result.1 :: rest.result.1, rest.result.2), rest.session,
        first.journal ++ rest.journal⟩ := by
  simp [runCalls, Run.bind_apply]

/-- The application after calls. -/
theorem runCalls_application (calls : List (LifecycleCall σ κ)) (a : Application σ κ ν)
    (s : Session σ κ) :
    (runCalls calls a s).result.2 =
      { a with
        startupHooks := a.startupHooks ++ calls.flatMap LifecycleCall.startupHooks
        shutdownHooks := a.shutdownHooks ++ calls.flatMap LifecycleCall.shutdownHooks
        started := a.started || calls.any LifecycleCall.starts
        stopped := a.stopped || stopsWithin calls a s } := by
  induction calls generalizing a s with
  | nil => simp [runCalls, stopsWithin]
  | cons call calls ih =>
    rw [runCalls_cons]
    simp [ih, call.run_application, stopsWithin, Bool.or_assoc]

/-- Once the application is started, and as long as no call starts it, no startup hook runs. -/
theorem startups_runCalls_eq_nil (calls : List (LifecycleCall σ κ)) {a : Application σ κ ν}
    (s : Session σ κ) (h : a.started ∨ calls.any LifecycleCall.starts = false) :
    startups (runCalls calls a s).journal = [] := by
  induction calls generalizing a s with
  | nil => rfl
  | cons call calls ih =>
    rw [runCalls_cons, startups_append, call.startups_run, ih, List.append_nil]
    · rcases h with h | h
      · simp [h]
      · simp [(Bool.or_eq_false_iff.mp h).1]
    · rw [call.run_application]
      exact h.imp (fun h => by simp [h]) fun h => (Bool.or_eq_false_iff.mp h).2

/-- Once the application is stopped, and as long as no call comes to stopping it, nothing is stopped
and nothing flushed. -/
theorem stops_runCalls_eq_nil (calls : List (LifecycleCall σ κ)) {a : Application σ κ ν}
    (s : Session σ κ) (h : a.stopped ∨ stopsWithin calls a s = false) :
    stops (runCalls calls a s).journal = [] := by
  induction calls generalizing a s with
  | nil => rfl
  | cons call calls ih =>
    rw [runCalls_cons, stops_append, call.stops_run, ih, List.append_nil]
    · rcases h with h | h
      · simp [h]
      · have hnone : call.stopsAt a s = none :=
          Option.isNone_iff_eq_none.mp (Option.isSome_eq_false_iff.mp (Bool.or_eq_false_iff.mp h).1)
        simp [hnone]
    · rw [call.run_application]
      exact h.imp (fun h => by simp [h]) fun h =>
        call.run_application a s ▸ (Bool.or_eq_false_iff.mp h).2

/-- What startup hooks run is what the first call that starts the application runs. -/
theorem startups_first_start {a : Application σ κ ν} (h : a.started = false)
    {before : List (LifecycleCall σ κ)} (hbefore : before.any LifecycleCall.starts = false)
    {call : LifecycleCall σ κ} (hcall : call.starts) (after : List (LifecycleCall σ κ))
    (s : Session σ κ) :
    startups (runCalls (before ++ call :: after) a s).journal =
      (runStartup 0 (a.startupHooks ++ before.flatMap LifecycleCall.startupHooks)
        (runCalls before a s).session).journal := by
  rw [runCalls_append, startups_append, startups_runCalls_eq_nil before s (.inr hbefore),
    List.nil_append, runCalls_cons, startups_append, call.startups_run,
    startups_runCalls_eq_nil after _ (.inl ?_), List.append_nil, runCalls_application]
  · -- the application is not started yet, and its hooks are those registered by then
    simp [h, hbefore, hcall]
  · rw [call.run_application]
    simp [hcall]

/-- What shutdown hooks run is what the first call that comes to stopping the application runs. -/
theorem stops_first_stop {a : Application σ κ ν} (h : a.stopped = false)
    {before : List (LifecycleCall σ κ)} {s s' : Session σ κ}
    (hbefore : stopsWithin before a s = false) {call : LifecycleCall σ κ}
    (hcall : call.stopsAt (runCalls before a s).result.2 (runCalls before a s).session = some s')
    (after : List (LifecycleCall σ κ)) :
    stops (runCalls (before ++ call :: after) a s).journal =
      stopEvents (a.shutdownHooks ++ before.flatMap LifecycleCall.shutdownHooks) s' := by
  rw [runCalls_append, stops_append, stops_runCalls_eq_nil before s (.inr hbefore),
    List.nil_append, runCalls_cons, stops_append, call.stops_run,
    stops_runCalls_eq_nil after _ (.inl ?_), List.append_nil, hcall, runCalls_application]
  · simp [h, hbefore]
  · rw [call.run_application, hcall]
    simp

/-! ## Hooks run once -/

/-- Which hooks run in a life of an application that is neither started nor stopped at first and has
no hooks yet. -/
structure HooksRunOnce (a : Application σ κ ν) (calls : List (LifecycleCall σ κ))
    (s : Session σ κ) : Prop where
  /-- As long as no call starts the application, no startup hook runs. -/
  unstarted : calls.any LifecycleCall.starts = false →
    startups (runCalls calls a s).journal = []
  /-- The first call that starts it runs the startup hooks registered by then, in turn up to the
  first that fails. No other call runs any. -/
  started : ∀ before call after, calls = before ++ call :: after →
    before.any LifecycleCall.starts = false → call.starts →
      ∃ t, InTurn startupCall 0 (before.flatMap LifecycleCall.startupHooks) ()
          (runCalls before a s).session t ∧
        startups (runCalls calls a s).journal = t.journal ∧
        ∃ n ≤ (before.flatMap LifecycleCall.startupHooks).length,
          t.journal = (List.range n).map .startupHook ∧
          (t.result.2 = none → n = (before.flatMap LifecycleCall.startupHooks).length)
  /-- As long as no call comes to stopping it, no shutdown hook runs and nothing is flushed. -/
  unstopped : stopsWithin calls a s = false → stops (runCalls calls a s).journal = []
  /-- The first call that comes to stopping it calls the shutdown hooks registered by then, in turn.
  All of them are called, whatever fails, and then the telemetry is flushed, unless a panic goes
  through the call of one: then that is the last, and nothing is flushed. No other call does any of
  this. -/
  stopped : ∀ before call after, calls = before ++ call :: after →
    stopsWithin before a s = false →
      ∀ s', call.stopsAt (runCalls before a s).result.2 (runCalls before a s).session = some s' →
        ∃ t, InTurn shutdownCall 0 (before.flatMap LifecycleCall.shutdownHooks) () s' t ∧
          ((t.result.2 = none ∧
              t.journal = (List.range (before.flatMap LifecycleCall.shutdownHooks).length).map
                .shutdownHook ∧
              stops (runCalls calls a s).journal = t.journal ++ [.notice .flushed]) ∨
            ∃ panic, t.result.2 = some panic ∧ stops (runCalls calls a s).journal = t.journal ∧
              ∃ n ≤ (before.flatMap LifecycleCall.shutdownHooks).length,
                t.journal = (List.range n).map .shutdownHook)

/-- In the life of every application, startup hooks run once, up to the first that fails,
and shutdown hooks run once, all of them, before the one flush, unless one of them panics in
its call. -/
theorem hooks_run_once (config : Config) (given : Option (Observability σ κ))
    (collector : Observability σ κ) (calls : List (LifecycleCall σ κ)) (s : Session σ κ) :
    (ofConfig config given collector : Application σ κ ν).HooksRunOnce calls s := by
  refine ⟨fun h => startups_runCalls_eq_nil calls s (.inr h), ?_,
    fun h => stops_runCalls_eq_nil calls s (.inr h), ?_⟩
  -- the hooks of the first start are those registered before it
  · rintro before call after rfl hbefore hcall
    obtain ⟨t, ht, hrun⟩ := runStartup_inTurn 0 (before.flatMap LifecycleCall.startupHooks)
      (runCalls before (ofConfig config given collector : Application σ κ ν) s).session
    refine ⟨t, ht, ?_, journal_inTurn (fun _ _ _ _ => rfl) ht⟩
    rw [startups_first_start rfl hbefore hcall]
    exact congrArg Step.journal hrun
  -- the hooks of the first stop are those registered before it, in the state it finds
  · rintro before call after rfl hbefore s' hcall
    obtain ⟨t, ht, hrun⟩ := runShutdown_inTurn 0 (before.flatMap LifecycleCall.shutdownHooks) s'
    obtain ⟨n, hle, hn, hall⟩ := journal_inTurn (fun _ _ _ _ => rfl) ht
    have hstops := stops_first_stop (a := (ofConfig config given collector : Application σ κ ν))
      rfl hbefore hcall after
    refine ⟨t, ht, ?_⟩
    -- by whether a panic goes through one of the calls
    rcases hresult : t.result with ⟨⟨⟩, _ | panic⟩
    · refine .inl ⟨rfl, by rw [hn, hall (by rw [hresult])], hstops.trans ?_⟩
      show stopEvents (before.flatMap LifecycleCall.shutdownHooks) s' = _
      rw [stopEvents, hrun, hresult]
      rfl
    · refine .inr ⟨panic, rfl, hstops.trans ?_, n, hle, hn⟩
      show stopEvents (before.flatMap LifecycleCall.shutdownHooks) s' = _
      rw [stopEvents, hrun, hresult]
      exact List.append_nil _

/-- A hook that closes a connection, with what its call comes to. -/
def closing (completion : Completion Unit) : LifecycleHook Unit Unit :=
  ⟨"close", .async, fun _ world => (completion, world)⟩

/-- A shutdown hook that panics in its call is the last thing a stop does: the hook registered after
it is not called and nothing is flushed. One that panics after its call keeps neither from
coming. -/
theorem panicking_hook_ends_shutdown :
    let stopped (completion : Completion Unit) : List Event :=
      stops (runCalls [.onShutdown (closing completion), .onShutdown (closing (.ok ())), .shutdown]
        (ofConfig {} (some (.silent Unit Unit)) (.silent Unit Unit) : Application Unit Unit Unit)
        ⟨(), (), []⟩).journal
    stopped (.error (.panicked .other true)) = [.shutdownHook 0] ∧
      stopped (.error (.panicked .other false)) =
        [.shutdownHook 0, .shutdownHook 1, .notice .flushed] :=
  ⟨rfl, rfl⟩

/-! ## What starts report -/

/-- Every call reports. -/
theorem length_reports (calls : List (LifecycleCall σ κ)) (a : Application σ κ ν)
    (s : Session σ κ) : (runCalls calls a s).result.1.length = calls.length := by
  induction calls generalizing a s with
  | nil => rfl
  | cons call calls ih => simp [runCalls_cons, ih]

/-- The report of a call in a row. -/
theorem getElem?_reports (before : List (LifecycleCall σ κ)) (call : LifecycleCall σ κ)
    (after : List (LifecycleCall σ κ)) (a : Application σ κ ν) (s : Session σ κ) :
    (runCalls (before ++ call :: after) a s).result.1[before.length]? =
      some (call.run (runCalls before a s).result.2 (runCalls before a s).session).result.1 := by
  simp only [runCalls_append, runCalls_cons]
  rw [← length_reports before a s, List.getElem?_append_right (Nat.le_refl _), Nat.sub_self]
  rfl

/-- The start that is made when a call after these starts the application. -/
def startAfter (before : List (LifecycleCall σ κ)) (a : Application σ κ ν) (s : Session σ κ) :
    Step σ κ (Except (Stop StartupFailure) Unit × Application σ κ ν) :=
  (runCalls before a s).result.2.startup (runCalls before a s).session

/-- The first start gives what its startup hooks come to. -/
theorem first_start {a : Application σ κ ν} (h : a.started = false)
    {before : List (LifecycleCall σ κ)} (hbefore : before.any LifecycleCall.starts = false)
    (s : Session σ κ) :
    (startAfter before a s).result.1 =
      (runStartup 0 (a.startupHooks ++ before.flatMap LifecycleCall.startupHooks)
        (runCalls before a s).session).result := by
  rw [startAfter, startup_apply, runCalls_application]
  simp [h, hbefore]

/-- Any other start is a success. -/
theorem later_start (a : Application σ κ ν) {before : List (LifecycleCall σ κ)}
    (hbefore : before.any LifecycleCall.starts) (s : Session σ κ) :
    (startAfter before a s).result.1 = .ok () := by
  rw [startAfter, startup_apply, runCalls_application]
  simp [hbefore]

/-- What the calls of a life that start the application report. -/
structure StartsReport (a : Application σ κ ν) (calls : List (LifecycleCall σ κ))
    (s : Session σ κ) : Prop where
  /-- The first start is a success exactly if all startup hooks registered by then run to success,
  and else the failure of the first that fails, or its panic. -/
  first : ∀ before call after, calls = before ++ call :: after →
    before.any LifecycleCall.starts = false → call.starts →
      ∃ t, InTurn startupCall 0 (before.flatMap LifecycleCall.startupHooks) ()
          (runCalls before a s).session t ∧
        (startAfter before a s).result.1 = hooksReport t.result
  /-- All others are a success, whatever the first one did, and run no startup hook. -/
  later : ∀ before call after, calls = before ++ call :: after →
    before.any LifecycleCall.starts → call.starts →
      (startAfter before a s).result.1 = .ok () ∧
        startups
          (call.run (runCalls before a s).result.2 (runCalls before a s).session).journal = []
  /-- Starting the application reports what the start gives. -/
  reports : ∀ before after, calls = before ++ .startup :: after →
    (runCalls calls a s).result.1[before.length]? = some (startAfter before a s).result.1
  /-- Running until something is over waits for it exactly if the start is a success, and then
  reports a success if no panic goes through a shutdown hook. Else it reports the failed start. -/
  waits : ∀ before wait after, calls = before ++ .runUntil wait :: after →
    let started := startAfter before a s
    let stopped := started.result.2.shutdown (wait.run started.session).session
    let t := (LifecycleCall.runUntil wait).run (runCalls before a s).result.2
      (runCalls before a s).session
    (started.result.1 = .ok () ∧
        (runCalls calls a s).result.1[before.length]? = some (stopped.result.1.mapError .unwound) ∧
        t.journal = started.journal ++ (wait.run started.session).journal ++ stopped.journal) ∨
      ∃ stop, started.result.1 = .error stop ∧
        (runCalls calls a s).result.1[before.length]? = some (.error stop) ∧
        t.session = started.session ∧ t.journal = started.journal

/-- Of the calls that start an application, the first one reports what its startup hooks come to,
and all others a success. -/
theorem starts_report (config : Config) (given : Option (Observability σ κ))
    (collector : Observability σ κ) (calls : List (LifecycleCall σ κ)) (s : Session σ κ) :
    (ofConfig config given collector : Application σ κ ν).StartsReport calls s := by
  refine ⟨?_, ?_, ?_, ?_⟩
  · rintro before call after rfl hbefore hcall
    obtain ⟨t, ht, hrun⟩ := runStartup_inTurn 0 (before.flatMap LifecycleCall.startupHooks)
      (runCalls before (ofConfig config given collector : Application σ κ ν) s).session
    refine ⟨t, ht, ?_⟩
    rw [first_start rfl hbefore]
    exact congrArg Step.result hrun
  · rintro before call after rfl hbefore hcall
    refine ⟨later_start _ hbefore s, ?_⟩
    rw [call.startups_run, runCalls_application]
    simp [hbefore]
  · rintro before after rfl
    rw [getElem?_reports]
    rfl
  · rintro before wait after rfl
    dsimp only [startAfter]
    rw [getElem?_reports, LifecycleCall.run, runUntil_apply]
    dsimp only
    split
    · next stop hstop => exact .inr ⟨stop, hstop, rfl, rfl, rfl⟩
    · next hsuccess => exact .inl ⟨hsuccess, rfl, (List.append_assoc _ _ _).symm⟩

/-- A hook that fails to migrate the database. -/
def failingMigration : LifecycleHook Bool Unit :=
  ⟨"migrate", .async, fun _ waited =>
    (.error (.raised (.internal (.stated "schema mismatch"))), waited)⟩

/-- Waiting, of which the world takes note. -/
def notedWait : Wait Bool Unit where
  run s := ⟨(), { s with world := true }, []⟩
  starts_nothing _ := rfl
  stops_nothing _ := rfl

/-- The migration is tried once and fails, but only the first start reports it: the next one reports
a success, and running until something is over even waits for it. -/
theorem failed_start_reported_once :
    let application : Application Bool Unit Unit :=
      ofConfig {} (some (.silent Bool Unit)) (.silent Bool Unit)
    let t := runCalls [.onStartup failingMigration, .startup, .startup, .runUntil notedWait]
      application ⟨false, (), []⟩
    t.result.1 =
        [.ok (), .error (.failed ⟨"migrate", .internal (.stated "schema mismatch")⟩), .ok (),
          .ok ()] ∧
      startups t.journal = [.startupHook 0] ∧ t.session.world = true :=
  ⟨rfl, rfl, rfl⟩

end Application

end RequestDispatch

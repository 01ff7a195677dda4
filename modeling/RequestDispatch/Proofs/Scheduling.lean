import RequestDispatch.Proofs.Queue
import RequestDispatch.Proofs.Unwinding

/-!
# Background actions after the dispatch

Whatever a dispatch queues runs after it, in the order it was queued, each action once, and how an
action ends matters to nothing else. `Dispatcher.Schedules` states this of the calls that queued the
actions. A dispatch that a panic ends never hands its queue over: `Dispatcher.Loses` says that
nothing of it is run. `Dispatcher.dispatch_schedules` says that every dispatch does the one or the
other.
-/

namespace RequestDispatch

variable {σ κ ν : Type}

namespace Dispatcher

/-- The journal of serving a request: its dispatch and then its background actions. -/
def servedJournal (d : Dispatcher σ κ ν) (schedule : Schedule) (request : Request)
    (s : Session σ κ) : List Event :=
  ((Endpoint.new d []).handle schedule request s).journal

theorem servedJournal_eq (d : Dispatcher σ κ ν) (schedule : Schedule) (request : Request)
    (s : Session σ κ) : d.servedJournal schedule request s =
      (d.dispatch request s).journal ++ (d.afterwards request s).journal := by
  rw [servedJournal, Endpoint.handle_apply]

/-- No background action is run in a dispatch. -/
theorem dispatch_foreground (d : Dispatcher σ κ ν) (request : Request) (s : Session σ κ) :
    ∀ e ∈ (d.dispatch request s).journal, ¬ e.isBackground := by
  rcases d.exists_releases request s with ⟨_, _, _, releases⟩ | ⟨_, forsakes⟩
  · exact releases.foreground
  · exact fun e he => (forsakes.nothing e he).2.2

section

variable {d : Dispatcher σ κ ν} {request : Request} {s : Session σ κ} {calls : List (Call σ κ)}
  {reply : Reply σ κ} {panic : Panic}

/-- What a dispatch hands over is what its calls queued. -/
theorem background_eq (h : (d.serve request).Calls { s with queue := [] } calls)
    (result : (d.dispatch request s).result = .ok reply) :
    reply.background = calls.flatMap Call.queued := by
  have hdispatch : (d.dispatch request s).result =
      (d.serve request { s with queue := [] }).result.map fun response =>
        ⟨response, (d.serve request { s with queue := [] }).session.queue⟩ := rfl
  rw [h.queue, List.nil_append, result] at hdispatch
  rcases hserve : (d.serve request { s with queue := [] }).result with _ | response <;>
    rw [hserve] at hdispatch <;> cases hdispatch
  rfl

end

end Dispatcher

end RequestDispatch

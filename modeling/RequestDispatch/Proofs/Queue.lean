import RequestDispatch.Proofs.Dispatch

/-!
# The background queue of a request

Code that belongs to a request may queue background actions. `Run.Calls` lists the calls of such
code in a run, each with what it queued. It follows the run, and `Run.Calls.queue` says that the
queue is what these calls queued, in their order: nothing else adds to it and nothing is taken away.
-/

namespace RequestDispatch

/-- A call of code that belongs to a request: how the journal has it, and what it queued. -/
structure Call (σ κ : Type) where
  event : Event
  queued : List (Task σ κ)

variable {σ κ α : Type}

/-- The calls of the request's own code in a run from a session, in order. -/
inductive Run.Calls : {α : Type} → Run σ κ α → Session σ κ → List (Call σ κ) → Prop where
  | pure {α : Type} (a : α) (s : Session σ κ) : Calls (Pure.pure a) s []
  | bind {α β : Type} {m : Run σ κ α} {f : α → Run σ κ β} {s : Session σ κ}
      {calls calls' : List (Call σ κ)} (first : Calls m s calls)
      (second : Calls (f (m s).result) (m s).session calls') : Calls (m >>= f) s (calls ++ calls')
  | enter (event : Event) (s : Session σ κ) : Calls (Run.enter event) s []
  | look {α : Type} (g : Session σ κ → α) (s : Session σ κ) : Calls (Run.look g) s []
  | notify (o : Observability σ κ) (notice : Notice) (s : Session σ κ) :
      Calls (Run.notify o notice) s []
  | performAlone {α : Type} (event : Event) (code : Procedure σ κ α) (s : Session σ κ) :
      Calls (Run.performAlone event code) s []
  /-- The code sees how many actions wait already. -/
  | perform {α : Type} (event : Event) (code : Effect σ κ α) (s : Session σ κ) :
      Calls (Run.perform event code) s
        [⟨event, (code ⟨s.telemetry, s.queue.length⟩ s.world).2.2⟩]

namespace Run

/-- A run adds to the queue what its calls queued, in their order. -/
theorem Calls.queue {m : Run σ κ α} {s : Session σ κ} {calls : List (Call σ κ)}
    (h : m.Calls s calls) : (m s).session.queue = s.queue ++ calls.flatMap Call.queued := by
  induction h with
  | bind _ _ first second =>
    rw [session_bind, second, first, List.flatMap_append, List.append_assoc]
  | perform event code s =>
    rw [List.flatMap_singleton]
    rfl
  | _ => exact (List.append_nil _).symm

/-- The journal has the calls in their order. -/
theorem Calls.journal {m : Run σ κ α} {s : Session σ κ} {calls : List (Call σ κ)}
    (h : m.Calls s calls) : (calls.map Call.event).Sublist (m s).journal := by
  induction h with
  | bind _ _ first second =>
    rw [journal_bind, List.map_append]
    exact first.append second
  | perform event code s => exact List.Sublist.refl [event]
  | _ => exact List.nil_sublist _

/-- A run made of calls and entries has its calls. -/
theorem Within.exists_calls {kind : Event → Bool} {m : Run σ κ α} (h : m.Within kind)
    (s : Session σ κ) : ∃ calls, m.Calls s calls := by
  induction h generalizing s with
  | pure a => exact ⟨_, .pure a s⟩
  | bind _ _ first second =>
    obtain ⟨calls, hcalls⟩ := first s
    obtain ⟨calls', hcalls'⟩ := second _ _
    exact ⟨_, .bind hcalls hcalls'⟩
  | enter _ => exact ⟨_, .enter _ s⟩
  | look g => exact ⟨_, .look g s⟩
  | perform _ code => exact ⟨_, .perform _ code s⟩
  | performAlone _ code => exact ⟨_, .performAlone _ code s⟩

end Run

namespace Dispatcher

variable {ν : Type}

/-- Notices call nothing of the request's own. -/
theorem notifyAll_calls (o : Observability σ κ) (notices : List Notice) (s : Session σ κ) :
    (notifyAll o notices).Calls s [] := by
  induction notices generalizing s with
  | nil => exact .pure () s
  | cons notice notices ih => exact .bind (.notify o notice s) (ih _)

/-- The end of a dispatch has its calls: those of the release, if there is one. -/
private theorem conclude_calls (d : Dispatcher σ κ ν) (started : Nat)
    (attempt : Except Panic (Finish σ κ ν)) (s : Session σ κ) :
    ∃ calls, (d.conclude started attempt).Calls s calls := by
  cases attempt with
  | error panic => exact ⟨_, .bind (.notify _ _ _) (.pure _ _)⟩
  | ok finish =>
    have reported (duration : Nat) (s : Session σ κ) : (d.report finish duration).Calls s [] :=
      d.report_eq finish duration ▸
        notifyAll_calls d.observability (d.notices finish duration) s
    obtain ⟨released, hreleased⟩ := finish.context.release_within.exists_calls _
    exact ⟨_, .bind (.look _ _) (.bind (reported _ _) (.bind hreleased (.pure _ _)))⟩

/-- Every dispatch has its calls: those of the stages, of the answer and of the release. -/
theorem serve_calls (d : Dispatcher σ κ ν) (request : Request) (s : Session σ κ) :
    ∃ calls, (d.serve request).Calls s calls := by
  have opened := Run.Calls.notify d.observability (.spanOpened d.spanName) s
  obtain ⟨attempted, hattempted⟩ := (d.attempt_within request).exists_calls
    (Run.notify d.observability (.spanOpened d.spanName) s).session
  obtain ⟨concluded, hconcluded⟩ := d.conclude_calls _ _ _
  exact ⟨_, .bind (.look _ _) (.bind opened (.bind hattempted hconcluded))⟩

end Dispatcher

end RequestDispatch

import RequestDispatch.Proofs.InTurn
import RequestDispatch.Serve.Endpoint

/-!
# Background actions in turn

The actions of a queue that was handed over run in turn (`Detached.finish_inTurn`), and none can
stop the others: how an action ends is dropped. `Detached.finish_quiet` says it of the whole queue,
which runs as if every action ended well. `Endpoint.handle_apply` puts the actions after the
dispatch: one queue is run out in one way, whatever the schedule.
-/

namespace RequestDispatch

variable {σ κ ν : Type}

/-- The action that does the same and always ends well. -/
def Task.quiet (task : Task σ κ) : Task σ κ :=
  .mk task.mode fun around world => (.ok (), (task.run around world).2)

namespace Background

/-- The call of an action. What it gives is dropped, so there is nothing that could stop
the next. -/
def call (position : Nat) (task : Task σ κ) (_ : Unit) : Run σ κ (Unit ⊕ Empty) := do
  let _ ← Run.perform (.backgroundStarted position) task.run
  Run.enter (.backgroundFinished position)
  return .inl ()

/-- What the actions enter: the start and the end of each, one after another. -/
def events (position : Nat) : List Event :=
  [.backgroundStarted position, .backgroundFinished position]

theorem journal_call (position : Nat) (task : Task σ κ) (u : Unit) (s : Session σ κ) :
    (call position task u s).journal = events position := rfl

theorem isBackground_of_mem_events {position : Nat} {e : Event} (h : e ∈ events position) :
    e.isBackground := by
  simp only [events, List.mem_cons, List.not_mem_nil, or_false] at h
  rcases h with rfl | rfl <;> rfl

end Background

open Background

namespace Detached

/-! ## One action -/

theorem advance_nil (position : Nat) (late : List (Task σ κ)) :
    advance ⟨position, [], late⟩ = pure ⟨position, [], late⟩ := rfl

/-- The next action is called in a session whose queue is what has been added. -/
theorem advance_cons (position : Nat) (task : Task σ κ) (tasks late : List (Task σ κ))
    (s : Session σ κ) :
    advance ⟨position, task :: tasks, late⟩ s =
      let t := call position task () { s with queue := late }
      ⟨⟨position + 1, tasks, t.session.queue⟩, { t.session with queue := s.queue }, t.journal⟩ :=
  rfl

/-- The next action is the first of those that are left. -/
theorem advance_finish (queue : Detached σ κ) :
    (do finish (← queue.advance)) = queue.finish := by
  obtain ⟨position, _ | ⟨task, tasks⟩, late⟩ := queue <;> rfl

/-- The actions are called in turn, and what they add is left over. -/
theorem finish_inTurn (position : Nat) (tasks late : List (Task σ κ)) (s : Session σ κ) :
    ∃ t, InTurn call position tasks () { s with queue := late } t ∧
      finish ⟨position, tasks, late⟩ s =
        ⟨⟨position + tasks.length, [], t.session.queue⟩, { t.session with queue := s.queue },
          t.journal⟩ := by
  induction tasks generalizing position late s with
  | nil => exact ⟨_, .done _ _ _, rfl⟩
  | cons task tasks ih =>
    -- the others start where the first one has left the session
    have hfirst := advance_cons position task tasks late s
    obtain ⟨t, inTurn, ht⟩ := ih (position + 1)
      (call position task () { s with queue := late }).session.queue
      { (call position task () { s with queue := late }).session with queue := s.queue }
    refine ⟨_, .passed rfl inTurn, ?_⟩
    rw [← advance_finish, Run.bind_apply, hfirst]
    simp only [ht, List.length_cons, Nat.add_assoc, Nat.add_comm 1]

/-- Each action is entered once, in order. -/
theorem finish_journal (position : Nat) (tasks late : List (Task σ κ)) (s : Session σ κ) :
    (finish ⟨position, tasks, late⟩ s).journal =
      (List.range' position tasks.length).flatMap events := by
  obtain ⟨t, inTurn, ht⟩ := finish_inTurn position tasks late s
  obtain ⟨n, -, hj, hall⟩ := inTurn.positions journal_call
  -- no action stops the others, so all are called
  have hnone : t.result.2 = none := Option.eq_none_iff_forall_ne_some.mpr fun e => e.elim
  rw [ht, hj, hall hnone]

theorem finishAll_singleton (queue : Detached σ κ) (s : Session σ κ) :
    finishAll [queue] s = ⟨(), (queue.finish s).session, (queue.finish s).journal⟩ := by
  simp [finishAll, Run.bind_apply]

/-- One queue is run out in the same way, however far it has gone on before. -/
theorem giveWay_finishAll (turns : List Nat) (queue : Detached σ κ) (s : Session σ κ) :
    (giveWay turns [queue] >>= finishAll) s = finishAll [queue] s := by
  induction turns generalizing queue s with
  | nil => rfl
  | cons turn turns ih =>
    cases turn with
    | zero =>
      -- the queue goes on by one action, and from there it is run out by the hypothesis
      have hrest := ih (queue.advance s).result (queue.advance s).session
      rw [finishAll_singleton] at hrest
      rw [finishAll_singleton, ← queue.advance_finish]
      simp only [giveWay, List.getElem?_cons_zero, List.set_cons_zero, Run.bind_apply,
        List.append_assoc] at hrest ⊢
      obtain ⟨-, hsession, hjournal⟩ := Step.mk.inj hrest
      rw [hsession, hjournal]
    | succ turn => exact ih queue s

/-- Where no queue has been handed over nothing gives way. -/
theorem giveWay_nil (turns : List Nat) (s : Session σ κ) : giveWay turns [] s = ⟨[], s, []⟩ := by
  induction turns with
  | nil => rfl
  | cons turn turns ih => exact ih

/-- What a dispatch hands over is run out in one way. -/
theorem giveWay_handedOver (turns : List Nat) (reply : Reply σ κ) (s : Session σ κ) :
    (giveWay turns reply.handedOver >>= finishAll) s = finishAll reply.handedOver s := by
  rw [Reply.handedOver]
  split
  · simp [Run.bind_apply, giveWay_nil]
  · exact giveWay_finishAll turns _ s

end Detached

/-! ## Background actions of a dispatch -/

namespace Dispatcher

variable (d : Dispatcher σ κ ν) (request : Request) (s : Session σ κ)

/-- What a dispatch hands over; a dispatch that a panic ends hands nothing over. -/
def background : List (Task σ κ) :=
  match (d.dispatch request s).result with
  | .ok reply => reply.background
  | .error _ => []

/-- The queues that a dispatch hands over: one exactly if something was queued. -/
def handedOver : List (Detached σ κ) :=
  if d.background request s = [] then [] else [.handOver (d.background request s)]

/-- The background actions of a dispatch, run when it is over. -/
def afterwards : Step σ κ Unit :=
  Detached.finishAll (d.handedOver request s) (d.dispatch request s).session

variable {d request s}

theorem background_of_ok {reply : Reply σ κ} (h : (d.dispatch request s).result = .ok reply) :
    d.background request s = reply.background := by
  simp only [background, h]

theorem handedOver_of_ok {reply : Reply σ κ} (h : (d.dispatch request s).result = .ok reply) :
    d.handedOver request s = reply.handedOver := by
  simp only [handedOver, background_of_ok h, Reply.handedOver, List.isEmpty_iff]

theorem handedOver_of_error {panic : Panic}
    (h : (d.dispatch request s).result = .error panic) : d.handedOver request s = [] := by
  simp only [handedOver, background, h, if_true]

/-- Serving a request leaves the actions to be run exactly if something was queued. -/
theorem service_background :
    (d.service request s).result.background =
      if d.background request s = [] then [] else [d.background request s] := by
  rcases h : (d.dispatch request s).result with panic | reply
  · simp [service, Service.dispatching, Run.bind_apply, background, h]
  · simp [service, Service.dispatching, Run.bind_apply, background, h]

/-- The run of no action changes nothing. -/
theorem afterwards_eq (d : Dispatcher σ κ ν) (request : Request) (s : Session σ κ) :
    d.afterwards request s =
      let t := (Detached.handOver (d.background request s)).finish (d.dispatch request s).session
      ⟨(), t.session, t.journal⟩ := by
  rw [afterwards, handedOver]
  split
  · next hnone =>
    rw [hnone]
    rfl
  · rw [Detached.finishAll_singleton]

end Dispatcher

/-- Serving a request through the endpoint of a dispatcher alone is its dispatch and then its
background actions, whatever the schedule. -/
theorem Endpoint.handle_apply (d : Dispatcher σ κ ν) (schedule : Schedule) (request : Request)
    (s : Session σ κ) :
    (Endpoint.new d []).handle schedule request s =
      ⟨(d.dispatch request s).result.map Reply.response, (d.afterwards request s).session,
        (d.dispatch request s).journal ++ (d.afterwards request s).journal⟩ := by
  have hplan : Plan.ofStack (Endpoint.new d []).stack request = .dispatch request .ended := rfl
  rw [handle, hplan, Plan.carryOut, Run.bind_apply, Detached.giveWay_nil, Run.bind_apply]
  rcases h : (d.dispatch request s).result with panic | reply
  · rw [Dispatcher.afterwards, Dispatcher.handedOver_of_error h]
    simp [new, h, Except.map, Plan.carryOut, Run.bind_apply, Detached.giveWay_nil,
      Detached.finishAll]
  · have hrest := Detached.giveWay_handedOver (schedule 1) reply (d.dispatch request s).session
    rw [Run.bind_apply] at hrest
    obtain ⟨-, hsession, hjournal⟩ := Step.mk.inj hrest
    rw [Dispatcher.afterwards, Dispatcher.handedOver_of_ok h, ← hsession, ← hjournal]
    simp [new, h, Except.map, Plan.carryOut, Run.bind_apply]

end RequestDispatch

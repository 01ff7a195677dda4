import RequestDispatch.Proofs.Scheduling

/-!
# What is queued too late

The queue of a request is handed over once, at the end of its dispatch. What was queued by then is
run, each action once. Whatever is added later, by a background action while it is run or by any
other code that still holds the queue, stays in a queue that nobody looks at again. A queue that was
handed over lives through moves of both kinds, in any order; `Detached.lives` says what has been run
and what is left over after any of them, and `Dispatcher.dispatch_runs_queued` says it of the queue
of every dispatch with a reply. `Dispatcher.follow_up_lost` shows an action that is queued and never
run.
-/

namespace RequestDispatch

variable {σ κ ν : Type}

namespace Background

/-- Of the first actions each is started once and finished once, and no other is. -/
theorem count_events (n : Nat) {position : Nat} {e : Event} (he : e ∈ events position) :
    ((List.range n).flatMap events).count e = if position < n then 1 else 0 := by
  have hblock (m : Nat) : (events m).count e = if m = position then 1 else 0 := by
    simp only [events, List.mem_cons, List.not_mem_nil, or_false] at he
    rcases he with rfl | rfl <;> simp [events, List.count_cons]
  induction n with
  | zero => rfl
  | succ n ih =>
    rw [List.range_succ, List.flatMap_append, List.count_append, ih, List.flatMap_singleton, hblock]
    by_cases hlast : n = position
    · rw [if_neg (by omega), if_pos hlast, if_pos (by omega)]
    · have hother : (position < n + 1) ↔ position < n := by omega
      simp only [hlast, hother, if_false, Nat.add_zero]

end Background

/-! ## The life of a queue that was handed over -/

/-- The next action is run. -/
def Move.isNext : Move σ κ → Bool
  | .next => true
  | .elsewhere _ => false

namespace Detached

/-- How many actions are run by moves, if there are so many. -/
def turns (moves : List (Move σ κ)) : Nat := moves.countP Move.isNext

/-- What a move adds to a queue in a session. -/
def added (queue : Detached σ κ) (s : Session σ κ) : Move σ κ → List (Task σ κ)
  | .next =>
    match queue.scheduled with
    | [] => []
    | task :: _ => (task.run ⟨s.telemetry, queue.late.length⟩ s.world).2.2
  | .elsewhere code => (code s.telemetry s.world).2

/-- What moves add to a queue from a session on, in order. -/
def additions : List (Move σ κ) → Detached σ κ → Session σ κ → List (Task σ κ)
  | [], _, _ => []
  | move :: moves, queue, s =>
    queue.added s move ++ additions moves (queue.move move s).result (queue.move move s).session

/-- What has become of a queue after moves. -/
structure Lives (moves : List (Move σ κ)) (queue : Detached σ κ) (s : Session σ κ) : Prop where
  /-- The first actions have been run, each once, in the order they were queued. -/
  run : (live moves queue s).journal =
    (List.range' queue.position (min (turns moves) queue.scheduled.length)).flatMap
      Background.events
  /-- The others are still to be run. -/
  scheduled : (live moves queue s).result.scheduled = queue.scheduled.drop (turns moves)
  /-- What was added is left over. -/
  late : (live moves queue s).result.late = queue.late ++ additions moves queue s

theorem turns_next (moves : List (Move σ κ)) : turns (.next :: moves) = turns moves + 1 :=
  List.countP_cons_of_pos rfl

theorem turns_elsewhere (code : κ → σ → σ × List (Task σ κ)) (moves : List (Move σ κ)) :
    turns (.elsewhere code :: moves) = turns moves :=
  List.countP_cons_of_neg Bool.false_ne_true

/-- Every queue lives through every sequence of moves in this way. -/
theorem lives (moves : List (Move σ κ)) (queue : Detached σ κ) (s : Session σ κ) :
    Lives moves queue s := by
  induction moves generalizing queue s with
  | nil => exact ⟨by simp [live, turns], rfl, (List.append_nil _).symm⟩
  | cons move moves ih =>
    obtain ⟨run, scheduled, late⟩ := ih (queue.move move s).result (queue.move move s).session
    obtain ⟨position, tasks, early⟩ := queue
    cases move with
    | elsewhere code =>
      -- other code runs no action and takes none away
      rw [← turns_elsewhere code] at run scheduled
      exact ⟨run, scheduled, late.trans (List.append_assoc early (code s.telemetry s.world).2 _)⟩
    | next =>
      cases tasks with
      | nil =>
        refine ⟨run.trans ?_, scheduled.trans ?_, late⟩
        · simp [move, advance_nil]
        · simp [move, advance_nil]
      | cons task tasks =>
        -- one action is run, and what it adds comes before what is added afterwards
        refine ⟨?_, ?_, late.trans (List.append_assoc early _ _)⟩
        · rw [turns_next, List.length_cons, Nat.add_min_add_right, List.range'_succ,
            List.flatMap_cons]
          exact congrArg (Background.events position ++ ·) run
        · rw [turns_next, List.drop_succ_cons]
          exact scheduled

end Detached

/-! ## The queue of a dispatch -/

namespace Dispatcher

/-- What becomes of the actions that are queued on the queue of a dispatch with a reply: by the
calls of the dispatch, and by whatever happens once the queue has been handed over. -/
structure RunsQueued (d : Dispatcher σ κ ν) (request : Request) (s : Session σ κ)
    (reply : Reply σ κ) (early : List (Call σ κ)) : Prop where
  /-- The calls of the dispatch, with what each queued before the queue is handed over. -/
  dispatched : (d.serve request).Calls { s with queue := [] } early
  /-- All of it is handed over. -/
  handed : reply.background = early.flatMap Call.queued
  /-- After any moves, those actions are run that have had their turn, in the order they were
  queued, the others wait, and all that was added since is left over. -/
  lives : ∀ moves start, Detached.Lives moves (.handOver reply.background) start
  /-- Of all actions in the order they are queued, exactly those that were handed over are started
  and finished, each of them once, as soon as they all have had their turns. -/
  once : ∀ moves start, reply.background.length ≤ Detached.turns moves →
    ∀ position, ∀ e ∈ Background.events position,
      (Detached.live moves (.handOver reply.background) start).journal.count e =
        if position < reply.background.length then 1 else 0
  /-- So it is wherever the request is served. -/
  served : ∀ schedule position, ∀ e ∈ Background.events position,
    (d.servedJournal schedule request s).count e =
      if position < reply.background.length then 1 else 0

/-- What is queued until the queue of a dispatch with a reply is handed over is run exactly once,
and what is queued later is not run. -/
theorem dispatch_runs_queued (d : Dispatcher σ κ ν) (request : Request) (s : Session σ κ)
    (reply : Reply σ κ) (replied : (d.dispatch request s).result = .ok reply) :
    ∃ early, d.RunsQueued request s reply early := by
  obtain ⟨early, made⟩ := d.serve_calls request { s with queue := [] }
  refine ⟨early, made, background_eq made replied, fun moves start => Detached.lives _ _ _,
    fun moves start hturns position e he => ?_, fun schedule position e he => ?_⟩
  · have run := (Detached.lives moves (.handOver reply.background) start).run
    have hall : min (Detached.turns moves) reply.background.length = reply.background.length :=
      Nat.min_eq_right hturns
    rw [run, Detached.handOver, hall, ← List.range_eq_range', Background.count_events _ he]
  · -- before the hand-over no background action is run
    have hforeground : (d.dispatch request s).journal.count e = 0 :=
      List.count_eq_zero_of_not_mem fun hmem => d.dispatch_foreground request s e hmem
        (Background.isBackground_of_mem_events he)
    rw [servedJournal_eq, List.count_append, hforeground, Nat.zero_add, afterwards_eq,
      background_of_ok replied, Detached.handOver, Detached.finish_journal, ← List.range_eq_range',
      Background.count_events _ he]

/-- An action that notes its run. -/
def followUp : Task (List String) Unit :=
  .mk .async fun _ notes => (.ok (), notes ++ ["follow-up"], [])

/-- An action that notes its run and queues the other. -/
def firstMail : Task (List String) Unit :=
  .mk .async fun _ notes => (.ok (), notes ++ ["first"], [followUp])

/-- A dispatcher whose handler queues an action that queues another. -/
def mailingDispatcher : Dispatcher (List String) Unit Unit :=
  new (.new "GET" "/" ⟨.async, fun _ _ notes => (.ok .empty, notes, [firstMail])⟩)

private theorem mailing_replies : ∃ reply,
    (mailingDispatcher.dispatch (.new "GET" "/") ⟨[], (), []⟩).result = .ok reply ∧
      reply.background = [firstMail] :=
  ⟨_, rfl, rfl⟩

/-- The action that the handler queues is run. -/
theorem mailing_runs_first : ∃ reply early,
    (mailingDispatcher.dispatch (.new "GET" "/") ⟨[], (), []⟩).result = .ok reply ∧
      reply.background = [firstMail] ∧
        mailingDispatcher.RunsQueued (.new "GET" "/") ⟨[], (), []⟩ reply early := by
  obtain ⟨reply, replied, first⟩ := mailing_replies
  obtain ⟨early, runs⟩ :=
    mailingDispatcher.dispatch_runs_queued (.new "GET" "/") ⟨[], (), []⟩ reply replied
  exact ⟨reply, early, replied, first, runs⟩

/-- Whatever is queued in the course of a request is in the end run exactly once, whoever queues it
and whenever. -/
def RunsAllQueued (d : Dispatcher σ κ ν) (request : Request) (s : Session σ κ) : Prop :=
  ∀ reply, (d.dispatch request s).result = .ok reply → ∀ moves, ∃ more,
    let queue := Detached.handOver reply.background
    let start := (d.dispatch request s).session
    ∀ position < (reply.background ++ Detached.additions (moves ++ more) queue start).length,
      ∀ e ∈ Background.events position,
        (Detached.live (moves ++ more) queue start).journal.count e = 1

/-- The action that a background action queues is never run. -/
theorem follow_up_lost :
    ¬ mailingDispatcher.RunsAllQueued (.new "GET" "/") ⟨[], (), []⟩ ∧
      ∀ schedule, ((Endpoint.new mailingDispatcher []).handle schedule (.new "GET" "/")
        ⟨[], (), []⟩).session.world = ["first"] := by
  refine ⟨fun all => ?_, fun schedule => ?_⟩
  · obtain ⟨reply, replied, first⟩ := mailing_replies
    obtain ⟨more, started⟩ := all reply replied [.next]
    simp only [first] at started
    -- of the two actions that are queued once the first has been run, only that one is ever run
    have second := started 1 (by
      simp [Detached.additions, Detached.added, Detached.handOver, firstMail, Task.run])
      (.backgroundStarted 1) List.mem_cons_self
    rw [(Detached.lives _ _ _).run, Detached.handOver, ← List.range_eq_range',
      Background.count_events _ List.mem_cons_self, if_neg] at second
    · exact absurd second Nat.zero_ne_one
    · exact Nat.not_lt.mpr (Nat.min_le_right _ _)
  · rw [Endpoint.handle_apply]
    rfl

/-- So is what any other holder of the queue adds once it has been handed over. -/
example : (Detached.live [.next, .elsewhere fun _ notes => (notes, [followUp]), .next]
    (.handOver [firstMail]) ⟨[], (), []⟩).session.world = ["first"] := by
  decide

end Dispatcher

end RequestDispatch

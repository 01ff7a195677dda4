import RequestDispatch.Proofs.Closing

/-!
# Outcomes that give no value

Turning an outcome into a value begins with its acquisition: a computation is run, a source is
advanced, a resource is acquired. When no value comes out, what there is to undo is undone at once
and nothing is left pending; when one does, nothing is undone yet. `Outcome.Settles` compares the
whole with the acquisition alone, which knows nothing of closings and releases, so that its error is
never one of theirs. `Dispatcher.dispatch_tears_down` adds that the rest of the dispatch does not
touch an outcome that gave no value.
-/

namespace RequestDispatch

variable {σ κ ν : Type}

namespace Outcome

/-! ## Acquisition and teardown -/

/-- The acquisition of an outcome and nothing else: a value, nothing or an error. Panics are
contained. -/
def acquire (origin : Nat) : Outcome σ κ ν → Run σ κ (Except DispatchError (Option ν))
  | .immediate value => pure (.ok (some value))
  | .deferred compute => do
    return ((← Run.perform (.computed origin) compute).contain .async).map some
  | .singleStep step => do
    return ((← Run.perform (.advanced origin) step.first).contain step.mode).map
      (Option.map Yield.value)
  | .scoped resource => do
    return (← Run.perform (.acquiring origin) resource.acquire).contain resource.mode

/-- The error of an acquisition that gave no value: its own, or that nothing was given. -/
def refusal? (outcome : Outcome σ κ ν) : Except DispatchError (Option ν) → Option DispatchError
  | .error e => some e
  | .ok (some _) => none
  | .ok none =>
    match outcome with
    | .scoped _ => some (.internal .nothingAcquired)
    | _ => some (.internal .noYield)

/-- Undoes an acquisition that gave no value: a source is closed, and a resource is released if
acquiring it gave nothing rather than failed. What fails on the way is dropped. -/
def teardown (origin : Nat) : Outcome σ κ ν → Except DispatchError (Option ν) → Run σ κ Unit
  | .singleStep step, _ => do
    let _ ← Cleanup.closeApart origin step.close
  | .scoped resource, .ok none => do
    let _ ← Run.perform (.releasing origin) (resource.release none)
  | _, _ => pure ()

/-- The cleanup that a value comes with: it holds all that there is to undo. -/
inductive Leaves : Outcome σ κ ν → ν → Option (Cleanup σ κ ν) → Prop where
  | immediate (value : ν) : Leaves (.immediate value) value none
  | deferred (compute : Effect σ κ ν) (value : ν) : Leaves (.deferred compute) value none
  | singleStep (step : SingleStep σ κ ν) (yielded : Yield σ κ ν) :
      Leaves (.singleStep step) yielded.value (some (.exhaust step.mode yielded.rest step.close))
  | scoped (resource : ScopedResource σ κ ν) (value : ν) :
      Leaves (.scoped resource) value
        (some (.release resource.mode (resource.release (some value))))

section Normalize

variable (origin : Nat) (outcome : Outcome σ κ ν) (s : Session σ κ)

/-- An acquisition without a value is torn down, and its error is the error of the whole. A value
comes from the acquisition alone, and what there is to undo is left for later. -/
theorem normalize_cases :
    let a := outcome.acquire origin s
    let t := outcome.teardown origin a.result a.session
    (∃ e, outcome.refusal? a.result = some e ∧
      outcome.normalize origin s = ⟨.error e, t.session, a.journal ++ t.journal⟩) ∨
    ∃ value cleanup mark, a.result = .ok (some value) ∧ outcome.Leaves value cleanup ∧
      (∀ e ∈ mark, e = .yielded origin ∨ e = .acquired origin) ∧
      outcome.normalize origin s = ⟨.ok ⟨value, cleanup⟩, a.session, a.journal ++ mark⟩ := by
  -- by the shape of the outcome, and by what its acquisition gives
  obtain value | compute | step | resource := outcome
  · exact .inr ⟨value, none, [], rfl, .immediate value, nofun, rfl⟩
  · rcases hc : (Run.perform (.computed origin) compute s).result.contain .async with e | value
    · refine .inl ⟨e, ?_⟩
      simp [acquire, normalize, refusal?, teardown, Run.bind_apply, hc, Except.map]
    · refine .inr ⟨value, none, [], ?_, .deferred compute value, nofun, ?_⟩
      · simp [acquire, hc, Except.map]
      · simp [acquire, normalize, Run.bind_apply, hc, Except.map]
  · rcases hc : (Run.perform (.advanced origin) step.first s).result.contain step.mode
      with e | (_ | yielded)
    · refine .inl ⟨e, ?_⟩
      simp [acquire, normalize, refusal?, teardown, Run.bind_apply, hc, Except.map]
    · refine .inl ⟨.internal .noYield, ?_⟩
      simp [acquire, normalize, refusal?, teardown, Run.bind_apply, hc, Except.map]
    · refine .inr ⟨yielded.value, _, [.yielded origin], ?_, .singleStep step yielded, by simp, ?_⟩
      · simp [acquire, hc, Except.map]
      · simp [acquire, normalize, Run.bind_apply, hc]
  · rcases hc : (Run.perform (.acquiring origin) resource.acquire s).result.contain resource.mode
      with e | (_ | value)
    · refine .inl ⟨e, ?_⟩
      simp [acquire, normalize, refusal?, teardown, Run.bind_apply, hc]
    · refine .inl ⟨.internal .nothingAcquired, ?_⟩
      simp [acquire, normalize, refusal?, teardown, Run.bind_apply, hc]
    · refine .inr ⟨value, _, [.acquired origin], ?_, .scoped resource value, by simp, ?_⟩
      · simp [acquire, hc]
      · simp [acquire, normalize, Run.bind_apply, hc]

variable {origin outcome s}

/-- Turning an outcome into a value fails exactly if its acquisition gives no value, with the error
of the acquisition. -/
theorem normalize_eq_error_iff {e : DispatchError} :
    (outcome.normalize origin s).result = .error e ↔
      outcome.refusal? (outcome.acquire origin s).result = some e := by
  rcases normalize_cases origin outcome s with
    ⟨e', hrefusal, heq⟩ | ⟨value, cleanup, mark, hvalue, -, -, heq⟩
  · rw [heq, hrefusal, Except.error.injEq, Option.some.injEq]
  · simp [heq, hvalue, refusal?]

theorem normalize_refused {e : DispatchError} (h : (outcome.normalize origin s).result = .error e) :
    let a := outcome.acquire origin s
    let t := outcome.teardown origin a.result a.session
    (outcome.normalize origin s).session = t.session ∧
      (outcome.normalize origin s).journal = a.journal ++ t.journal := by
  rcases normalize_cases origin outcome s with
    ⟨e', -, heq⟩ | ⟨value, cleanup, mark, -, -, -, heq⟩
  · rw [heq]
    exact ⟨rfl, rfl⟩
  · rw [heq] at h
    cases h

end Normalize

/-- How an outcome is turned into a value, compared with its acquisition alone. -/
structure Settles (origin : Nat) (outcome : Outcome σ κ ν) (s : Session σ κ) : Prop where
  /-- It fails exactly if the acquisition gives no value, and with the error of the acquisition. -/
  refused : ∀ e, (outcome.normalize origin s).result = .error e ↔
    outcome.refusal? (outcome.acquire origin s).result = some e
  /-- When it fails, the teardown has run once, after the acquisition. -/
  tornDown : ∀ e, (outcome.normalize origin s).result = .error e →
    let a := outcome.acquire origin s
    let t := outcome.teardown origin a.result a.session
    (outcome.normalize origin s).session = t.session ∧
      (outcome.normalize origin s).journal = a.journal ++ t.journal
  /-- A source that gave no value has been advanced once and then closed once. -/
  source : ∀ step e, outcome = .singleStep step →
    (outcome.normalize origin s).result = .error e → (outcome.normalize origin s).journal =
      .advanced origin :: (step.close.map fun _ => Event.closed origin).toList
  /-- A resource is released once if acquiring it gave nothing. -/
  empty : ∀ resource, outcome = .scoped resource → (outcome.acquire origin s).result = .ok none →
    (outcome.normalize origin s).journal = [.acquiring origin, .releasing origin]
  /-- It is not released if acquiring it failed. -/
  failed : ∀ resource e, outcome = .scoped resource →
    (outcome.acquire origin s).result = .error e →
      (outcome.normalize origin s).journal = [.acquiring origin]
  /-- A pair of blocking functions always gives a value or fails. -/
  blocking : ∀ acquire release, outcome = blockingScope acquire release →
    (outcome.acquire origin s).result ≠ .ok none
  /-- A value comes from the acquisition alone: nothing is undone yet, and the cleanup holds all
  that there is to undo. -/
  untouched : ∀ normalized, (outcome.normalize origin s).result = .ok normalized →
    outcome.Leaves normalized.value normalized.cleanup ∧
      (outcome.normalize origin s).session = (outcome.acquire origin s).session ∧
      (outcome.normalize origin s).journal.count (.advanced origin) ≤ 1 ∧
      .closed origin ∉ (outcome.normalize origin s).journal ∧
      .releasing origin ∉ (outcome.normalize origin s).journal

/-- What an acquisition enters. -/
theorem journal_acquire (origin : Nat) (outcome : Outcome σ κ ν) (s : Session σ κ) :
    (outcome.acquire origin s).journal =
      match outcome with
      | .immediate _ => []
      | .deferred _ => [.computed origin]
      | .singleStep _ => [.advanced origin]
      | .scoped _ => [.acquiring origin] := by
  cases outcome <;> rfl

theorem length_acquire (origin : Nat) (outcome : Outcome σ κ ν) (s : Session σ κ) :
    (outcome.acquire origin s).journal.length ≤ 1 := by
  rw [journal_acquire]
  split <;> simp

/-- Every outcome is settled so in every session. -/
theorem settles (origin : Nat) (outcome : Outcome σ κ ν) (s : Session σ κ) :
    outcome.Settles origin s where
  refused _ := normalize_eq_error_iff
  tornDown _ := normalize_refused
  source := by
    rintro step e rfl h
    obtain ⟨-, hjournal⟩ := normalize_refused h
    rw [hjournal, journal_acquire]
    cases hclose : step.close <;> simp [teardown, hclose, Cleanup.closeApart]
  empty := by
    rintro resource rfl hnone
    have h : ((Outcome.scoped resource).normalize origin s).result =
        .error (.internal .nothingAcquired) := normalize_eq_error_iff.mpr (by rw [hnone]; rfl)
    obtain ⟨-, hjournal⟩ := normalize_refused h
    rw [hjournal, journal_acquire, hnone]
    rfl
  failed := by
    rintro resource e rfl he
    have h : ((Outcome.scoped resource).normalize origin s).result = .error e :=
      normalize_eq_error_iff.mpr (by rw [he]; rfl)
    obtain ⟨-, hjournal⟩ := normalize_refused h
    rw [hjournal, journal_acquire, he]
    rfl
  blocking := by
    rintro acquire release rfl
    show ((Effect.map some acquire ⟨s.telemetry, s.queue.length⟩ s.world).1).contain .blocking ≠ _
    rcases h : (acquire ⟨s.telemetry, s.queue.length⟩ s.world).1 with (e | p) | value <;>
      simp [Effect.map, h, Completion.contain, Except.map]
  untouched := by
    intro normalized h
    rcases normalize_cases origin outcome s with
      ⟨e, -, heq⟩ | ⟨value, cleanup, mark, hvalue, leaves, hmark, heq⟩
    · rw [heq] at h
      cases h
    · rw [heq] at h ⊢
      cases h
      -- neither obtaining the value nor what marks it touches the resource afterwards
      have hundone : ∀ e, e = .closed origin ∨ e = .releasing origin →
          e ∉ (outcome.acquire origin s).journal ++ mark := by
        intro e he hmem
        rcases List.mem_append.mp hmem with hmem | hmem
        · rw [journal_acquire] at hmem
          rcases he with rfl | rfl <;> split at hmem <;> simp at hmem
        · rcases he with rfl | rfl <;> rcases hmark _ hmem with h | h <;> cases h
      refine ⟨leaves, rfl, ?_, hundone _ (.inl rfl), hundone _ (.inr rfl)⟩
      have hmark' : mark.count (.advanced origin) = 0 :=
        List.count_eq_zero.mpr fun hmem => by rcases hmark _ hmem with h | h <;> cases h
      rw [List.count_append, hmark', Nat.add_zero]
      exact Nat.le_trans List.count_le_length (length_acquire origin outcome s)

end Outcome

/-! ## The rest of the dispatch -/

namespace Dispatcher

/-- What becomes of the outcomes of a dispatch that give no value. -/
structure TearsDown (d : Dispatcher σ κ ν) (request : Request) (s : Session σ κ) : Prop where
  /-- No cleanup is pending for them. -/
  nothingPending : ∀ i outcome e, d.Invokes request s i → i.outcome = .ok outcome →
    (i.obtained outcome).result = .error e → i.produced.result.2.cleanup = i.context.cleanup
  /-- The rest of the dispatch does nothing to them. -/
  life : ∀ i outcome e, d.Invokes request s i → i.outcome = .ok outcome →
    (i.obtained outcome).result = .error e →
      lifeOf i.origin (d.dispatch request s).journal = (i.obtained outcome).journal

/-- Outcomes without a value are torn down at once, those with one not yet, and no dispatch comes
back to an outcome that has been torn down. -/
theorem dispatch_tears_down (d : Dispatcher σ κ ν) (request : Request) (s : Session σ κ) :
    (∀ origin (outcome : Outcome σ κ ν) u, outcome.Settles origin u) ∧ d.TearsDown request s := by
  refine ⟨Outcome.settles, ⟨?_, ?_⟩⟩
  · intro i outcome e _ hout he
    rcases Resolver.produce_cases i.parameter i.factory i.values i.context i.session with
      ⟨e', he', -⟩ | ⟨outcome', t, hout', ht, ⟨e', -, heq⟩ | ⟨normalized, hn, -⟩⟩
    · cases hout.symm.trans he'
    · rw [Invocation.produced, heq]
      rfl
    · have hsame : outcome' = outcome := Except.ok.inj (hout'.symm.trans hout)
      subst hsame
      have hobtained : i.obtained outcome' = t := ht
      rw [hobtained, hn] at he
      cases he
  · intro i outcome e invokes hout he
    rcases d.life invokes with ⟨pending, u, -, -, hlife⟩ | ⟨panic, -, hlife⟩
    · rw [hlife, i.obtaining_of_ok hout, Invocation.undoing, i.held_of_refused hout he,
        List.flatMap_nil, List.append_nil]
    · rw [hlife, i.obtaining_of_ok hout]

end Dispatcher

end RequestDispatch

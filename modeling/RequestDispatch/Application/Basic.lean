import RequestDispatch.Config.Sources
import RequestDispatch.Serve.Endpoint

/-!
# Applications

An `Application` holds what all endpoints of one process share: the settings, the telemetry, the
overrides, the interceptors, the hooks and the error handlers. Binding a route makes an endpoint of
everything registered so far; what is registered later does not change it.
-/

namespace RequestDispatch

/-- A named piece of code that runs once, when an application starts or stops. -/
structure LifecycleHook (σ κ : Type) where
  name : String
  mode : Mode
  call : Procedure σ κ Unit

/-- What all endpoints of a process share. -/
structure Application (σ κ ν : Type) where
  settings : DispatchSettings
  observability : Observability σ κ
  overrides : OverrideScope σ κ ν := .empty
  /-- Global interceptors, the first one outermost. -/
  interceptors : List (Interceptor σ κ) := []
  intakeHooks : List (IntakeHook σ κ) := []
  requestHooks : List (RequestHook σ κ) := []
  responseHooks : List (ResponseHook σ κ) := []
  errorHandlers : ErrorHandlers σ κ := .empty
  startupHooks : List (LifecycleHook σ κ) := []
  shutdownHooks : List (LifecycleHook σ κ) := []
  /-- The time in microseconds. -/
  clock : σ → Nat := fun _ => 0
  /-- Whether starting was ever tried. -/
  started : Bool := false
  /-- Whether stopping was ever tried. -/
  stopped : Bool := false

/-- Where below an application a route is bound: the overrides of its router and of its mount, and
interceptors inside the global ones. -/
structure Placement (σ κ ν : Type) where
  router : Option (OverrideScope σ κ ν) := none
  mount : Option (OverrideScope σ κ ν) := none
  interceptors : List (Interceptor σ κ) := []

namespace Application

variable {σ κ ν : Type}

/-- The application of a configuration. Telemetry goes where the caller says, else to a collector if
the configuration has one, else nowhere. -/
def ofConfig (config : Config) (given : Option (Observability σ κ))
    (collector : Observability σ κ) :
    Application σ κ ν :=
  { settings := config.settings
    observability :=
      given.getD (if config.observability.enabled then collector else .silent σ κ) }

/-- The application that the sources of a configuration describe, if they describe a valid one. -/
def build (sources : ConfigSources) (host : Host) (given : Option (Observability σ κ))
    (collector : Observability σ κ) : Except ConfigFault (Application σ κ ν) := do
  let config ← sources.load host
  config.check
  return ofConfig config given collector

/-- Replaces a factory at the level of the application. -/
def override (a : Application σ κ ν) (replaced replacement : Factory σ κ ν) : Application σ κ ν :=
  { a with overrides := a.overrides.insert replaced replacement }

/-- Takes a replacement back and gives the factory that had replaced the other. -/
def clearOverride (a : Application σ κ ν) (replaced : Factory σ κ ν) :
    Option (Factory σ κ ν) × Application σ κ ν :=
  (a.overrides.get? replaced.id, { a with overrides := a.overrides.erase replaced.id })

/-- The chain of overrides in force at a place. -/
def chain (a : Application σ κ ν) (place : Placement σ κ ν) : OverrideChain σ κ ν :=
  ⟨a.overrides :: place.router.toList ++ place.mount.toList⟩

/-- The dispatcher of a route at a place. -/
def dispatcher (a : Application σ κ ν) (route : Route σ κ ν) (place : Placement σ κ ν) :
    Dispatcher σ κ ν :=
  { route
    overrides := a.chain place
    intakeHooks := a.intakeHooks
    requestHooks := a.requestHooks
    responseHooks := a.responseHooks
    errorHandlers := a.errorHandlers
    observability := a.observability
    settings := a.settings
    clock := a.clock }

/-- Binds a route at a place. -/
def endpoint (a : Application σ κ ν) (route : Route σ κ ν) (place : Placement σ κ ν) :
    Endpoint σ κ :=
  .new (a.dispatcher route place) (a.interceptors ++ place.interceptors)

end Application

end RequestDispatch

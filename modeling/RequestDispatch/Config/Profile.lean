import RequestDispatch.Config.Environment

/-!
# Profiles

A profile names the deployment and thereby the file that is laid over the base file. Names do not
depend on letter case, and two profiles have short names.
-/

namespace RequestDispatch

/-- The kind of deployment that a configuration is for. -/
inductive Profile where
  | development
  | production
  | custom (name : String)
  deriving DecidableEq, Repr

namespace Profile

/-- The name of a profile. -/
def name : Profile → String
  | development => "development"
  | production => "production"
  | custom name => name

/-- The name of the kind of a profile. -/
def kind : Profile → String
  | development => "Development"
  | production => "Production"
  | custom _ => "Custom"

/-- The profile that a name stands for. -/
def ofName (name : String) : Profile :=
  let lower := Text.lower name
  if lower = "production" ∨ lower = "prod" then production
  else if lower = "development" ∨ lower = "dev" then development
  else custom lower

/-- The profile that an environment selects. -/
def ofEnvironment (env : Environment) : Profile :=
  ((env.get? "CONDUIT_PROFILE").map ofName).getD development

end Profile

end RequestDispatch

import RequestDispatch.Application.Basic
import RequestDispatch.Application.Lifecycle
import RequestDispatch.Config.Basic
import RequestDispatch.Config.Check
import RequestDispatch.Config.Environment
import RequestDispatch.Config.Profile
import RequestDispatch.Config.Reading
import RequestDispatch.Config.Setting
import RequestDispatch.Config.Sources
import RequestDispatch.DefaultResponse
import RequestDispatch.Dependency.Cleanup
import RequestDispatch.Dependency.Factory
import RequestDispatch.Dependency.Outcome
import RequestDispatch.Dependency.Override
import RequestDispatch.Dependency.Resolve
import RequestDispatch.Dispatch.Background
import RequestDispatch.Dispatch.Basic
import RequestDispatch.Dispatch.ErrorHandler
import RequestDispatch.Dispatch.Hook
import RequestDispatch.Dispatch.Shaping
import RequestDispatch.Effect
import RequestDispatch.Error
import RequestDispatch.ErrorClass
import RequestDispatch.Fields
import RequestDispatch.FileSystem
import RequestDispatch.Http.Exchange
import RequestDispatch.Http.Form
import RequestDispatch.Http.Headers
import RequestDispatch.Http.Negotiation
import RequestDispatch.Http.Request
import RequestDispatch.Http.Response
import RequestDispatch.Http.Status
import RequestDispatch.Journal
import RequestDispatch.Json.Access
import RequestDispatch.Json.Basic
import RequestDispatch.Json.Decode
import RequestDispatch.Json.Number
import RequestDispatch.Json.Parser
import RequestDispatch.Json.Printer
import RequestDispatch.Json.SyntaxError
import RequestDispatch.Logging.Directive
import RequestDispatch.Logging.Filter
import RequestDispatch.Logging.Setup
import RequestDispatch.Mode
import RequestDispatch.Number.Binary
import RequestDispatch.Number.Decimal
import RequestDispatch.Number.Shortest
import RequestDispatch.Proofs.Accounting
import RequestDispatch.Proofs.Acquisition
import RequestDispatch.Proofs.Alike
import RequestDispatch.Proofs.Audit
import RequestDispatch.Proofs.Background
import RequestDispatch.Proofs.Bodiless
import RequestDispatch.Proofs.Chains
import RequestDispatch.Proofs.Checked
import RequestDispatch.Proofs.Closing
import RequestDispatch.Proofs.Confidential
import RequestDispatch.Proofs.ConfigKeys
import RequestDispatch.Proofs.Conformance
import RequestDispatch.Proofs.Course
import RequestDispatch.Proofs.Defaults
import RequestDispatch.Proofs.Delivery
import RequestDispatch.Proofs.Dependents
import RequestDispatch.Proofs.Dispatch
import RequestDispatch.Proofs.Encoding
import RequestDispatch.Proofs.Fields
import RequestDispatch.Proofs.Frames
import RequestDispatch.Proofs.Headers
import RequestDispatch.Proofs.Idempotence
import RequestDispatch.Proofs.InTurn
import RequestDispatch.Proofs.IntSources
import RequestDispatch.Proofs.IntTexts
import RequestDispatch.Proofs.Intake
import RequestDispatch.Proofs.Invocation
import RequestDispatch.Proofs.Journal
import RequestDispatch.Proofs.JsonText
import RequestDispatch.Proofs.Layers
import RequestDispatch.Proofs.Ledger
import RequestDispatch.Proofs.Leftovers
import RequestDispatch.Proofs.Lengths
import RequestDispatch.Proofs.Lifecycle
import RequestDispatch.Proofs.Lifetime
import RequestDispatch.Proofs.Locations
import RequestDispatch.Proofs.LongNumbers
import RequestDispatch.Proofs.MediaTypes
import RequestDispatch.Proofs.Modes
import RequestDispatch.Proofs.Nearest
import RequestDispatch.Proofs.NumberWidths
import RequestDispatch.Proofs.Numerals
import RequestDispatch.Proofs.Overriding
import RequestDispatch.Proofs.Parsed
import RequestDispatch.Proofs.Plans
import RequestDispatch.Proofs.Postorder
import RequestDispatch.Proofs.Precedence
import RequestDispatch.Proofs.Preference
import RequestDispatch.Proofs.Pulling
import RequestDispatch.Proofs.Queue
import RequestDispatch.Proofs.Recast
import RequestDispatch.Proofs.Refusal
import RequestDispatch.Proofs.Reordering
import RequestDispatch.Proofs.Resolver
import RequestDispatch.Proofs.Rounding
import RequestDispatch.Proofs.Scanning
import RequestDispatch.Proofs.Scheduling
import RequestDispatch.Proofs.Sharing
import RequestDispatch.Proofs.Spelling
import RequestDispatch.Proofs.Stacking
import RequestDispatch.Proofs.Streams
import RequestDispatch.Proofs.Teardown
import RequestDispatch.Proofs.Templates
import RequestDispatch.Proofs.Termination
import RequestDispatch.Proofs.Text
import RequestDispatch.Proofs.Twins
import RequestDispatch.Proofs.Unseen
import RequestDispatch.Proofs.Unwinding
import RequestDispatch.Proofs.Validation
import RequestDispatch.Proofs.Values
import RequestDispatch.Route.Arguments
import RequestDispatch.Route.Basic
import RequestDispatch.Serve.Endpoint
import RequestDispatch.Serve.Interceptor
import RequestDispatch.Serve.Plan
import RequestDispatch.Telemetry
import RequestDispatch.Text.Basic
import RequestDispatch.Text.Hidden
import RequestDispatch.Text.Lowercase
import RequestDispatch.Text.Quoted
import RequestDispatch.Text.Utf8
import RequestDispatch.Toml.Document
import RequestDispatch.Toml.Number
import RequestDispatch.Toml.Text
import RequestDispatch.Toml.Value
import RequestDispatch.Validation.Coerce
import RequestDispatch.Validation.Notation
import RequestDispatch.Validation.Scalar
import RequestDispatch.Validation.Shape
import RequestDispatch.Validation.Validate

/-
# Settings of the server

What the server reads from the environment when it starts: which backend to use,
which routes to serve and how, and whether and where to report spans.

Key definitions: `ServerSettings`, `providerOf`, `tracingOf`, `Telemetry`,
`Telemetry.ofEnvironment`.
-/
import TableGate.Config.Environment
import TableGate.Query.Compile
import TableGate.Schema.Table

namespace TableGate

/-- How the server serves the tables. -/
structure ServerSettings where
  /-- Stands in front of every route. -/
  basePath : String := ""
  maxRows : Int := defaultMaxRows
  /-- The origins that may read answers; without any there is no sharing. -/
  origins : List String := []
  schema : Option String := none
deriving DecidableEq, Repr, Inhabited

namespace ServerSettings

def ofEnvironment (env : Environment) : Except Fault ServerSettings := do
  let maxRows ← env.int? "REST_MAX_ROWS"
  pure {
    basePath := (env.text? "REST_BASE_PATH").getD ""
    maxRows := maxRows.getD defaultMaxRows
    origins := (env.list? "REST_CORS_ORIGINS").getD []
    schema := env.text? "DB_SCHEMA" }

def toValue (s : ServerSettings) : Value :=
  .record [("base_path", .text s.basePath), ("max_rows", .int s.maxRows),
    ("cors_origins", .list (s.origins.map .text)),
    ("schema", optionValue .text s.schema)]

end ServerSettings

/-- The provider that the environment names, or else `default`. -/
def providerOf (env : Environment) (default : String) : String :=
  normalizeProvider ((env.text? "DB_PROVIDER").getD default)

/-- Spans are recorded: as the variable for it says, or else if there is a place
to report them to. -/
def tracingOf (env : Environment) : Except Fault Bool := do
  match ← env.bool? "DAL_TRACE_QUERIES" with
  | some on => pure on
  | none => pure (env.isSet "OTEL_EXPORTER_OTLP_ENDPOINT")

/-- Where spans are reported to, and under which name. -/
structure Telemetry where
  serviceName : String
  endpoint : String
deriving DecidableEq, Repr

/-- The reporting that the environment asks for, if it does. -/
def Telemetry.ofEnvironment (env : Environment) : Except Fault (Option Telemetry) := do
  match ← env.bool? "OTEL_ENABLED" with
  | some true =>
    pure (some {
      serviceName := (env.text? "OTEL_SERVICE_NAME").getD "polyrest"
      endpoint := (env.text? "OTEL_EXPORTER_OTLP_ENDPOINT").getD "http://localhost:4317" })
  | _ => pure none

end TableGate

/-
# Connection settings

Where a database is and how to log in to it; `options` go to the driver as they
are.

Key definitions: `ConnectionSettings`, `ConnectionSettings.ofEnvironment`.
-/
import TableGate.Config.Environment
import TableGate.Schema.Table

namespace TableGate

open Reader

/-- Where a database is and how to log in to it. -/
structure ConnectionSettings where
  host : String := "localhost"
  port : Option Int := none
  database : String
  user : Option String := none
  password : Option String := none
  ssl : Bool := false
  maxConnections : Int := 20
  connectTimeout : Double := .ofInt 10
  options : Entries := []
deriving Repr

namespace ConnectionSettings

def read (es : Entries) : Checked ConnectionSettings :=
  ConnectionSettings.mk <$> defaulted es "host" "localhost" text <*>
    defaulted es "port" none (orNull int) <*> required es "database" text <*>
    defaulted es "user" none (orNull text) <*> defaulted es "password" none (orNull text) <*>
    defaulted es "ssl" false bool <*> defaulted es "max_connections" 20 int <*>
    defaulted es "connect_timeout" (.ofInt 10) double <*> defaulted es "options" [] mapping

/-- Connection settings as their fields. -/
def toValue (s : ConnectionSettings) : Value :=
  .record [("host", .text s.host), ("port", optionValue .int s.port),
    ("database", .text s.database), ("user", optionValue .text s.user),
    ("password", optionValue .text s.password), ("ssl", .bool s.ssl),
    ("max_connections", .int s.maxConnections), ("connect_timeout", .float s.connectTimeout),
    ("options", .mapping s.options)]

/-- The settings in the variables whose names begin with a word and an
underscore. -/
def ofEnvironment (env : Environment) (word : String) : Except Fault ConnectionSettings := do
  let variableNamed (name : String) : String := word ++ "_" ++ name
  let port ← env.int? (variableNamed "PORT")
  let ssl ← env.bool? (variableNamed "SSL")
  let maxConnections ← env.int? (variableNamed "MAX_CONNECTIONS")
  let timeout ← env.int? (variableNamed "CONNECT_TIMEOUT_SECS")
  match double (.int (timeout.getD 10)) with
  | .fits connectTimeout =>
    pure {
      host := (env.text? (variableNamed "HOST")).getD "localhost"
      port := port
      database := (env.text? (variableNamed "NAME")).getD "postgres"
      user := env.text? (variableNamed "USER")
      password := env.text? (variableNamed "PASSWORD")
      ssl := ssl.getD false
      maxConnections := maxConnections.getD 20
      connectTimeout := connectTimeout }
  | .misfits issues =>
    .error (.model (issues.map fun i => { i with place := [.field "connect_timeout"] }))

end ConnectionSettings
end TableGate

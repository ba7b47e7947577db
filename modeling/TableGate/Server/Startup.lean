/-
# Starting the server

The server is built from the environment: the provider decides the backend, the
settings how it is served. It connects when it starts and disconnects when it
stops.

Key definitions: `Registry.createFrom`, `Server`, `Server.build`, `Server.start`,
`Server.stop`.
-/
import TableGate.Backend.Registry
import TableGate.Http.App
import TableGate.Server.Settings

namespace TableGate

/-- The backend of a provider, and the settings to connect it with. -/
def Registry.create {β : Type} (r : Registry β) (name : String) (settings : ConnectionSettings) :
    Except Fault (β × ConnectionSettings) := do
  pure (← r.build name, settings)

/-- The backend that the environment names, and the settings to connect it with:
those that are given, or else those of the environment. -/
def Registry.createFrom {β : Type} (r : Registry β) (env : Environment)
    (settings : Option ConnectionSettings) : Except Fault (β × ConnectionSettings) := do
  let settings ← match settings with
    | some s => pure s
    | none => ConnectionSettings.ofEnvironment env "DB"
  r.create (providerOf env Dialect.postgres.name) settings

/-- A server: its application, and the environment to connect from. -/
structure Server (σ : Type) where
  app : App σ
  environment : Environment

namespace Server

variable {σ : Type}

/-- Builds a server with a driver; settings that are not given are those of the
environment. -/
def build (driver : Driver σ) (env : Environment) (settings : Option ServerSettings) :
    Except Fault (Server σ) := do
  let settings ← match settings with
    | some s => pure s
    | none => ServerSettings.ofEnvironment env
  let dialect ← Registry.standard.build (providerOf env Dialect.postgres.name)
  let app ← App.make ⟨dialect, driver, tracingOf env⟩ none settings.schema settings.maxRows
    settings.basePath settings.origins
  pure ⟨app, env⟩

def stop : Action σ Unit := Session.disconnect

variable (s : Server σ)

/-- The backend of a server. -/
def adapter : Adapter σ := s.app.service.adapter

def start : Action σ Unit := do
  s.adapter.connect (← Action.ofExcept (ConnectionSettings.ofEnvironment s.environment "DB"))

end Server
end TableGate

/-
# The registry of backends

Which backend a provider's name stands for. A name may be written in any of its
spellings; registering a name again replaces what it stood for.

Key definitions: `Registry`, `Registry.register`, `Registry.build`,
`Registry.providers`, `Registry.standard`.
-/
import TableGate.Error.Fault
import TableGate.Sql.Dialect

namespace TableGate

/-- Backends by the name of their provider. -/
structure Registry (β : Type) where
  entries : List (String × β) := []
deriving Repr

namespace Registry

variable {β : Type}

/-- Writes an entry; a name that is there keeps its place. -/
def put (name : String) (b : β) : List (String × β) → List (String × β)
  | [] => [(name, b)]
  | e :: rest => if e.1 == name then (name, b) :: rest else e :: put name b rest

/-- Registers a backend under a name. -/
def register (r : Registry β) (name : String) (b : β) : Registry β :=
  ⟨put (normalizeProvider name) b r.entries⟩

/-- The backend registered under a name. -/
def find? (r : Registry β) (name : String) : Option β :=
  (r.entries.find? fun e => e.1 == normalizeProvider name).map Prod.snd

/-- A backend is registered under a name. -/
def isRegistered (r : Registry β) (name : String) : Bool := (r.find? name).isSome

/-- The names, sorted. -/
def providers (r : Registry β) : List String := sortTexts (r.entries.map Prod.fst)

/-- The backend for a name; an unknown one is an error. -/
def build (r : Registry β) (name : String) : Except Fault β :=
  match r.find? name with
  | some b => .ok b
  | none => .error (.api (.unknownProvider name (r.entries.map Prod.fst)))

/-- The registry of the dialects, each under the name of its provider. -/
def standard : Registry Dialect :=
  ⟨[(Dialect.postgres.name, .postgres), (Dialect.sqlServer.name, .sqlServer)]⟩

end Registry
end TableGate

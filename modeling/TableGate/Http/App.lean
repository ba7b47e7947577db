/-
# The application

A request is routed, its body read, the route served, and the outcome written as a
response: errors that are answered with their status and body, any other failure
as an internal error that tells nothing.

Key definitions: `Http.encodable`, `Http.readBody`, `App`, `App.make`, `App.serve`,
`App.respond`.
-/
import TableGate.Api.Service
import TableGate.Http.Route
import TableGate.Http.Sharing
import TableGate.Text.Percent

namespace TableGate
namespace Http

/-- A number of decimal digits as a number of JSON: an integer if no digit stands
behind the point. -/
def decimalNumber (d : Decimal) : Except Fault Value :=
  match d with
  | .finite negative coefficient exponent =>
    if exponent ≥ 0 then
      let n := (coefficient : Int) * Nat.pow 10 exponent.toNat
      .ok (.int (if negative then -n else n))
    else
      match d.toDouble? with
      | some x => .ok (.float x)
      | none => .error (.refused .unreadable)
  | _ => .error (.refused .unreadable)

mutual

/-- A value with what JSON has no kind for as texts and numbers. -/
def encodable : Value → Except Fault Value
  | .decimal d => decimalNumber d
  | .bytes bs => .ok (.text (Text.hexOfBytes bs))
  | .dateTime t => .ok (.text t.text)
  | .date d => .ok (.text d.text)
  | .time t => .ok (.text t.text)
  | .uuid s => .ok (.text s)
  | .list items => do pure (.list (← encodableItems items))
  | .tuple items => do pure (.list (← encodableItems items))
  | .mapping entries => do pure (.mapping (← encodableEntries entries))
  | v => .ok v

def encodableItems : List Value → Except Fault (List Value)
  | [] => .ok []
  | v :: vs => do
    let w ← encodable v
    pure (w :: (← encodableItems vs))

/-- The entries of a mapping; those of the mapper's own bookkeeping are dropped. -/
def encodableEntries : List (String × Value) → Except Fault (List (String × Value))
  | [] => .ok []
  | (name, v) :: es =>
    if Text.startsWith name "_sa" then encodableEntries es
    else do
      let w ← encodable v
      pure ((name, w) :: (← encodableEntries es))

end

/-- Reads the body of a request, which has to be there and be a JSON text. -/
def readBody (r : Request) : Except Fault Value :=
  if r.body.isEmpty then .error (.api (.validation .missingBody))
  else match Json.readBytes r.body with
    | .error (.malformedJson why) => .error (.api (.validation (.malformedBody why)))
    | outcome => outcome

def pairsOf (r : Request) : List (String × Value) :=
  (Text.queryPairs r.query).map fun pair => (pair.1, .text pair.2)

/-- The answer to a failure that nothing is told of. -/
def internalError : Response :=
  .json 500 "\x7b\"error\":\x7b\"code\":\"INTERNAL_ERROR\",\"message\":\"Internal error\"\x7d\x7d"

/-- A body that tells one thing. -/
def detailBody (detail : String) : String := "\x7b\"detail\":\"" ++ detail ++ "\"\x7d"

/-- The outcome of a route as a response, if it can be written. -/
def response? (outcome : Except Fault (Nat × Value)) : Option Response :=
  let written (status : Nat) (text : Except Fault String) : Option Response :=
    text.toOption.map (Response.json status)
  match outcome with
  | .ok (status, v) => written status (encodable v >>= Json.write Json.responseLayout)
  | .error (.api e) =>
    written e.status (Json.write Json.responseLayout (.mapping [("error", .mapping e.body)]))
  | .error _ => none

/-- The characters that stay as they are in the address of a redirection. -/
def isSafeInLocation (c : Char) : Bool :=
  c.isAlphanum || "_.-~:/%#?=@[]!$&'()*+,;".toList.contains c

/-- The answer that sends a request to another path. -/
def redirection (path query : String) : Response :=
  let address := "http://test" ++ path ++ (if query.isEmpty then "" else "?" ++ query)
  ⟨307, [("location", Text.escapePercent isSafeInLocation address)], ""⟩

end Http

/-- An application: a service, in front of which stands a base path, and the
origins its answers are shared with. -/
structure App (σ : Type) where
  service : Service σ
  origins : List String

namespace App

variable {σ : Type}

def title (app : App σ) : String := app.service.adapter.dialect.name ++ " REST API"

/-- An application for an adapter. Slashes at the end of the base path do not
count; one that is left has to begin with a slash. -/
def make (a : Adapter σ) (settings : Option ConnectionSettings) (schema : Option String)
    (maxRows : Int) (basePath : String) (origins : List String) : Except Fault (App σ) := do
  let base := Text.dropEndChar '/' basePath
  let service ← Service.make a settings schema maxRows base
  if base.isEmpty || Text.startsWith base "/" then pure ⟨service, origins⟩
  else .error .relativeBasePath

variable (app : App σ)

/-- Serves an endpoint: the status and the content of the answer. -/
def serve (r : Request) (e : Endpoint) (table key : String) : Action σ (Nat × Value) := do
  let s := app.service
  match e with
  | .schema => do pure (200, ← s.openApi)
  | .health => do
    let (healthy, body) ← s.health
    pure (if healthy then 200 else 503, body)
  | .listRows => do pure (200, ← s.listRows table (Http.pairsOf r))
  | .insertRows => do pure (201, ← s.insert table (← Action.ofExcept (Http.readBody r)))
  | .updateRows => do
    let body ← Action.ofExcept (Http.readBody r)
    pure (200, ← s.update table (Http.pairsOf r) body)
  | .deleteRows => do pure (200, ← s.delete table (Http.pairsOf r))
  | .getRow => do pure (200, ← s.getRow table key)
  | .replaceRow => do
    let body ← Action.ofExcept (Http.readBody r)
    pure (200, ← s.replace table key body)
  | .deleteRow => do pure (200, ← s.deleteRow table key)

/-- The response to a request; none if it failed in a way that is not told. -/
def dispatch (r : Request) : StateM (Session σ) (Option Response) := do
  match route app.service.basePath r.method (Text.unescapePercent r.path) with
  | .endpoint e arguments => do
    let outcome ← (app.serve r e (arguments.headD "") ((arguments.drop 1).headD "")).run
    pure (Http.response? outcome)
  | .otherMethod allowed =>
    pure (some ((Response.json 405 (Http.detailBody "Method Not Allowed")).withHeaders
      [("allow", allowed)]))
  | .redirect path => pure (some (Http.redirection path r.query))
  | .notFound => pure (some (.json 404 (Http.detailBody "Not Found")))

def respond (r : Request) : StateM (Session σ) Response := do
  match preflight? r with
  | some (origin, method) =>
    if app.origins.isEmpty then pure ((← app.dispatch r).getD Http.internalError)
    else pure (preflightResponse app.origins r origin method)
  | none => do
    let shared := if app.origins.isEmpty then [] else shareHeaders app.origins r
    match ← app.dispatch r with
    | some response => pure (response.withHeaders shared)
    | none => pure Http.internalError

end App
end TableGate

/-
# Requests and responses

Key definitions: `Request`, `Request.header?`, `Response`, `Response.json`,
`Response.plain`.
-/
import TableGate.Error.Fault
import TableGate.Text.Case

namespace TableGate

structure Request where
  method : String
  /-- The path, its escapes not undone. -/
  path : String
  /-- What stands behind the question mark. -/
  query : String := ""
  headers : List (String × String) := []
  body : List UInt8 := []
deriving Repr, Inhabited

/-- The first header with a name, whose case does not count. -/
def Request.header? (r : Request) (name : String) : Option String :=
  (r.headers.find? fun h => Text.lower h.1 == name).map Prod.snd

structure Response where
  status : Nat
  headers : List (String × String)
  body : String
deriving DecidableEq, Repr, Inhabited

namespace Response

/-- A response whose body is a JSON text. -/
def json (status : Nat) (body : String) : Response :=
  ⟨status, [("content-type", "application/json")], body⟩

/-- A response whose body is a text. -/
def plain (status : Nat) (body : String) : Response :=
  ⟨status, [("content-type", "text/plain; charset=utf-8")], body⟩

/-- A response with more headers. -/
def withHeaders (r : Response) (headers : List (String × String)) : Response :=
  { r with headers := r.headers ++ headers }

end Response
end TableGate

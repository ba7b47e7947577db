/-
# Sharing with other origins

Answers may be read by pages of the origins that are listed, or of any origin if
the list has a star. A browser asks beforehand whether it may send a request; it is
answered without the request being served. Without listed origins nothing is said.

Key definitions: `isSharedWith`, `isPreflight`, `preflightResponse`, `shareHeaders`.
-/
import TableGate.Http.Message

namespace TableGate

/-- The methods that other origins may use. -/
def sharedMethods : List String := ["DELETE", "GET", "HEAD", "OPTIONS", "PATCH", "POST", "PUT"]

/-- Pages of an origin may read answers. -/
def isSharedWith (origins : List String) (origin : String) : Bool :=
  origins.contains "*" || origins.contains origin

/-- The header that lets pages of an origin read the answer. -/
def originHeaders (origins : List String) (origin : String) : List (String × String) :=
  if isSharedWith origins origin then [("access-control-allow-origin", origin)] else []

/-- Requests may carry credentials. -/
def credentialsHeader : String × String := ("access-control-allow-credentials", "true")

/-- A browser asks beforehand; the origin it asks for and the method it wants to
use. -/
def preflight? (r : Request) : Option (String × String) :=
  match r.header? "origin", r.header? "access-control-request-method" with
  | some origin, some method => if r.method == "OPTIONS" then some (origin, method) else none
  | _, _ => none

/-- The answer to a browser that asks beforehand. Every header that it wants to
send is allowed. -/
def preflightResponse (origins : List String) (r : Request) (origin method : String) : Response :=
  let refusals := (if isSharedWith origins origin then [] else ["origin"]) ++
    (if sharedMethods.contains method then [] else ["method"])
  let wanted := ((r.header? "access-control-request-headers").map fun names =>
    ("access-control-allow-headers", names)).toList
  let response := if refusals.isEmpty then Response.plain 200 "OK"
    else Response.plain 400 ("Disallowed CORS " ++ Text.join ", " refusals)
  response.withHeaders (credentialsHeader :: originHeaders origins origin ++ wanted)

/-- The headers that an answer gets for the origin of its request. -/
def shareHeaders (origins : List String) (r : Request) : List (String × String) :=
  match r.header? "origin" with
  | some origin => credentialsHeader :: originHeaders origins origin
  | none => []

end TableGate

/-
# Routes

The paths that are served, each with its method, in the order in which they are
tried: the fixed ones, those of a table, and those of a row. A segment of a path is
any text without a slash that is not empty.

A path that fits some route but not its method is answered with the method of the
first such route. A path that fits none, but would without slashes at its end, is
redirected.

Key definitions: `Endpoint`, `Endpoint.arguments?`, `Routing`, `route`.
-/
import TableGate.Text.Blank
import TableGate.Text.Cut

namespace TableGate

/-- What is served. -/
inductive Endpoint where
  | schema
  | health
  | listRows
  | insertRows
  | updateRows
  | deleteRows
  | getRow
  | replaceRow
  | deleteRow
deriving DecidableEq, Repr

namespace Endpoint

/-- Everything that is served, in the order in which it is tried. -/
def all : List Endpoint :=
  [.schema, .health, .listRows, .insertRows, .updateRows, .deleteRows, .getRow, .replaceRow,
   .deleteRow]

def method : Endpoint → String
  | .schema | .health | .listRows | .getRow => "GET"
  | .insertRows => "POST"
  | .updateRows => "PATCH"
  | .deleteRows | .deleteRow => "DELETE"
  | .replaceRow => "PUT"

/-- The segments of a path that begins with a slash; all but the last one end
before the next slash. -/
def segments? (path : List Char) : Option (List (List Char)) :=
  match path with
  | '/' :: rest => some (Text.splitChars '/' rest)
  | _ => none

/-- The path is a fixed one; a line feed may follow. -/
def isFixed (name : String) (path : List Char) : Bool :=
  path == '/' :: name.toList || path == '/' :: name.toList ++ ['\n']

/-- The segments of a path that has `n` of them, none of them empty. -/
def nonempty? (n : Nat) (path : List Char) : Option (List String) :=
  match segments? path with
  | some segments =>
    if segments.length = n ∧ segments.all (fun s => !s.isEmpty) then
      some (segments.map String.ofList)
    else none
  | none => none

/-- The segments that an endpoint takes from a path behind the base path, if the
path fits. -/
def arguments? (e : Endpoint) (path : List Char) : Option (List String) :=
  match e with
  | .schema => if isFixed "schema" path then some [] else none
  | .health => if isFixed "health" path then some [] else none
  | .listRows | .insertRows | .updateRows | .deleteRows => nonempty? 1 path
  | .getRow | .replaceRow | .deleteRow => nonempty? 2 path

end Endpoint

/-- The path behind the base path. -/
def behindBase? (base path : String) : Option (List Char) :=
  if Text.startsWith path base then some (path.toList.drop base.length) else none

/-- The endpoints that a path fits, with what they take from it. -/
def fitting (base path : String) : List (Endpoint × List String) :=
  match behindBase? base path with
  | none => []
  | some rest =>
    Endpoint.all.filterMap fun e => (e.arguments? rest).map fun arguments => (e, arguments)

/-- Where a request goes. -/
inductive Routing where
  | endpoint (e : Endpoint) (arguments : List String)
  /-- The path is served, by another method. -/
  | otherMethod (allowed : String)
  /-- The path is served without the slashes at its end. -/
  | redirect (path : String)
  | notFound
deriving DecidableEq, Repr

/-- Finds where a request goes, by its method and its path without escapes. -/
def route (base method path : String) : Routing :=
  let found := fitting base path
  match found.find? fun f => f.1.method == method with
  | some (e, arguments) => .endpoint e arguments
  | none =>
    match found with
    | (e, _) :: _ => .otherMethod e.method
    | [] =>
      let bare := Text.dropEndChar '/' path
      if Text.endsWith path "/" && path != "/" && !(fitting base bare).isEmpty then .redirect bare
      else .notFound

end TableGate

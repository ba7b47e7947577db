/-
# The description of the interface

The OpenAPI document for a list of tables: for each table the routes of its rows,
and, if it has a primary key, those of a single row.

Key definitions: `OpenApi.valueType`, `OpenApi.columnSchema`, `OpenApi.rowSchema`,
`OpenApi.queryParameters`, `OpenApi.tablePaths`, `OpenApi.document`.
-/
import TableGate.Query.Filter
import TableGate.Schema.Table

namespace TableGate
namespace OpenApi

def integerTypes : List String :=
  ["integer", "int", "bigint", "smallint", "tinyint", "int2", "int4", "int8", "serial", "bigserial",
   "smallserial"]

/-- The types of other numbers. -/
def numberTypes : List String :=
  ["numeric", "decimal", "real", "float", "float4", "float8", "double precision", "money"]

def booleanTypes : List String := ["boolean", "bool", "bit"]

/-- The primitive type for a type of the backend, whose length or precision does
not count. -/
def valueType (dataType : String) : String :=
  let name := (Text.lower dataType).toList.takeWhile (· != '(')
  let name := Text.trim (String.ofList name)
  if Text.endsWith name "[]" then "array"
  else if integerTypes.contains name then "integer"
  else if numberTypes.contains name then "number"
  else if booleanTypes.contains name then "boolean"
  else "string"

/-- An object that names a type. -/
def typed (type : String) : Value := .mapping [("type", .text type)]

/-- What a column holds. -/
def columnSchema (c : Column) : Value :=
  let type := valueType c.dataType
  let item := String.ofList (c.dataType.toList.take (c.dataType.length - 2))
  .mapping
    ([("type", .text type)] ++
      (if type = "array" then [("items", typed (valueType item))] else []) ++
      (if c.nullable then [("nullable", .bool true)] else []) ++
      (match c.maxLength with
      | some n => if n > 0 ∧ type = "string" then [("maxLength", .int n)] else []
      | none => []))

/-- A new row has to give a value for the column. -/
def isRequired (c : Column) : Bool := !c.nullable && c.default.isNone && !c.isIdentity

/-- What a row of a table holds. -/
def rowSchema (t : Table) : Value :=
  let properties := Value.mergeKeys (t.columns.map fun c => (c.name, columnSchema c))
  let required := (t.columns.filter isRequired).map Column.name
  .mapping
    ([("type", .text "object"), ("properties", .mapping properties)] ++
      (if required.isEmpty then [] else [("required", textsValue required)]))

def queryParameter (name : String) (schema : Value) (description : String) : Value :=
  .mapping [("name", .text name), ("in", .text "query"), ("schema", schema),
    ("description", .text description)]

/-- An integer that is not negative. -/
def countSchema : Value := .mapping [("type", .text "integer"), ("minimum", .int 0)]

/-- The parameters that shape a result. -/
def pageParameters : List Value :=
  [queryParameter "select" (typed "string") "Columns to select (comma-separated)",
   queryParameter "order" (typed "string") "Order by column.asc|column.desc (comma-separated)",
   queryParameter "limit" countSchema "Maximum rows to return",
   queryParameter "offset" countSchema "Rows to skip"]

/-- The parameters that restrict the rows, one for each column. -/
def filterParameters (t : Table) : List Value :=
  t.columns.map fun c =>
    queryParameter c.name (typed "string")
      ("Filter by " ++ c.name ++ " (operators: " ++ Text.join ", " Operator.words ++ ")")

/-- All parameters of the query string. -/
def queryParameters (t : Table) : List Value := pageParameters ++ filterParameters t

def body (schema : Value) : List (String × Value) :=
  [("content", .mapping [("application/json", .mapping [("schema", schema)])])]

def answer (description : String) (content : List (String × Value)) : Value :=
  .mapping (("description", .text description) :: content)

/-- An object with the given properties. -/
def object (properties : List (String × Value)) : Value :=
  .mapping [("type", .text "object"), ("properties", .mapping properties)]

def errorBody : List (String × Value) :=
  body (object [("error", object [("code", typed "string"), ("message", typed "string")])])

/-- The body that tells a number of rows. -/
def countBody : List (String × Value) := body (object [("count", typed "integer")])

/-- A reference to the schema of a table's rows. -/
def rowReference (t : Table) : Value :=
  .mapping [("$ref", .text ("#/components/schemas/" ++ t.name))]

def rowList (t : Table) : Value :=
  .mapping [("type", .text "array"), ("items", rowReference t)]

/-- The operations on the rows of a table. -/
def collectionItem (t : Table) : Value :=
  let filters : Value := .list (filterParameters t)
  let page := object [("data", rowList t), ("count", typed "integer"), ("total", typed "integer")]
  .mapping
    [("get", .mapping
      [("summary", .text ("List " ++ t.name)), ("parameters", .list (queryParameters t)),
       ("responses", .mapping [("200", answer "Matching rows" (body page))])]),
     ("post", .mapping
      [("summary", .text ("Create " ++ t.name)),
       ("requestBody", .mapping (body (.mapping [("oneOf", .list [rowReference t, rowList t])]))),
       ("responses", .mapping
         [("201", answer "Created" []), ("400", answer "Invalid row" errorBody)])]),
     ("patch", .mapping
      [("summary", .text ("Update matching " ++ t.name)), ("parameters", filters),
       ("requestBody", .mapping (body (rowReference t))),
       ("responses", .mapping
        [("200", answer "Updated" countBody), ("400", answer "No filter" errorBody)])]),
     ("delete", .mapping
      [("summary", .text ("Delete matching " ++ t.name)), ("parameters", filters),
       ("responses", .mapping
        [("200", answer "Deleted" countBody), ("400", answer "No filter" errorBody)])])]

/-- The operations on the row of a table with a given value of the column
`key`. -/
def rowItem (t : Table) (key : String) : Value :=
  let type := ((t.column? key).map fun c => valueType c.dataType).getD "string"
  let parameter : Value := .mapping
    [("name", .text "id"), ("in", .text "path"), ("required", .bool true), ("schema", typed type),
     ("description", .text ("Value of " ++ key))]
  let row := body (object [("data", rowReference t)])
  let responses (description : String) : Value := .mapping
    [("200", answer description row), ("404", answer "No such row" errorBody)]
  .mapping
    [("parameters", .list [parameter]),
     ("get", .mapping [("summary", .text ("Get one " ++ t.name)), ("responses", responses "Row")]),
     ("put", .mapping
      [("summary", .text ("Update one " ++ t.name)),
       ("requestBody", .mapping (body (rowReference t))), ("responses", responses "Updated row")]),
     ("delete", .mapping
      [("summary", .text ("Delete one " ++ t.name)), ("responses", responses "Deleted row")])]

/-- The routes of a table under a base path: its rows, and, with a primary key,
a single row. -/
def tablePaths (t : Table) (base : String) : List (String × Value) :=
  let route := base ++ "/" ++ t.name
  (route, collectionItem t) ::
    (match t.primaryKeys with
    | [] => []
    | key :: _ => [(route ++ "/\x7bid\x7d", rowItem t key)])

def document (tables : List Table) (provider base : String) : Value :=
  .mapping
    [("openapi", .text "3.0.3"),
     ("info", .mapping [("title", .text (provider ++ " REST API")), ("version", .text "1.0.0")]),
     ("paths", .mapping (Value.mergeKeys (tables.flatMap fun t => tablePaths t base))),
     ("components", .mapping
      [("schemas", .mapping (Value.mergeKeys (tables.map fun t => (t.name, rowSchema t))))])]

end OpenApi
end TableGate

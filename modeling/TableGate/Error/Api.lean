/-
# Errors that are answered

Every error that is raised on purpose and answered with a body of its own: what
went wrong, as a constructor with what the message needs, and the wording in one
place.

Key definitions: `Rejection`, `ApiError`, `ApiError.code`, `ApiError.message`,
`ApiError.details`, `ApiError.body`.
-/
import TableGate.Error.Code
import TableGate.Json.Issue

namespace TableGate

/-- Why a request was rejected. -/
inductive Rejection where
  /-- An order term ends in a word that is no direction. -/
  | orderDirection (direction column order : String)
  /-- A page bound that is not a non-negative integer. -/
  | pageBound (name raw : String)
  /-- An operand of `is` that is neither null, not null nor a boolean. -/
  | isOperand (column operand : String)
  | emptyRow (table : String)
  | nothingToUpdate (table : String)
  | unfilteredUpdate (table : String)
  | unfilteredDelete (table : String)
  /-- An element of an array of rows is no object. -/
  | bulkElement
  /-- The body of an insert is neither an object nor an array. -/
  | insertBody
  /-- The body of an update is no object, or an empty one. -/
  | objectBody
  | missingBody
  | malformedBody (why : JsonIssue)
  | noChanges (table : String)
  /-- A script with an unterminated text or name. -/
  | unreadableScript
  /-- A parameter that cannot be read as the type the server declared for it. -/
  | parameter (position : Nat) (type value : String)
  /-- A rejection in the words of the caller. -/
  | stated (message : String) (details : List (String × Value))
deriving Repr

namespace Rejection

def message : Rejection → String
  | .orderDirection direction column _ =>
    "Invalid order direction '" ++ direction ++ "' for column '" ++ column ++ "'"
  | .pageBound name raw => "'" ++ name ++ "' must be a non-negative integer, got '" ++ raw ++ "'"
  | .isOperand _ operand =>
    "Operator 'is' expects null, not.null, true or false; got '" ++ operand ++ "'"
  | .emptyRow table => "Cannot insert an empty row into '" ++ table ++ "'"
  | .nothingToUpdate table => "No columns to update in '" ++ table ++ "'"
  | .unfilteredUpdate table =>
    "Refusing to update every row of '" ++ table ++ "': at least one filter is required"
  | .unfilteredDelete table =>
    "Refusing to delete every row of '" ++ table ++ "': at least one filter is required"
  | .bulkElement => "Every element of a bulk insert must be a JSON object"
  | .insertBody => "Request body must be a JSON object or an array of objects"
  | .objectBody => "Request body must be a non-empty JSON object"
  | .missingBody => "Request body is required"
  | .malformedBody why => "Request body is not valid JSON: " ++ why.text
  | .noChanges table => "No changes requested for table '" ++ table ++ "'"
  | .unreadableScript => "Unable to tokenize SQL script"
  | .parameter position type value =>
    "Parameter $" ++ toString position ++ " is not a valid " ++ type ++ " value: " ++ value
  | .stated message _ => message

/-- What a rejection tells beside its wording. -/
def details : Rejection → List (String × Value)
  | .orderDirection _ _ order => [("order", .text order)]
  | .isOperand column _ => [("column", .text column)]
  | .parameter position type _ => [("parameter", .int position), ("type", .text type)]
  | .stated _ details => details
  | _ => []

end Rejection

/-- An error that is answered with its own body. -/
inductive ApiError where
  | internal (message : String) (details : List (String × Value))
  /-- The database cannot be reached or refuses the login. -/
  | connection (message : String) (details : List (String × Value))
  /-- The database refused a statement; its message is passed on. -/
  | query (message : String) (sql category : Option String)
  | unsupportedOperator (operator : String) (supported : List String)
  | missingPrimaryKey (table : String)
  | notFound (message : String) (details : List (String × Value))
  | validation (why : Rejection)
  | unknownProvider (provider : String) (known : List String)
deriving Repr

/-- Texts in the order of their code points. -/
def sortTexts (texts : List String) : List String := texts.mergeSort fun a b => decide (a ≤ b)

namespace ApiError

def code : ApiError → ErrorCode
  | .internal .. => .internal
  | .connection .. => .connection
  | .query .. => .query
  | .unsupportedOperator .. => .unsupportedOperator
  | .missingPrimaryKey .. => .missingPrimaryKey
  | .notFound .. => .notFound
  | .validation .. => .validation
  | .unknownProvider .. => .unknownProvider

/-- The HTTP status of an error. -/
def status (e : ApiError) : Nat := e.code.status

def message : ApiError → String
  | .internal message _ => message
  | .connection message _ => message
  | .query message _ _ => message
  | .unsupportedOperator operator supported =>
    "Unsupported filter operator: '" ++ operator ++ "'" ++
      (if supported.isEmpty then ""
      else ". Supported operators: " ++ Text.join ", " (sortTexts supported))
  | .missingPrimaryKey table => "Table '" ++ table ++ "' has no primary key"
  | .notFound message _ => message
  | .validation why => why.message
  | .unknownProvider provider known =>
    "Unknown provider: '" ++ provider ++ "'. Available providers: " ++
      (if known.all (·.isEmpty) && known.length ≤ 1 then "(none)"
      else Text.join ", " (sortTexts known))

/-- What an error tells beside its wording. -/
def details : ApiError → List (String × Value)
  | .internal _ details => details
  | .connection _ details => details
  | .query _ _ category =>
    match category with
    | some c => if c.isEmpty then [] else [("category", .text c)]
    | none => []
  | .unsupportedOperator operator _ => [("operator", .text operator)]
  | .missingPrimaryKey table => [("table", .text table)]
  | .notFound _ details => details
  | .validation why => why.details
  | .unknownProvider provider known =>
    [("provider", .text provider), ("available", .list ((sortTexts known).map .text))]

/-- The error as a body shows it; without details there is no such key. -/
def body (e : ApiError) : List (String × Value) :=
  [("code", .text e.code.text), ("message", .text e.message)] ++
    (if e.details.isEmpty then [] else [("details", .mapping e.details)])

/-- What an error was made of, its wording and its details apart. -/
def parts : ApiError → List (String × Value)
  | .query _ sql category =>
    [("sql", optionValue .text sql), ("category", optionValue .text category)]
  | .unsupportedOperator operator _ => [("operator", .text operator)]
  | .missingPrimaryKey table => [("table", .text table)]
  | .unknownProvider provider known =>
    [("provider", .text provider), ("known", textsValue (sortTexts known))]
  | _ => []

end ApiError
end TableGate

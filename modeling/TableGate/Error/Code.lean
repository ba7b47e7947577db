/-
# Error codes

The codes a client sees in an error body, the HTTP status each is answered
with, and the coarse group it is counted under.

Key definitions: `ErrorCode`, `ErrorCode.parse`, `ErrorCode.status`,
`ErrorCode.group`.
-/
import TableGate.Value

namespace TableGate

/-- The codes of the errors a client sees. -/
inductive ErrorCode where
  | validation
  | unsupportedOperator
  | missingPrimaryKey
  | notFound
  | unknownProvider
  | connection
  | query
  | internal
deriving DecidableEq, Repr

namespace ErrorCode

def all : List ErrorCode :=
  [.validation, .unsupportedOperator, .missingPrimaryKey, .notFound, .unknownProvider, .connection,
    .query, .internal]

def text : ErrorCode → String
  | .validation => "VALIDATION_ERROR"
  | .unsupportedOperator => "UNSUPPORTED_OPERATOR"
  | .missingPrimaryKey => "MISSING_PRIMARY_KEY"
  | .notFound => "NOT_FOUND"
  | .unknownProvider => "UNKNOWN_PROVIDER"
  | .connection => "DB_CONNECTION_ERROR"
  | .query => "DB_QUERY_ERROR"
  | .internal => "INTERNAL_ERROR"

/-- The HTTP status an error with this code is answered with. -/
def status : ErrorCode → Nat
  | .validation | .unsupportedOperator => 400
  | .missingPrimaryKey | .notFound => 404
  | .connection => 503
  | .unknownProvider | .query | .internal => 500

/-- The group the code is counted under. -/
def group : ErrorCode → String
  | .validation | .unsupportedOperator | .missingPrimaryKey | .notFound => "CLIENT"
  | .unknownProvider => "CONFIG"
  | .connection | .query => "DB"
  | .internal => "INTERNAL"

/-- The code a value names, with blanks around it; anything else is internal. -/
def parse (v : Value) : ErrorCode :=
  match v with
  | .null => .internal
  | v => (all.find? fun c => c.text == Text.trim v.shown).getD .internal

end ErrorCode
end TableGate

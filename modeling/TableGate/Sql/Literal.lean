/-
# Literals and type names

A value as a literal, for statements that take no parameters, and the names that
the types of a backend have in a common vocabulary.

A text is enclosed in single quotes, which are doubled inside; see `textLiteral`.

Key definitions: `textLiteral`, `Dialect.literal`, `Dialect.standardType`,
`Dialect.backendType`.
-/
import TableGate.Sql.Dialect

namespace TableGate

/-- A text between single quotes, those inside doubled. -/
def textLiteral (s : String) : String := "'" ++ Text.double '\'' s ++ "'"

namespace Dialect

def literal (d : Dialect) (v : Value) : Except Fault String :=
  if v.isTooLong then .error (.refused .unreadable)
  else match v with
    | .null => .ok "NULL"
    | .bool b => .ok (d.boolLiteral b)
    | .int _ | .float _ | .decimal _ => .ok v.shown
    | .dateTime t => .ok ("'" ++ t.text ++ "'")
    | .date t => .ok ("'" ++ t.text ++ "'")
    | v => .ok (textLiteral v.shown)

/-- The types of a backend, by name, each with its name in the common
vocabulary. -/
def standardTypes : Dialect → List (String × String)
  | .postgres =>
    [("character varying", "VARCHAR"), ("integer", "INTEGER"), ("bigint", "BIGINT"),
     ("smallint", "SMALLINT"), ("boolean", "BOOLEAN"),
     ("timestamp without time zone", "TIMESTAMP"), ("timestamp with time zone", "TIMESTAMPTZ"),
     ("jsonb", "JSON"), ("uuid", "UUID"), ("text", "TEXT"), ("date", "DATE"), ("time", "TIME"),
     ("decimal", "DECIMAL"), ("numeric", "NUMERIC"), ("real", "REAL"),
     ("double precision", "FLOAT")]
  | .sqlServer =>
    [("nvarchar", "VARCHAR"), ("varchar", "VARCHAR"), ("int", "INTEGER"), ("bigint", "BIGINT"),
     ("smallint", "SMALLINT"), ("tinyint", "TINYINT"), ("bit", "BOOLEAN"), ("decimal", "DECIMAL"),
     ("numeric", "NUMERIC"), ("float", "FLOAT"), ("real", "REAL"), ("date", "DATE"),
     ("time", "TIME"), ("datetime", "TIMESTAMP"), ("datetime2", "TIMESTAMP"),
     ("datetimeoffset", "TIMESTAMPTZ"), ("uniqueidentifier", "UUID"), ("binary", "BINARY"),
     ("varbinary", "VARBINARY"), ("text", "TEXT"), ("ntext", "TEXT")]

/-- The types of the common vocabulary, each with the type of the backend for
it. -/
def backendTypes : Dialect → List (String × String)
  | .postgres =>
    [("VARCHAR", "character varying"), ("INTEGER", "integer"), ("BIGINT", "bigint"),
     ("SMALLINT", "smallint"), ("BOOLEAN", "boolean"),
     ("TIMESTAMP", "timestamp without time zone"), ("TIMESTAMPTZ", "timestamp with time zone"),
     ("JSON", "jsonb"), ("JSONB", "jsonb"), ("UUID", "uuid"), ("TEXT", "text"), ("DATE", "date"),
     ("TIME", "time"), ("DECIMAL", "decimal"), ("NUMERIC", "numeric"), ("REAL", "real"),
     ("FLOAT", "double precision")]
  | .sqlServer =>
    [("VARCHAR", "NVARCHAR"), ("TEXT", "NVARCHAR(MAX)"), ("INTEGER", "INT"), ("BIGINT", "BIGINT"),
     ("SMALLINT", "SMALLINT"), ("TINYINT", "TINYINT"), ("BOOLEAN", "BIT"), ("DECIMAL", "DECIMAL"),
     ("NUMERIC", "NUMERIC"), ("FLOAT", "FLOAT"), ("REAL", "REAL"), ("DATE", "DATE"),
     ("TIME", "TIME"), ("TIMESTAMP", "DATETIME2"), ("TIMESTAMPTZ", "DATETIMEOFFSET"),
     ("UUID", "UNIQUEIDENTIFIER"), ("BINARY", "BINARY"), ("VARBINARY", "VARBINARY"),
     ("JSON", "NVARCHAR(MAX)")]

/-- What a name stands for in a list of names. -/
def named? (names : List (String × String)) (name : String) : Option String :=
  (names.find? fun e => e.1 == name).map Prod.snd

/-- The common name of a type of the backend; an unknown one in capitals. -/
def standardType (d : Dialect) (type : String) : String :=
  (named? d.standardTypes (Text.lower (Text.trim type))).getD (Text.upper type)

/-- The type of the backend for a common name; an unknown one as it is. -/
def backendType (d : Dialect) (type : String) : String :=
  (named? d.backendTypes (Text.upper (Text.trim type))).getD type

end Dialect
end TableGate

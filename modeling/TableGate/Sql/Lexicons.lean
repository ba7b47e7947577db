/-
# Lexicons by dialect

The lexicons that a script can be read with, and the names they go by. A name
may carry settings, each behind a comma; they change how names are compared and
leave the lexicon as it is.

Key definitions: `Lexicon.plain`, `Lexicon.postgres`, `Lexicon.sqlServer`,
`Lexicon.named?`, `Lexicon.configured?`.
-/
import TableGate.Sql.Lexicon
import TableGate.Text.Cut

namespace TableGate
namespace Sql
namespace Lexicon

/-- Symbols and phrases that are tokens of one kind. -/
def tokens (kind : TokenKind) (keys : List String) : List (String × Entry) :=
  keys.map fun key => (key, .symbol kind)

/-- Digits to the base 2 in quotes. -/
def quotedBits : String × Entry := ("B'", .digits 2)

/-- Digits to the base 16 in quotes. -/
def quotedHex : String × Entry := ("X'", .digits 16)

/-- The common commands without some of them. -/
def commandsBut (left : List String) : List String :=
  commonCommands.filter fun word => !left.contains word

/-- No dialect in particular. -/
def plain : Lexicon := {}

/-! ### PostgreSQL and its relatives -/

/-- The symbols that PostgreSQL has besides. -/
def postgresSymbols : List (String × Entry) :=
  tokens .other ["@@", "@>", "<@", "?&", "?|", "#-", "|/", "||/", "^@"]

/-- PostgreSQL: bodies stand between dollar tags, and `E` marks a text with backslashes. -/
def postgres : Lexicon where
  punctuation := '$' :: commonPunctuation
  wordMarks := ['$']
  textMarks := [("E", ['\'', '\\']), ("U&", ['\''])]
  hints := false
  binaryNumbers := true
  hexNumbers := true
  commandWords := commonCommands ++
    ["LOCK", "DECLARE", "DO", "EXEC", "REFRESH", "REINDEX", "RESET"]
  openings := quotedBits :: quotedHex :: ("$", .tag false) :: postgresSymbols

/-- PostgreSQL without backslashes in texts. -/
def materialize : Lexicon := { postgres with textMarks := [("E", ['\'']), ("U&", ['\''])] }

/-- PostgreSQL with backslashes in all texts, without bits and with `#` in words. -/
def redshift : Lexicon where
  punctuation := '$' :: commonPunctuation.filter (· != '#')
  wordMarks := ['$']
  escapes := ['\\', '\'']
  textMarks := [("E", ['\'', '\\']), ("U&", ['\'', '\\'])]
  hints := false
  commandWords := postgres.commandWords ++ ["UNLOAD"]
  openings := ("$", .tag false) :: postgresSymbols

/-- DuckDB: dollar tags, and underscores in numbers. -/
def duckDb : Lexicon where
  punctuation := '$' :: commonPunctuation
  textMarks := [("E", ['\'', '\\'])]
  hints := false
  groupedNumbers := true
  commandWords := commandsBut ["SHOW"] ++ ["RESET"]
  openings := ("$", .tag false) :: tokens .other ["//", "**", "^@", "@>", "<@"]

/-! ### SQL Server -/

/-- SQL Server: names in brackets, `@`, `$` and `#` in words, and `END` as a command. -/
def sqlServer : Lexicon where
  wordMarks := ['@', '$', '#']
  nameQuotes := [('[', ']'), ('"', '"')]
  textQuotes := ["'", "\""]
  hints := false
  hexNumbers := true
  commandWords := commandsBut ["EXECUTE"] ++ ["GO", "PRINT"]
  endsCommand := true
  openings := tokens .command ["UPDATE STATISTICS"] ++
    tokens .other ["CLUSTERED INDEX", "NONCLUSTERED INDEX", "FOR SYSTEM_TIME"]

/-! ### MySQL and its relatives -/

/-- MySQL: names in backquotes, and `START` begins a transaction. -/
def mySql : Lexicon where
  wordMarks := ['@']
  nameQuotes := [('\x60', '\x60')]
  textQuotes := ["'", "\""]
  escapes := ['\'', '"', '\\']
  lineComments := ["--", "#"]
  nested := false
  binaryNumbers := true
  hexNumbers := true
  digitNames := true
  beginWords := ["BEGIN", "START"]
  commandWords := commandsBut ["EXPLAIN", "SHOW"] ++ ["REPLACE"]
  openings := quotedBits :: quotedHex :: tokens .command ["LOCK TABLES", "UNLOCK TABLES"] ++
    tokens .other ["@@", "MEMBER OF", "SIGNED INTEGER", "SOUNDS LIKE", "UNSIGNED INTEGER"]

/-- MySQL with casts of its own. -/
def singleStore : Lexicon :=
  { mySql with
    textMarks := [("E", mySql.escapes)]
    openings := mySql.openings ++ tokens .other [":>", "!:>", "::$", "::%", "::?"] }

/-! ### Hive and its relatives -/

/-- Hive: texts with backslashes, and `$` before a parameter. -/
def hive : Lexicon where
  punctuation := '$' :: commonPunctuation
  parameterMarks := ['@', '$']
  nameQuotes := [('\x60', '\x60')]
  textQuotes := ["'", "\""]
  escapes := ['\\']
  digitNames := true
  openings := tokens .command
    ["ADD ARCHIVE", "ADD ARCHIVES", "ADD FILE", "ADD FILES", "ADD JAR", "ADD JARS", "MSCK REPAIR"]

/-- Hive with digits in quotes. -/
def earlySpark : Lexicon :=
  { hive with hexNumbers := true, openings := quotedHex :: hive.openings }

/-- Spark: `R` marks a text without escapes. -/
def spark : Lexicon := { earlySpark with textMarks := [("R", [])] }

/-! ### Presto and its relatives -/

/-- Presto: comments do not stand inside comments. -/
def presto : Lexicon where
  textMarks := [("U&", ['\''])]
  hints := false
  nested := false
  hexNumbers := true
  beginWords := ["BEGIN", "START"]
  openings := quotedHex ::
    tokens .command ["DEALLOCATE PREPARE", "DESCRIBE INPUT", "DESCRIBE OUTPUT", "RESET SESSION"]

/-- Presto with names in backquotes. -/
def athena : Lexicon :=
  { presto with
    nameQuotes := [('"', '"'), ('\x60', '\x60')]
    commandWords := presto.commandWords ++ ["UNLOAD"] }

/-! ### Others -/

/-- BigQuery: `BEGIN` is a command, and begins a transaction only with its word. -/
def bigQuery : Lexicon where
  nameQuotes := [('\x60', '\x60')]
  nameEscapes := ['\\']
  textQuotes := ["'", "\"", "\"\"\"", "'''"]
  escapes := ['\\']
  textMarks := [("B", ['\\']), ("R", ['\\'])]
  lineComments := ["--", "#"]
  hints := false
  nested := false
  hexNumbers := true
  beginWords := []
  commandWords := commonCommands ++
    ["BEGIN", "ELSEIF", "EXCEPTION", "LOOP", "REPEAT", "WHILE"]
  openings := tokens .beginWord ["BEGIN TRANSACTION"]

/-- ClickHouse: a dollar sign opens a tag, which is required. -/
def clickHouse : Lexicon where
  punctuation := '$' :: commonPunctuation
  nameQuotes := [('"', '"'), ('\x60', '\x60')]
  nameEscapes := ['\\']
  escapes := ['\'', '\\']
  lineComments := ["--", "#", "#!"]
  hints := false
  binaryNumbers := true
  hexNumbers := true
  groupedNumbers := true
  digitNames := true
  commandWords := commonCommands ++ ["ATTACH", "EXCHANGE", "SYSTEM"]
  openings := ("$", .tag true) :: tokens .other [".:"]

/-- Dremio: two slashes open a comment. -/
def dremio : Lexicon := { plain with lineComments := ["--", "//"] }

/-- Drill: names in backquotes, and texts with backslashes. -/
def drill : Lexicon where
  nameQuotes := [('\x60', '\x60')]
  escapes := ['\\']
  hints := false

/-- Exasol: names in brackets too, and `ENDIF` ends a block. -/
def exasol : Lexicon :=
  { plain with nameQuotes := [('"', '"'), ('[', ']')], endWords := ["END", "ENDIF"] }

/-- Oracle: `@`, `$` and `#` in words, and `START` begins a transaction. -/
def oracle : Lexicon where
  wordMarks := ['@', '$', '#']
  textMarks := [("U", ['\''])]
  nested := false
  beginWords := ["BEGIN", "START"]
  openings := tokens .other ["BULK COLLECT INTO", "ORDER SIBLINGS BY"]

/-- PRQL: names in backquotes. -/
def prql : Lexicon where
  nameQuotes := [('\x60', '\x60')]
  textQuotes := ["'", "\""]

/-- Snowflake: bodies between two dollar signs, and `$` in words. -/
def snowflake : Lexicon where
  punctuation := '$' :: commonPunctuation
  wordMarks := ['$']
  parameterMarks := ['@', '$']
  escapes := ['\\', '\'']
  lineComments := ["--", "//"]
  hints := false
  nested := false
  hexNumbers := true
  commandWords := commandsBut ["SHOW"] ++ ["REMOVE", "RM"]
  openings := quotedHex :: ("$$", .quoted "$$" ['\\', '\'']) :: tokens .other ["FILE://"]

/-- Solr: names in backquotes. -/
def solr : Lexicon := { plain with nameQuotes := [('\x60', '\x60')] }

/-- SQLite: names in any of three quotes. -/
def sqlite : Lexicon where
  nameQuotes := [('"', '"'), ('[', ']'), ('\x60', '\x60')]
  hints := false
  nested := false
  hexNumbers := true
  commandWords := commonCommands ++ ["REPLACE"]
  openings := [quotedHex]

/-- Tableau: names in brackets. -/
def tableau : Lexicon where
  nameQuotes := [('[', ']')]
  textQuotes := ["'", "\""]

/-- Teradata: `%` goes on a word. -/
def teradata : Lexicon where
  punctuation := commonPunctuation.filter (· != '%')
  hints := false
  hexNumbers := true
  commandWords := commonCommands ++ ["COLLECT", "HELP"]
  openings := quotedHex :: tokens .other ["**", "^="]

/-! ### Names -/

def byName : List (String × Lexicon) :=
  [("", plain), ("athena", athena), ("bigquery", bigQuery), ("clickhouse", clickHouse),
   ("databricks", spark), ("doris", mySql), ("dremio", dremio), ("drill", drill),
   ("druid", plain), ("duckdb", duckDb), ("dune", presto), ("exasol", exasol),
   ("fabric", sqlServer), ("hive", hive), ("materialize", materialize), ("mysql", mySql),
   ("oracle", oracle), ("postgres", postgres), ("presto", presto), ("prql", prql),
   ("redshift", redshift), ("risingwave", materialize), ("singlestore", singleStore),
   ("snowflake", snowflake), ("solr", solr), ("spark", spark), ("spark2", earlySpark),
   ("sqlite", sqlite), ("starrocks", mySql), ("tableau", tableau), ("teradata", teradata),
   ("trino", presto), ("tsql", sqlServer)]

/-- The lexicon of the dialect with a name. -/
def named? (name : String) : Option Lexicon := byName.lookup name

/-- The ways to compare names that a setting may ask for. -/
def namingWays : List String :=
  ["lowercase", "uppercase", "case_sensitive", "case_insensitive", "case_insensitive_uppercase"]

/-- The setting is one that can be made. -/
def isSetting (setting : String) : Bool :=
  match (Text.splitAt '=' setting).map Text.trim with
  | "version" :: _ => true
  | ["normalization_strategy", way] => namingWays.contains (Text.lower way)
  | "normalization_strategy" :: _ :: _ :: _ => true
  | _ => false

/-- The lexicon of the dialect with a name, which settings may follow. -/
def configured? (name : String) : Option Lexicon :=
  match Text.splitAt ',' name with
  | [] => none
  | front :: settings => if settings.all isSetting then named? (Text.trim front) else none

end Lexicon
end Sql
end TableGate

/-
# Kinds of backend failures

An exception of a driver is put into a category, whatever the backend: by the
code that it carries, if it carries one, then by its kind, and only then by what
its text says. The pieces of text are tried in a fixed order, so the name of an
object in a message cannot steer it into a later category.

A failure to reach the backend or to log in becomes a connection error, any
other failure a query error; the text of the backend is passed on.

Key definitions: `Category`, `Fault.category`, `Fault.translated`.
-/
import TableGate.Error.Fault
import TableGate.Text.WordChar

namespace TableGate

inductive Category where
  | undefinedObject
  | auth
  | permission
  | connectivity
  | timeout
  | constraint
  | badSyntax
  | deadlock
  | unknown
deriving DecidableEq, Repr

namespace Category

def text : Category → String
  | .undefinedObject => "undefined_object"
  | .auth => "auth"
  | .permission => "permission"
  | .connectivity => "connectivity"
  | .timeout => "timeout"
  | .constraint => "constraint"
  | .badSyntax => "syntax"
  | .deadlock => "deadlock"
  | .unknown => "unknown"

/-- The backend cannot be reached or refuses the login. -/
def isConnectionFailure (c : Category) : Bool := c == .connectivity || c == .auth

/-- The states of the SQL standard whose category is their own. -/
def sqlStates : List (String × Category) :=
  [("42P01", .undefinedObject), ("42703", .undefinedObject), ("42704", .undefinedObject),
   ("42883", .undefinedObject), ("3F000", .undefinedObject), ("42501", .permission),
   ("57014", .timeout), ("40P01", .deadlock), ("57P01", .connectivity), ("57P02", .connectivity),
   ("57P03", .connectivity)]

/-- The categories of the classes of states, by their first two characters. -/
def sqlStateClasses : List (String × Category) :=
  [("08", .connectivity), ("28", .auth), ("23", .constraint), ("40", .deadlock), ("42", .badSyntax)]

def ofSqlState? (state : Value) : Option Category :=
  match state with
  | .text s =>
    if s.length ≠ 5 then none
    else
      match sqlStates.find? fun e => e.1 == s with
      | some e => some e.2
      | none =>
        (sqlStateClasses.find? fun e => e.1 == String.ofList (s.toList.take 2)).map Prod.snd
  | _ => none

/-- The error numbers of SQL Server. -/
def serverNumbers : List (Int × Category) :=
  [(208, .undefinedObject), (207, .undefinedObject), (2812, .undefinedObject),
   (3701, .undefinedObject), (229, .permission), (230, .permission), (262, .permission),
   (18456, .auth), (4060, .auth), (102, .badSyntax), (156, .badSyntax), (2627, .constraint),
   (2601, .constraint), (547, .constraint), (515, .constraint), (1205, .deadlock),
   (1222, .timeout), (20002, .connectivity), (20003, .timeout), (20009, .connectivity),
   (20047, .connectivity)]

/-- The category of an error number. -/
def ofServerNumber? (n : Value) : Option Category :=
  match n with
  | .int n => (serverNumbers.find? fun e => e.1 == n).map Prod.snd
  | _ => none

/-- A piece of a message; it may have to begin or to begin and end at the edge of
a word. -/
inductive Phrase where
  | anywhere (piece : String)
  | atWordStart (piece : String)
  | wholeWords (piece : String)
deriving DecidableEq, Repr

/-- The phrases that tell a category, the first ones first. -/
def phrases : List (Category × List Phrase) :=
  [(.undefinedObject,
    [.anywhere "does not exist", .anywhere "invalid object name", .anywhere "invalid column name",
     .anywhere "undefined table", .anywhere "cannot find the object"]),
   (.auth,
    [.anywhere "password authentication failed", .anywhere "login failed",
     .anywhere "no pg_hba.conf entry"]),
   (.permission,
    [.anywhere "permission denied", .anywhere "not authorized", .anywhere "access denied"]),
   (.connectivity,
    [.anywhere "could not connect", .anywhere "connection refused", .anywhere "connection reset",
     .anywhere "connection is closed", .anywhere "unable to connect",
     .anywhere "adaptive server is unavailable", .anywhere "connection failed",
     .anywhere "network is unreachable", .anywhere "server closed the connection"]),
   (.timeout, [.wholeWords "timeout", .wholeWords "timed out"]),
   (.constraint,
    [.anywhere "violates", .anywhere "duplicate key", .anywhere "unique constraint",
     .anywhere "foreign key constraint", .anywhere "cannot insert the value null",
     .anywhere "conflicted with the"]),
   (.badSyntax, [.anywhere "syntax error", .anywhere "incorrect syntax", .anywhere "parse error"]),
   (.deadlock, [.atWordStart "deadlock"])]

/-- The piece stands in the text with the wanted edges; `inWord` tells whether a
word reaches up to the text. -/
def standsIn (piece : List Char) (edgeBefore edgeAfter inWord : Bool) : List Char → Bool
  | [] => piece.isEmpty
  | c :: cs =>
    (piece.isPrefixOf (c :: cs) && !(edgeBefore && inWord) &&
        !(edgeAfter && (((c :: cs).drop piece.length).head?.any Text.isWordChar))) ||
      standsIn piece edgeBefore edgeAfter (Text.isWordChar c) cs

def Phrase.standsIn (text : List Char) : Phrase → Bool
  | .anywhere piece => Category.standsIn piece.toList false false false text
  | .atWordStart piece => Category.standsIn piece.toList true false false text
  | .wholeWords piece => Category.standsIn piece.toList true true false text

/-- The category that a message tells of. -/
def ofMessage? (message : String) : Option Category :=
  let text := (Text.lower message).toList
  (phrases.find? fun rule => rule.2.any fun p => p.standsIn text).map Prod.fst

end Category

namespace Fault

/-- The exception of the driver inside one that wraps it. -/
def unwrapped : Fault → Fault
  | .foreign _ (some inner) => inner
  | e => e

/-- The name and the origin of an exception, in lower case. -/
def label : Fault → String × String
  | .foreign e _ => (Text.lower e.name, Text.lower e.origin)
  | _ => ("", "")

/-- The category in the code that an exception carries. -/
def codeCategory? : Fault → Option Category
  | .foreign e _ =>
    let origin := Text.lower e.origin
    let isServer := Text.startsWith origin "pymssql" || Text.startsWith origin "_mssql"
    (Category.ofSqlState? e.sqlState).orElse fun _ =>
      if isServer then e.args.head?.bind Category.ofServerNumber? else none
  | _ => none

/-- The category of a system error: a timeout, or the network, unless a driver
raised it. -/
def systemCategory? (e : Fault) : Option Category :=
  let origin := e.label.2
  let isDriver := ["asyncpg", "pymssql", "sqlalchemy"].any fun d => Text.startsWith origin d
  match e with
  | .foreign f _ =>
    match f.lineage with
    | .timeout => some .timeout
    | .system => if isDriver then none else some .connectivity
    | .plain => none
  | .api (.connection ..) => some .connectivity
  | _ => none

/-- The category in the name of an exception. -/
def nameCategory (e : Fault) : Category :=
  let (name, origin) := e.label
  if Text.startsWith origin "asyncpg" &&
      (Text.contains name "connectiondoesnotexist" || Text.contains name "interfaceerror") then
    .connectivity
  else if name == "connectionerror" || name == "interfaceerror" then .connectivity
  else .unknown

def category (e : Fault) : Category :=
  let e := e.unwrapped
  (((e.codeCategory?.orElse fun _ => e.systemCategory?).orElse fun _ =>
    Category.ofMessage? e.text)).getD e.nameCategory

/-- The failure as an error that is answered; `sql` is the statement that
failed. -/
def translated (e : Fault) (sql : Option String) : Fault :=
  let category := e.category
  if category.isConnectionFailure then
    .api (.connection e.text [("category", .text category.text)])
  else .api (.query e.text sql (some category.text))

end Fault

/-- The provider in a classification, in lower case. -/
def classifiedProvider (provider : String) : String :=
  if provider.isEmpty then "unknown" else Text.lower provider

end TableGate

/-
# Lexicons

What the tokens of a script look like in one dialect: its punctuation, its
quotes and comments, how its numbers go on, and the words that matter for
finding the end of a statement.

An entry is a row of characters that opens a token or a comment, or is a token.
A letter in an entry stands for both its cases, and a blank for a run of blanks.
Of the entries at the front of a text the longest one counts.

Key definitions: `TokenKind`, `Entry`, `Lexicon`, `Lexicon.entries`,
`Lexicon.entryAt?`, `Lexicon.wordKind`.
-/
import TableGate.Text.Blank
import TableGate.Text.Case

namespace TableGate
namespace Sql

/-- What a token means for the end of a statement. -/
inductive TokenKind where
  | semicolon
  | beginWord
  | caseWord
  | endWord
  | command
  | parameter
  | other
deriving DecidableEq, Repr

/-- What a row of characters opens or is. -/
inductive Entry where
  /-- Opens a text that ends at `close`; a character of `escapes` in it takes a
  quote behind it along. -/
  | quoted (close : String) (escapes : List Char)
  /-- Opens digits to a base, in quotes. -/
  | digits (base : Nat)
  /-- Opens the tag of a body. Where the tag need not be one, the mark of a
  parameter stands instead. -/
  | tag (required : Bool)
  /-- Opens a comment that ends at `close`, or with its line. -/
  | comment (close : Option String)
  /-- Is a token. -/
  | symbol (kind : TokenKind)
deriving DecidableEq, Repr

def commonPunctuation : List Char := "()[]\x7b\x7d&^:,.-=><%!|+;/\\*~?@#'\"\x60".toList

/-- The rows of characters that are one token in all dialects. -/
def commonSymbols : List String :=
  ["\x7b%", "\x7b%+", "\x7b%-", "%\x7d", "+%\x7d", "-%\x7d", "\x7b\x7b+", "\x7b\x7b-", "+\x7d\x7d",
   "-\x7d\x7d", "&<", "&>", "==", "::", "?::", "||", "|>", ">=", "<=", "<>", "!=", ":=", "<=>",
   "->", "->>", "=>", "#>", "#>>", "<->", "&&", "??", "~~~", "~~", "~~*", "~*", "-|-",
   "USER-DEFINED"]

/-- The words that are one token where they stand together, in all dialects. -/
def commonPhrases : List String :=
  ["CHARACTER SET", "CLUSTER BY", "CONNECT BY", "DISTRIBUTE BY", "DOUBLE PRECISION",
   "FOR TIMESTAMP", "FOR VERSION", "FOREIGN KEY", "GROUP BY", "GROUPING SETS", "ORDER BY",
   "PARTITION BY", "PARTITIONED BY", "PRIMARY KEY", "SIMILAR TO", "SORT BY", "START WITH"]

/-- The words that take the rest of their statement with them in most dialects. -/
def commonCommands : List String :=
  ["EXECUTE", "FETCH", "RENAME", "SHOW", "CALL", "EXPLAIN", "OPTIMIZE", "PREPARE", "VACUUM"]

/-- What the tokens of a script look like. -/
structure Lexicon where
  /-- The characters that end a word and are tokens by themselves. -/
  punctuation : List Char := commonPunctuation
  /-- The punctuation that a word goes on with all the same. -/
  wordMarks : List Char := []
  /-- The punctuation behind which a word is no keyword. -/
  parameterMarks : List Char := ['@']
  /-- The quotes of names, with those that close them. -/
  nameQuotes : List (Char × Char) := [('"', '"')]
  /-- What takes a quote along in a name, besides its closing quote. -/
  nameEscapes : List Char := []
  /-- The quotes of texts. -/
  textQuotes : List String := ["'"]
  /-- What takes a quote along in a text. -/
  escapes : List Char := ['\'']
  /-- The marks that may stand before the quotes of a text, and what takes a
  quote along behind them. -/
  textMarks : List (String × List Char) := []
  /-- What opens a comment that ends with its line. -/
  lineComments : List String := ["--"]
  /-- Hints are comments with a mark of their own. -/
  hints : Bool := true
  /-- Comments stand inside comments. -/
  nested : Bool := true
  /-- Numbers to the base 2. -/
  binaryNumbers : Bool := false
  /-- Numbers to the base 16. -/
  hexNumbers : Bool := false
  /-- Underscores stand in numbers. -/
  groupedNumbers : Bool := false
  /-- A name may begin with digits. -/
  digitNames : Bool := false
  /-- The words that open a block, unless they begin a transaction. -/
  beginWords : List String := ["BEGIN"]
  /-- The words that close a block. -/
  endWords : List String := ["END"]
  /-- The words that take the rest of their statement with them. -/
  commandWords : List String := commonCommands
  /-- The words that close a block take the rest of their statement, too. -/
  endsCommand : Bool := false
  /-- The entries that only this lexicon has. -/
  openings : List (String × Entry) := []

namespace Lexicon

def isPunctuation (l : Lexicon) (c : Char) : Bool := l.punctuation.contains c

/-- The characters that a word goes on with. -/
def continuesWord (l : Lexicon) (c : Char) : Bool :=
  !Text.isBlank c && (!l.isPunctuation c || l.wordMarks.contains c)

/-- A word ends before this text. -/
def endsBefore (l : Lexicon) (rest : List Char) : Bool :=
  rest.head?.all fun c => Text.isBlank c || l.isPunctuation c

def isTextQuote (l : Lexicon) (c : Char) : Bool := l.textQuotes.contains (String.ofList [c])

/-- The entries that open texts. -/
def textEntries (l : Lexicon) : List (String × Entry) :=
  l.textQuotes.flatMap fun quote =>
    (("", l.escapes) :: ("N", l.escapes) :: l.textMarks).map fun mark =>
      (mark.1 ++ quote, .quoted quote mark.2)

/-- The entries that open comments. -/
def commentEntries (l : Lexicon) : List (String × Entry) :=
  ("/*", .comment (some "*/")) :: ("\x7b#", .comment (some "#\x7d")) ::
    ((if l.hints then [("/*+", .comment (some "*/"))] else []) ++
      l.lineComments.map fun mark => (mark, .comment none))

def entries (l : Lexicon) : List (String × Entry) :=
  l.textEntries ++ l.commentEntries ++
    ((commonSymbols ++ commonPhrases).map fun key => (key, .symbol .other)) ++ l.openings

/-- Reads a copy of an entry's characters. -/
def readKey? : List Char → List Char → Option (List Char × List Char)
  | [], cs => some ([], cs)
  | _ :: _, [] => none
  | k :: key, c :: cs =>
    if k = ' ' then
      if Text.isBlank c then
        (readKey? key (cs.dropWhile Text.isBlank)).map fun r =>
          (c :: cs.takeWhile Text.isBlank ++ r.1, r.2)
      else none
    else if k = c.toUpper then (readKey? key cs).map fun r => (c :: r.1, r.2)
    else none

/-- An entry at the front of a text: how it is written there, and what follows. -/
structure Match where
  key : String
  entry : Entry
  text : List Char
  rest : List Char

/-- The longest entry at the front of a text. -/
def entryAt? (l : Lexicon) (cs : List Char) : Option Match :=
  l.entries.foldl (fun best e =>
    match readKey? e.1.toList cs with
    | some (text, rest) =>
      if best.all fun m => m.key.length < e.1.length then some ⟨e.1, e.2, text, rest⟩ else best
    | none => best) none

/-- What a word is, unless it stands behind the mark of a parameter. -/
def wordKind (l : Lexicon) (word : List Char) : TokenKind :=
  let upper := Text.upper (String.ofList word)
  if l.beginWords.contains upper then .beginWord
  else if upper = "CASE" then .caseWord
  else if l.endWords.contains upper then .endWord
  else if l.commandWords.contains upper then .command
  else .other

/-- The characters that are read back: a match is the front of its text. -/
theorem readKey?_append {key cs text rest : List Char}
    (h : readKey? key cs = some (text, rest)) : text ++ rest = cs := by
  fun_induction readKey? key cs generalizing text rest with
  | case1 cs => simp_all
  | case2 => simp at h
  | case3 key c cs hb ih =>
    obtain ⟨⟨t, r⟩, hr, he⟩ := Option.map_eq_some_iff.1 h
    obtain ⟨rfl, rfl⟩ := Prod.mk.injEq .. ▸ he
    simp [ih hr, List.takeWhile_append_dropWhile]
  | case4 => simp at h
  | case5 key c cs hk ih =>
    obtain ⟨⟨t, r⟩, hr, he⟩ := Option.map_eq_some_iff.1 h
    obtain ⟨rfl, rfl⟩ := Prod.mk.injEq .. ▸ he
    simp [ih hr]
  | case6 => simp at h

end Lexicon
end Sql
end TableGate

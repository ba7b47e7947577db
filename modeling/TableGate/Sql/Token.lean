/-
# Tokens of a script

A script is a row of segments: gaps (blanks and comments) and tokens. Only what
matters for finding the end of a statement is told apart: the semicolon, the
words that open and close a block, the mark of a parameter (the word behind it
is no keyword), and everything else. Texts, quoted names, bodies between dollar
tags and block comments are read as a whole; one that is not closed makes the
script unreadable.

At each place stands a blank, a number, a quoted name, an entry of the lexicon, a
punctuation character, or a word, whichever of these comes first.

A command word at the start of a statement takes all text up to the next
semicolon outside quotes and comments as one token, so no word in it opens or
closes a block.

The segments of a script, one after another, are the script.

Key definitions: `Token`, `Segment`, `Segment.text`, `readSegment`, `segments`.
-/
import TableGate.Error.Fault
import TableGate.Number.Read
import TableGate.Sql.Quotation

namespace TableGate
namespace Sql

/-- A token: its characters as they stand in the script, and what they spell
without quotes. -/
structure Token where
  kind : TokenKind
  text : List Char
  word : List Char
deriving DecidableEq, Repr

/-- A gap or a token. -/
inductive Segment where
  | gap (text : List Char)
  | token (t : Token)
deriving DecidableEq, Repr

/-- The characters of a segment as they stand in the script. -/
def Segment.text : Segment → List Char
  | .gap text => text
  | .token t => t.text

/-- The token takes the rest of its statement with it where a statement starts. -/
def Token.isCommand (l : Lexicon) (t : Token) : Bool :=
  t.kind == .command || (l.endsCommand && t.kind == .endWord)

/-- Why reading stopped, for quotes and comments without an end. -/
def unclosed {α : Type} : Except Fault α := .error (.refused .unreadableScript)

/-- A token that spells what stands in the script, with what follows it. -/
def bareToken (kind : TokenKind) (text rest : List Char) : Segment × List Char :=
  (.token ⟨kind, text, text⟩, rest)

/-! ### Quotes -/

/-- A quoted text or name whose `opening` is already read. -/
def quotedToken (opening close : List Char) : Quotation → Except Fault (Segment × List Char)
  | .closed inner rest => .ok (.token ⟨.other, opening ++ inner ++ close, inner⟩, rest)
  | _ => unclosed

/-- The value of a digit below `base`. -/
def digitBelow? (base : Nat) (c : Char) : Option Nat :=
  match (Text.digitValue? c).orElse fun _ => if c.toNat < 128 then Text.hexValue? c else none with
  | some n => if n < base then some n else none
  | none => none

/-- Digits with single underscores between them. -/
def isDigitRow (base : Nat) : List Char → Bool
  | [] => false
  | [c] => (digitBelow? base c).isSome
  | c :: '_' :: rest => (digitBelow? base c).isSome && isDigitRow base rest
  | c :: rest => (digitBelow? base c).isSome && isDigitRow base rest

/-- The text of a number to the base 2 or 16: a sign and a mark of the base may
stand in front. -/
def isNumeral (base : Nat) (s : String) : Bool :=
  let body := match Number.inner s with
    | '+' :: rest => rest
    | '-' :: rest => rest
    | rest => rest
  let isMark (c : Char) : Bool := if base = 2 then c == 'b' || c == 'B' else c == 'x' || c == 'X'
  match body with
  | '0' :: m :: '_' :: rest => if isMark m then isDigitRow base rest else isDigitRow base body
  | '0' :: m :: rest => if isMark m then isDigitRow base rest else isDigitRow base body
  | body => isDigitRow base body

/-- Digits to a base in quotes, whose `opening` is already read. -/
def digitsToken (base : Nat) (opening : List Char) : Quotation → Except Fault (Segment × List Char)
  | .closed inner rest =>
    if inner.isEmpty || isNumeral base (String.ofList inner) then
      quotedToken opening ['\''] (.closed inner rest)
    else unclosed
  | _ => unclosed

/-- A body between two copies of a tag in dollar signs, whose first dollar sign
is already read. If what follows is no tag and need not be one, the dollar sign
is the mark of a parameter; if the tag ends the script, the mark takes its first
character too. A dollar sign with nothing behind it is unreadable. -/
def taggedToken (l : Lexicon) (required : Bool) (rest : List Char) :
    Except Fault (Segment × List Char) :=
  match rest with
  | [] => unclosed
  | '$' :: body => between [] body
  | first :: after =>
    match readQuoted l l.escapes ['$'] rest with
    | .escapedEnd => unclosed
    | .unclosed => if required then unclosed else .ok (bareToken .parameter ['$'] rest)
    | .closed tag body =>
      if required then between tag body
      else if body.isEmpty then .ok (bareToken .parameter ['$', first] after)
      else if tag.all Text.isAnyDigit || tag.any Text.isBlank then
        .ok (bareToken .parameter ['$'] rest)
      else between tag body
where
  /-- The body up to the next copy of the tag. -/
  between (tag body : List Char) : Except Fault (Segment × List Char) :=
    let mark := '$' :: tag ++ ['$']
    quotedToken mark mark (readQuoted l l.escapes mark body)

/-! ### Numbers -/

/-- The characters of a number after its first digit: digits, a point unless one
was read or the number stands behind the mark of a parameter, and an exponent.
The state counts the parts of the exponent that are read. -/
def numberTail (l : Lexicon) (afterMark pointRead : Bool) (exponent : Nat) :
    List Char → List Char × List Char
  | [] => ([], [])
  | c :: cs =>
    let go (pointRead : Bool) (exponent : Nat) : List Char × List Char :=
      let r := numberTail l afterMark pointRead exponent cs
      (c :: r.1, r.2)
    if Text.isAsciiDigit c then go pointRead exponent
    else if c = '.' ∧ ¬ pointRead then if afterMark then ([], c :: cs) else go true exponent
    else if (c = '-' ∨ c = '+') ∧ exponent = 1 then
      if cs.head?.any Text.isAsciiDigit then go pointRead 2 else ([], c :: cs)
    else if (c = 'e' ∨ c = 'E') ∧ exponent = 0 then go pointRead 1
    else if c = '_' ∧ l.groupedNumbers then go pointRead exponent
    else ([], c :: cs)

/-- The characters that a name may begin with. -/
def startsName (c : Char) : Bool := c.isAlpha || c == '_' || c.toNat ≥ 128

/-- A number, or a name that begins like one. -/
def numberToken (l : Lexicon) (afterMark : Bool) (c : Char) (rest : List Char) :
    Segment × List Char :=
  let isInside (x : Char) : Bool := !Text.isBlank x && !l.isPunctuation x
  let name (front rest : List Char) : Segment × List Char :=
    bareToken .other (front ++ rest.takeWhile isInside) (rest.dropWhile isInside)
  let isBinary := c == '0' && rest.head?.any fun m => m == 'b' || m == 'B'
  let isHex := c == '0' && rest.head?.any fun m => m == 'x' || m == 'X'
  if isBinary && l.binaryNumbers || isHex && l.hexNumbers then name [c] rest
  else if isBinary || isHex then bareToken .other [c] rest
  else
    let r := numberTail l afterMark false 0 rest
    if l.digitNames && r.2.head?.any startsName then name (c :: r.1) r.2
    else bareToken .other (c :: r.1) r.2

/-! ### Segments -/

/-- Punctuation, or a word; `afterMark` tells that the mark of a parameter stands
before it. -/
def punctuationOrWord (l : Lexicon) (afterMark : Bool) (c : Char) (rest : List Char) :
    Segment × List Char :=
  if l.isPunctuation c then
    let kind := if c = ';' then .semicolon
      else if l.parameterMarks.contains c then .parameter else .other
    bareToken kind [c] rest
  else
    let word := c :: rest.takeWhile l.continuesWord
    bareToken (if afterMark then .other else l.wordKind word) word (rest.dropWhile l.continuesWord)

/-- A comment up to the end of its line, whose `opening` is already read. -/
def lineComment (opening rest : List Char) : Segment × List Char :=
  let isOnLine (c : Char) : Bool := c != '\n' && c != '\r'
  (.gap (opening ++ rest.takeWhile isOnLine), rest.dropWhile isOnLine)

/-- Reads the segment at the front; `afterMark` tells that the mark of a
parameter stands before it. -/
def readSegment (l : Lexicon) (afterMark : Bool) (c : Char) (rest : List Char) :
    Except Fault (Segment × List Char) :=
  if Text.isBlank c then .ok (.gap [c], rest)
  else if Text.isAsciiDigit c then .ok (numberToken l afterMark c rest)
  else match l.nameQuotes.lookup c with
    | some close =>
      quotedToken [c] [close] (readQuoted l (close :: l.nameEscapes) [close] rest)
    | none =>
      match l.entryAt? (c :: rest) with
      | none => .ok (punctuationOrWord l afterMark c rest)
      | some m =>
        match m.entry with
        | .quoted close escapes =>
          quotedToken m.text close.toList (readQuoted l escapes close.toList m.rest)
        | .digits base => digitsToken base m.text (readQuoted l l.escapes ['\''] m.rest)
        | .tag required => taggedToken l required m.rest
        | .comment none => .ok (lineComment m.text m.rest)
        | .comment (some close) =>
          match readComment? l.nested m.text close.toList true 0 0 m.rest with
          | some (text, rest) => .ok (.gap (m.text ++ text), rest)
          | none => unclosed
        | .symbol kind =>
          if m.text.any l.isPunctuation || l.endsBefore m.rest then
            .ok (bareToken kind m.text m.rest)
          else .ok (punctuationOrWord l afterMark c rest)

/-! ### Scripts -/

/-- The text that a command takes with it, up to a semicolon; `fuel` bounds the
number of segments. -/
def readCommandBody (l : Lexicon) : Nat → Bool → List Char →
    Except Fault (List Char × List Char)
  | 0, _, cs => .ok ([], cs)
  | _ + 1, _, [] => .ok ([], [])
  | fuel + 1, afterMark, c :: cs =>
    if c = ';' then .ok ([], c :: cs)
    else do
      let (s, rest) ← readSegment l afterMark c cs
      let afterMark := match s with
        | .gap _ => afterMark
        | .token t => t.kind == .parameter
      let (text, rest) ← readCommandBody l fuel afterMark rest
      pure (s.text ++ text, rest)

/-- A statement may start after a token of this kind, or where there is none. -/
def startsStatement : Option TokenKind → Bool
  | none | some .semicolon | some .beginWord => true
  | _ => false

/-- The segments of a script after a token of the kind `before`; `fuel` bounds
their number. -/
def segmentsFrom (l : Lexicon) : Nat → Option TokenKind → List Char →
    Except Fault (List Segment)
  | 0, _, _ => .ok []
  | _ + 1, _, [] => .ok []
  | fuel + 1, before, c :: cs => do
    let (s, rest) ← readSegment l (before == some .parameter) c cs
    match s with
    | .gap _ => pure (s :: (← segmentsFrom l fuel before rest))
    | .token t =>
      if t.isCommand l && startsStatement before then
        let (body, rest) ← readCommandBody l fuel false rest
        if (Text.trimChars body).isEmpty then
          pure (s :: .gap body :: (← segmentsFrom l fuel (some t.kind) rest))
        else
          let bodyToken : Token := ⟨.other, body, Text.trimChars body⟩
          pure (s :: .token bodyToken :: (← segmentsFrom l fuel (some .other) rest))
      else pure (s :: (← segmentsFrom l fuel (some t.kind) rest))

def segments (l : Lexicon) (script : List Char) : Except Fault (List Segment) :=
  segmentsFrom l (script.length + 1) none script

end Sql
end TableGate

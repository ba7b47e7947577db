/-
# Query strings

Every key that is not reserved is a condition on a column, whose value reads
`operator.operand`. A value without a dot, or whose text before the first dot is
no word of small letters, is an operand of equality; a word that is no operator
is refused. The reserved keys are `select`, `order`, `limit` and `offset`.

An operand is null, a boolean or a number if all of its text is one, else it is
the text.

Key definitions: `Query.readOperand`, `Query.readList`, `Query.readCondition`,
`Query.readSelect`, `Query.readOrder`, `Query.readPageBound`, `Query.read`,
`Query.ofValue`.
-/
import TableGate.Query.Filter

namespace TableGate
namespace Query

/-- The keys that shape the result instead of restricting the rows. -/
def reservedKeys : List String := ["select", "order", "limit", "offset"]

/-- The characters without one line feed at the end. -/
def dropLineFeed (cs : List Char) : List Char :=
  match cs.getLast? with
  | some '\n' => cs.dropLast
  | _ => cs

/-- The characters without a sign in front. -/
def dropSign : List Char → List Char
  | '+' :: cs => cs
  | '-' :: cs => cs
  | cs => cs

/-- One digit or more and nothing else. -/
def isDigits (cs : List Char) : Bool := !cs.isEmpty && cs.all Text.isDigit

/-- Nothing, or an exponent. -/
def isExponent : List Char → Bool
  | [] => true
  | c :: cs => (c == 'e' || c == 'E') && isDigits (dropSign cs)

/-- An optional sign and digits; a line feed may follow. -/
def isIntegerText (cs : List Char) : Bool := isDigits (dropSign (dropLineFeed cs))

/-- An optional sign, digits with an optional point before, between or after
them, and an optional exponent; a line feed may follow. -/
def isNumberText (cs : List Char) : Bool :=
  let body := dropSign (dropLineFeed cs)
  let whole := body.takeWhile Text.isDigit
  let rest := body.dropWhile Text.isDigit
  match rest with
  | '.' :: fraction =>
    (!whole.isEmpty || fraction.head?.any Text.isDigit) &&
      isExponent (fraction.dropWhile Text.isDigit)
  | rest => !whole.isEmpty && isExponent rest

/-- Reads an operand: null, a boolean, a number, or the text itself. An integer
too long to be read is a fault. -/
def readOperand (s : String) : Except Fault Value :=
  if s = "null" then .ok .null
  else if s = "true" then .ok (.bool true)
  else if s = "false" then .ok (.bool false)
  else if isNumberText s.toList then
    if isIntegerText s.toList then
      match Number.readInt? s with
      | some n => .ok (.int n)
      | none => .error (.refused .unreadable)
    else .ok (.float ((Number.readDouble? s).getD .nan))
  else .ok (.text s)

/-- Reads an operand that may already be a value. -/
def readOperandValue : Value → Except Fault Value
  | .text s => readOperand s
  | v => .ok v

/-- The text without the parentheses around it, if it has both. -/
def dropParentheses (s : String) : String :=
  match s.toList with
  | '(' :: rest =>
    match rest.getLast? with
    | some ')' => String.ofList rest.dropLast
    | _ => s
  | _ => s

/-- Reads the operands of `in`: between commas, in parentheses or not. -/
def readList (s : String) : Except Fault (List Value) :=
  let inner := dropParentheses (Text.trim s)
  if (Text.trim inner).isEmpty then .ok []
  else (Text.splitAt ',' inner).mapM fun item => readOperand (Text.trim item)

/-- One small letter of ASCII or more and nothing else; a line feed may
follow. -/
def isOperatorText (s : String) : Bool :=
  let cs := dropLineFeed s.toList
  !cs.isEmpty && cs.all fun c => 'a' ≤ c && c ≤ 'z'

/-- Reads a condition from its text. -/
def readConditionText (column text : String) : Except Fault Condition :=
  match Text.cutFirst? '.' text with
  | none => do pure ⟨column, "eq", ← readOperand text⟩
  | some (word, operand) =>
    if !isOperatorText word then do pure ⟨column, "eq", ← readOperand text⟩
    else match Operator.ofWord? word with
      | none => .error (Operator.unsupported word)
      | some .isIn => do pure ⟨column, "in", .list (← readList operand)⟩
      | some .is =>
        if operand = notNullWord then .ok ⟨column, "is", .text notNullWord⟩
        else do pure ⟨column, "is", ← readOperand operand⟩
      | some _ => do pure ⟨column, word, ← readOperand operand⟩

/-- Reads a condition; a list of values stands for one of them. -/
def readCondition (column : String) : Value → Except Fault Condition
  | .list items | .tuple items => do pure ⟨column, "in", .list (← items.mapM readOperandValue)⟩
  | v => readConditionText column v.shown

/-- Reads the columns to pick; none, or just a star, picks all. -/
def readSelect (s : String) : Option (List String) :=
  let columns := ((Text.splitAt ',' s).map Text.trim).filter fun c => !c.isEmpty
  if columns.isEmpty || columns == ["*"] then none else some columns

/-- Reads one order term, if there is one; `order` is the whole text. -/
def readOrderTerm (order item : String) : Except Fault (Option OrderTerm) :=
  if item.isEmpty then .ok none
  else match Text.cutLast? '.' item with
    | none => .ok (some ⟨item, false⟩)
    | some (column, word) =>
      let direction := Text.lower word
      if direction = "asc" then .ok (some ⟨column, false⟩)
      else if direction = "desc" then .ok (some ⟨column, true⟩)
      else .error (.api (.validation (.orderDirection direction column order)))

/-- Reads the columns to sort by. -/
def readOrder (s : String) : Except Fault (List OrderTerm) := do
  let terms ← (Text.splitAt ',' s).mapM fun item => readOrderTerm s (Text.trim item)
  pure (terms.filterMap id)

/-- Reads a limit or an offset. -/
def readPageBound (name : String) (v : Value) : Except Fault Int :=
  let text := Text.trim v.shown
  let rejected : Except Fault Int := .error (.api (.validation (.pageBound name v.shown)))
  if !isIntegerText text.toList then rejected
  else match Number.readInt? text with
    | none => .error (.refused .unreadable)
    | some n => if n < 0 then rejected else .ok n

/-- Takes one pair of a query string in. -/
def readPair (filter : Filter) (pair : String × Value) : Except Fault Filter :=
  if pair.1 = "select" then .ok { filter with select := readSelect pair.2.shown }
  else if pair.1 = "order" then do pure { filter with order := ← readOrder pair.2.shown }
  else if pair.1 = "limit" then do
    pure { filter with limit := some (← readPageBound "limit" pair.2) }
  else if pair.1 = "offset" then do
    pure { filter with offset := some (← readPageBound "offset" pair.2) }
  else do
    pure { filter with conditions := filter.conditions ++ [← readCondition pair.1 pair.2] }

/-- Reads the pairs of a query string, in order; a later reserved key replaces
an earlier one. -/
def read (pairs : List (String × Value)) : Except Fault Filter := pairs.foldlM readPair {}

/-- Reads a pair out of a value: two items, two characters or two keys. -/
def pairOf : Value → Except Fault (String × Value)
  | .list [k, v] | .tuple [k, v] => .ok (k.shown, v)
  | .mapping [(k, _), (v, _)] => .ok (k, .text v)
  | .text s =>
    match s.toList with
    | [k, v] => .ok (String.singleton k, .text (String.singleton v))
    | _ => .error (.refused .unreadable)
  | .list _ | .tuple _ | .mapping _ => .error (.refused .unreadable)
  | _ => .error .wrongType

/-- Reads a query given as a mapping or as a list of pairs, in order. -/
def ofValue : Value → Except Fault Filter
  | .mapping pairs => read pairs
  | .list items | .tuple items => items.foldlM (fun f item => do readPair f (← pairOf item)) {}
  | _ => .error .wrongType

end Query
end TableGate

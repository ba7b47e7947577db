/-
# Time stamps

A moment that stands in a text or is counted by a number.

In a text stand the day, one of four separators, and hours and minutes; seconds
with a fraction may follow, and an offset from universal time. A fraction is cut
to six digits. A day alone is its midnight.

A number counts the seconds from the start of 1970 in universal time. One whose
size is more than twenty thousand million counts milliseconds.

Key definitions: `Stamp.ofText?`, `Stamp.ofCount?`, `Stamp.ofDouble?`.
-/
import TableGate.Calendar.Iso
import TableGate.Number.Read

namespace TableGate
namespace Stamp

/-! ### Text -/

/-- Reads two digits behind a separator. -/
def readAfter? (separator : Char) : List Char → Option (Nat × List Char)
  | [] => none
  | c :: cs => if c = separator then Iso.readDigits 0 2 cs else none

def readDay? (cs : List Char) : Option (CalendarDate × List Char) := do
  let (year, cs) ← Iso.readDigits 0 4 cs
  let (month, cs) ← readAfter? '-' cs
  let (day, cs) ← readAfter? '-' cs
  if CalendarDate.isValid ⟨year, month, day⟩ then some (⟨year, month, day⟩, cs) else none

/-- Reads the microseconds of a fraction whose point is already read. -/
def readFraction? (cs : List Char) : Option (Nat × List Char) :=
  let digits := cs.takeWhile Text.isAsciiDigit
  if digits.isEmpty then none
  else do
    let (microsecond, _) ← Iso.readDigits 0 6 (digits ++ List.replicate 6 '0')
    some (microsecond, cs.dropWhile Text.isAsciiDigit)

/-- Reads seconds and microseconds, where there are any. -/
def readSeconds? (cs : List Char) : Option (Nat × Nat × List Char) :=
  if cs.head? = some ':' then do
    let (second, cs) ← readAfter? ':' cs
    match cs with
    | [] => some (second, 0, [])
    | c :: rest =>
      if c = '.' ∨ c = ',' then do
        let (microsecond, rest) ← readFraction? rest
        some (second, microsecond, rest)
      else some (second, 0, cs)
  else some (0, 0, cs)

/-- Reads the offset that ends a text, if there is one. -/
def readOffset? : List Char → Option (Option Offset)
  | [] => some none
  | c :: cs =>
    if c = 'Z' ∨ c = 'z' then if cs.isEmpty then some (some ⟨0⟩) else none
    else if c = '+' ∨ c = '-' ∨ c = '−' then do
      let (hours, cs) ← Iso.readDigits 0 2 cs
      let (minutes, cs) ← Iso.readDigits 0 2 (if cs.head? = some ':' then cs.tail else cs)
      let size : Int := (hours * 60 + minutes) * 60000000
      if hours < 24 ∧ minutes < 60 ∧ cs.isEmpty then
        some (some ⟨if c = '+' then size else -size⟩)
      else none
    else none

/-- Reads a time of day to the end of the text. -/
def readTime? (cs : List Char) : Option ClockTime := do
  let (hour, cs) ← Iso.readDigits 0 2 cs
  let (minute, cs) ← readAfter? ':' cs
  let (second, microsecond, cs) ← readSeconds? cs
  let offset ← readOffset? cs
  if hour < 24 ∧ minute < 60 ∧ second < 60 then
    some ⟨hour, minute, second, microsecond, offset⟩
  else none

/-- Reads a day with a time of day, or a day alone. -/
def readMoment? (cs : List Char) : Option DateTime := do
  let (day, cs) ← readDay? cs
  match cs with
  | [] => some ⟨day, ⟨0, 0, 0, 0, none⟩⟩
  | separator :: cs =>
    if "Tt _".toList.contains separator then do some ⟨day, ← readTime? cs⟩ else none

/-! ### Numbers -/

/-- The number of the first of January 1970. -/
def epoch : Nat := CalendarDate.ordinal ⟨1970, 1, 1⟩

/-- The moment so many seconds and microseconds from the start of 1970. -/
def ofSeconds? (seconds : Int) (microsecond : Nat) : Option DateTime :=
  let day := seconds / 86400 + epoch
  let second := (seconds % 86400).toNat
  if 1 ≤ day ∧ day ≤ CalendarDate.ordinal ⟨9999, 12, 31⟩ then
    some ⟨.ofOrdinal day.toNat,
      ⟨second / 3600, second / 60 % 60, second % 60, microsecond, some ⟨0⟩⟩⟩
  else none

/-- The largest size of a number that counts seconds. -/
def largestSeconds : Nat := 20000000000

/-- The moment that a count of seconds or milliseconds stands for, so many
microseconds later. -/
def ofCount? (count : Int) (microsecond : Nat) : Option DateTime :=
  let isSeconds := count.natAbs ≤ largestSeconds
  let seconds := if isSeconds then count else count / 1000
  let total := microsecond + if isSeconds then 0 else (count % 1000).toNat * 1000
  ofSeconds? (seconds + (total / 1000000 : Nat)) (total % 1000000)

/-- The moment that `num / den` stands for, a count and the part of a second
that it is later, to the nearest microsecond. -/
def ofQuotient? (num : Int) (den : Nat) : Option DateTime :=
  let later := (num % (den : Int)).toNat
  ofCount? (num / (den : Int)) ((later * 2000000 + den) / (2 * den))

/-- A size with the sign of a number. -/
def signed (x : Double) (size : Nat) : Int := if x.isNegative then -(size : Int) else size

/-- The moment that a number stands for. Its fraction is one of a second also
where the number counts milliseconds. -/
def ofDouble? (x : Double) : Option DateTime :=
  if x.isFinite then ofQuotient? (signed x x.quotient.1) x.quotient.2 else none

/-- The moment that the text of a number with a point stands for. Milliseconds
are made seconds first, so that the fraction is one of a millisecond. -/
def ofPointed? (x : Double) : Option DateTime :=
  if x.isFinite then
    let (num, den) := x.quotient
    if num > largestSeconds * den then
      let seconds := Double.ofQuotient false num (den * 1000)
      ofQuotient? (signed x seconds.quotient.1) seconds.quotient.2
    else ofQuotient? (signed x num) den
  else none

/-- The moment that the text of a number stands for. -/
def readNumber? (cs : List Char) : Option DateTime :=
  let body := if cs.head? = some '-' ∨ cs.head? = some '+' then cs.tail else cs
  let digits := body.takeWhile Text.isAsciiDigit
  if digits.isEmpty ∨ digits.length > 19 then none
  else match body.drop digits.length with
    | [] => do
      let (n, _) ← Iso.readDigits 0 digits.length digits
      ofCount? (if cs.head? = some '-' then -(n : Int) else n) 0
    | '.' :: _ =>
      if cs.all fun c => Text.isAsciiDigit c || "+-.eE".toList.contains c then
        (Number.readDouble? (String.ofList cs)).bind ofPointed?
      else none
    | _ => none

/-- The moment that a text stands for. -/
def ofText? (s : String) : Option DateTime :=
  (readMoment? s.toList).orElse fun _ => readNumber? s.toList

end Stamp
end TableGate

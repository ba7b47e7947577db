/-
# Dates and times read from text

The extended and the basic form, with a month and a day or with a week; between
day and time any one character; a fraction of any length, cut to six digits; an
offset of hours, minutes, seconds and a fraction, or `Z`. Only ASCII digits
count.

A time ends at the first sign or `Z`. Reading its parts may go on at a colon, at
the point or comma of the fraction, or without a separator; the reading of a
part looks at the text behind the end of the time as well, which is why a
trailing separator in front of an offset is let through.

Key definitions: `CalendarDate.read?`, `ClockTime.read?`, `DateTime.read?`.
-/
import TableGate.Calendar.Date
import TableGate.Text.Digit
import TableGate.Text.Utf8

namespace TableGate
namespace Iso

/-- The bytes of a text, each as one character: lengths and places are counted
in bytes. -/
def units (s : String) : List Char := (Text.encodeUtf8 s).map fun b => Char.ofNat b.toNat

/-- A byte that goes on with a character. -/
def isContinuation (c : Char) : Bool := 0x80 ≤ c.toNat && c.toNat < 0xC0

/-- Reads `width` digits after the value `n`. -/
def readDigits (n : Nat) : Nat → List Char → Option (Nat × List Char)
  | 0, cs => some (n, cs)
  | _ + 1, [] => none
  | width + 1, c :: cs =>
    if Text.isAsciiDigit c then readDigits (n * 10 + (c.toNat - 48)) width cs else none

/-- Reads a day of the first `length` characters. What follows a complete day
is not looked at. -/
def readDay? (length : Nat) (cs : List Char) : Option CalendarDate := do
  let (year, rest) ← readDigits 0 4 cs
  let separated := rest.head? = some '-'
  let rest := if separated then rest.drop 1 else rest
  if rest.head? = some 'W' then
    let (week, rest) ← readDigits 0 2 (rest.drop 1)
    if cs.length - rest.length < length then
      if separated ∧ rest.head? ≠ some '-' then none
      else
        let (day, _) ← readDigits 0 1 (if separated then rest.drop 1 else rest)
        CalendarDate.ofWeek? year week day
    else CalendarDate.ofWeek? year week 1
  else
    let (month, rest) ← readDigits 0 2 rest
    if separated ∧ rest.head? ≠ some '-' then none
    else
      let (day, _) ← readDigits 0 2 (if separated then rest.drop 1 else rest)
      some ⟨year, month, day⟩

/-- The parts of a time and whether text is left behind them. -/
structure Parts where
  hour : Nat := 0
  minute : Nat := 0
  second : Nat := 0
  microsecond : Nat := 0
  leftOver : Bool := false

/-- Sets the part with the given number. -/
def Parts.set (p : Parts) (index value : Nat) : Parts :=
  if index = 0 then { p with hour := value }
  else if index = 1 then { p with minute := value }
  else { p with second := value }

/-- Reads the fraction in the first `room` characters; digits after the sixth
are skipped. -/
def readFraction? (p : Parts) (room : Nat) (cs : List Char) : Option Parts := do
  let width := min room 6
  let (value, rest) ← readDigits 0 width cs
  some { p with
    microsecond := value * Nat.pow 10 (6 - width)
    leftOver := !(rest.dropWhile Text.isAsciiDigit).isEmpty }

/-- Reads the parts of a time from part `index` on. The time is the first `room`
characters; `colons` tells whether colons separate its parts. -/
def readParts? (p : Parts) (colons : Bool) : Nat → Nat → Nat → List Char → Option Parts
  | 0, _, room, cs => readFraction? p room cs
  | left + 1, index, room, cs => do
    let (value, rest) ← readDigits 0 2 cs
    let p := p.set index value
    let colons := if index = 0 then rest.head? = some ':' else colons
    if room ≤ 3 then some { p with leftOver := !rest.isEmpty }
    else match rest with
      | [] => some p
      | c :: after =>
        if colons ∧ c = ':' then readParts? p colons left (index + 1) (room - 3) after
        else if c = '.' ∨ c = ',' then readFraction? p (room - 3) after
        else if ¬ colons then readParts? p colons left (index + 1) (room - 2) rest
        else none

/-- The characters up to the first sign or `Z`. -/
def beforeOffset (cs : List Char) : List Char :=
  cs.takeWhile fun c => c != '+' && c != '-' && c != 'Z'

/-- The offset that parts stand for; a day or more is none, and less than a
second is universal time. -/
def offsetOf? (negative : Bool) (p : Parts) : Option Offset :=
  let seconds := p.hour * 3600 + p.minute * 60 + p.second
  let size : Nat := seconds * 1000000 + p.microsecond
  if seconds = 0 then some ⟨0⟩
  else if size ≥ 86400000000 then none
  else some ⟨if negative then -(size : Int) else size⟩

/-- A time of day from its parts, if they are in range. -/
def clockTime? (p : Parts) (offset : Option Offset) : Option ClockTime :=
  if p.hour < 24 ∧ p.minute < 60 ∧ p.second < 60 then
    some ⟨p.hour, p.minute, p.second, p.microsecond, offset⟩
  else none

/-- Reads a time of day and its offset. -/
def readTime? (cs : List Char) : Option ClockTime := do
  let room := (beforeOffset cs).length
  let p ← readParts? {} true 3 0 room cs
  match cs.drop room with
  | [] => if p.leftOver then none else clockTime? p none
  | 'Z' :: rest => if rest.isEmpty then clockTime? p (some ⟨0⟩) else none
  | sign :: rest =>
    let q ← readParts? {} true 3 0 rest.length rest
    if q.leftOver then none
    else
      let offset ← offsetOf? (sign = '-') q
      clockTime? p (some offset)

/-- Where the day ends and the separator of the time stands. -/
def separatorAt (cs : List Char) : Nat :=
  let at? (i : Nat) : Option Char := cs[i]?
  let isDigitAt (i : Nat) : Bool := (at? i).any Text.isAsciiDigit
  if cs.length = 7 then 7
  else if at? 4 = some '-' then
    if at? 5 = some 'W' then
      if cs.length > 8 ∧ at? 8 = some '-' then
        if cs.length > 10 ∧ isDigitAt 10 then 8 else 10
      else 8
    else 10
  else if at? 4 = some 'W' then
    let stop := 7 + ((cs.drop 7).takeWhile Text.isAsciiDigit).length
    if stop < 9 then stop else if stop % 2 = 0 then 7 else 8
  else 8

end Iso

def CalendarDate.read? (s : String) : Option CalendarDate := do
  let cs := Iso.units s
  if cs.length = 7 ∨ cs.length = 8 ∨ cs.length = 10 then
    let d ← Iso.readDay? cs.length cs
    if d.isValid then some d else none
  else none

/-- Reads a time of day, which may follow a `T`. -/
def ClockTime.read? (s : String) : Option ClockTime :=
  match Iso.units s with
  | 'T' :: cs => Iso.readTime? cs
  | cs => Iso.readTime? cs

/-- Reads a day and a time of day; without a time it is midnight. -/
def DateTime.read? (s : String) : Option DateTime := do
  let cs := Iso.units s
  if cs.length < 7 then none
  else
    let stop := Iso.separatorAt cs
    let d ← Iso.readDay? stop cs
    let rest := cs.drop stop
    let t ← match rest with
      | [] => some ⟨0, 0, 0, 0, none⟩
      | _ :: after => Iso.readTime? (after.dropWhile Iso.isContinuation)
    if d.isValid then some ⟨d, t⟩ else none

end TableGate

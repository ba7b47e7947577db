/-
# Values as numbers and in order

The integer that a value stands for where one is needed, the order of values
that can be ordered, and when two values count as the same key.

Key definitions: `Value.toInt`, `Value.compare?`, `Value.isSameKey`,
`Value.sortBy?`.
-/
import TableGate.Error.Fault

namespace TableGate
namespace Value

/-- The integer that a value stands for: fractions are cut off, texts are read.
A number that is not finite, and a value of another kind, is a fault. -/
def toInt : Value → Except Fault Int
  | .bool b => .ok (if b then 1 else 0)
  | .int n => .ok n
  | .float x =>
    match x.truncate? with
    | some n => .ok n
    | none => .error (if x.isNaN then .refused .unreadable else .overflow)
  | .decimal d =>
    match d.truncate? with
    | some n => .ok n
    | none =>
      .error (match d with
        | .infinite _ => .overflow
        | _ => .refused .unreadable)
  | .text s =>
    match Number.readInt? s with
    | some n => .ok n
    | none => .error (.refused .unreadable)
  | .bytes bs =>
    match (Text.decodeUtf8? bs).bind Number.readInt? with
    | some n => .ok n
    | none => .error (.refused .unreadable)
  | .uuid s => .ok (uuidNumber s)
  | _ => .error .wrongType

/-- A number as a coefficient and a power of ten or two. -/
structure Scaled where
  coefficient : Int
  twos : Int
  tens : Int

/-- The number that a value is, if it is a finite one. -/
def scaled? : Value → Option Scaled
  | .bool b => some ⟨if b then 1 else 0, 0, 0⟩
  | .int n => some ⟨n, 0, 0⟩
  | .float x =>
    if x.isFinite then
      some ⟨if x.isNegative then -(x.mantissa : Int) else x.mantissa, x.exponent, 0⟩
    else none
  | .decimal (.finite negative coefficient exponent) =>
    some ⟨if negative then -(coefficient : Int) else coefficient, 0, exponent⟩
  | _ => none

/-- The order of two finite numbers, by cross-multiplication. -/
def Scaled.compare (a b : Scaled) : Ordering :=
  let up (x y : Scaled) : Int :=
    x.coefficient * Nat.pow 2 (x.twos.toNat + (-y.twos).toNat) *
      Nat.pow 10 (x.tens.toNat + (-y.tens).toNat)
  Ord.compare (up a b) (up b a)

/-- The order of two values, if they can be ordered: numbers with numbers, texts
by code points. -/
def compare? : Value → Value → Option Ordering
  | .text s, .text t => some (Ord.compare s t)
  | .bytes s, .bytes t => some (Ord.compare (s.map UInt8.toNat) (t.map UInt8.toNat))
  | a, b =>
    match a.scaled?, b.scaled? with
    | some x, some y => some (x.compare y)
    | _, _ => none

/-- The value can be a key: it does not change. -/
def isKey : Value → Bool
  | .list _ | .mapping _ => false
  | _ => true

/-- Two values count as the same key. -/
def isSameKey (a b : Value) : Bool :=
  match a, b with
  | .null, .null => true
  | a, b => a.compare? b == some .eq

/-- Every value can be ordered with the first one, and that one with itself. -/
def areOrdered : List Value → Bool
  | [] | [_] => true
  | v :: vs => vs.all fun w => (v.compare? w).isSome

/-- Items in the order of a key, equal keys in the order in which they came;
keys that cannot be ordered are a fault. -/
def sortBy? {α : Type} (key : α → Value) (items : List α) : Except Fault (List α) :=
  if areOrdered (items.map key) then
    .ok (items.mergeSort fun a b => (key a).compare? (key b) != some .gt)
  else .error .wrongType

end Value
end TableGate

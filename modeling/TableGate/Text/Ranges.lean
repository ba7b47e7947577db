/-
# Ranges of code points

A property of characters is written down as a list of closed ranges of code
points, ascending and apart; `inRanges` looks one up.

Key definitions: `Text.inRanges`, `Text.Run`, `Text.Run.find?`.
-/
namespace TableGate
namespace Text

/-- The code point `n` lies in one of the closed ranges. -/
def inRanges (ranges : List (Nat × Nat)) (n : Nat) : Bool :=
  ranges.any fun r => r.1 ≤ n && n ≤ r.2

/-- A run of code points `first`, `first + step`, …, `last`, each sent to
itself plus `shift`. -/
structure Run where
  first : Nat
  last : Nat
  step : Nat
  shift : Int

/-- The image of `n` under the first run that holds it. -/
def Run.find? : List Run → Nat → Option Nat
  | [], _ => none
  | r :: rs, n =>
    if r.first ≤ n ∧ n ≤ r.last ∧ (n - r.first) % r.step = 0 then some (n + r.shift).toNat
    else Run.find? rs n

end Text
end TableGate

import SqlComposer.Number.Binary

/-!
The shortest decimal that reads back as a given binary word. The numbers that round to a word
form an interval around it. On the grid of decimals with a fixed count of digits only the two
neighbours of the word need a look: if the interval holds any point of the grid, it holds one of
them.
-/

namespace SqlComposer

structure Decimal where
  digits : Nat
  exponent : Int
deriving DecidableEq, Repr

/-- Which decimal is taken where a word lies exactly between two shortest ones: the larger one, or
the one whose last digit is even. -/
inductive Tie where
  | away
  | even
deriving DecidableEq, Repr

namespace Decimal

def strip (digits : Nat) (exponent : Int) : Decimal :=
  if zeros : digits ≠ 0 ∧ digits % 10 = 0 then strip (digits / 10) (exponent + 1)
  else ⟨digits, exponent⟩
termination_by digits
decreasing_by omega

def order (numerator denominator : Nat) : Int :=
  if denominator ≤ numerator then
    ((Nat.toDigits 10 (numerator / denominator)).length : Int) - 1
  else
    let places := (Nat.toDigits 10 (denominator / numerator)).length
    if denominator ≤ numerator * 10 ^ (places - 1) then 1 - (places : Int) else -(places : Int)

/-- The interval of numbers that round to a word, in quarters of its last place. -/
structure Interval where
  low : Nat
  middle : Nat
  high : Nat
  closed : Bool

/-- A word at the foot of a binade is twice as near to the word below as to the one above. -/
def Interval.ofBinary {format : Format} (x : Binary format) : Interval where
  low := 4 * x.significand - (if x.fractionField = 0 ∧ 1 < x.exponentField then 1 else 2)
  middle := 4 * x.significand
  high := 4 * x.significand + 2
  closed := x.significand % 2 == 0

def Interval.holds (interval : Interval) (unit point : Nat) : Bool :=
  if interval.closed then decide (interval.low * unit ≤ point ∧ point ≤ interval.high * unit)
  else decide (interval.low * unit < point ∧ point < interval.high * unit)

def Interval.gridPoint? (tie : Tie) (interval : Interval) (unit step : Nat) : Option Nat :=
  let below := interval.middle * unit / step
  let above := below + 1
  match interval.holds unit (below * step), interval.holds unit (above * step) with
  | false, false => none
  | true, false => some below
  | false, true => some above
  | true, true =>
    let twice := 2 * (interval.middle * unit)
    let half := (below + above) * step
    if twice < half then some below
    else if half < twice then some above
    else match tie with
      | .away => some above
      | .even => some (below + below % 2)

def search (tie : Tie) (interval : Interval) (scale order : Int) : Nat → Nat → Decimal
  | count, fuel =>
    let exponent := order + 1 - (count : Int)
    let unit := 2 ^ (scale - 2).toNat * 10 ^ (-exponent).toNat
    let step := 2 ^ (2 - scale).toNat * 10 ^ exponent.toNat
    match interval.gridPoint? tie unit step, fuel with
    | some digits, _ => strip digits exponent
    | none, 0 => strip (interval.middle * unit / step) exponent
    | none, fuel + 1 => search tie interval scale order (count + 1) fuel

/-- The decimal of fewest digits that rounds to a finite word, and of those the nearest. -/
def shortest {format : Format} (tie : Tie) (x : Binary format) : Decimal :=
  if x.isZero then ⟨0, 0⟩
  else
    search tie (Interval.ofBinary x) x.scale (order x.numerator x.denominator) 1
      (format.fractionBits + 2)

end Decimal

end SqlComposer

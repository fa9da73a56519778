import SqlComposer.Number.Power

/-!
Binary floating-point words of any width: their fields, the exact value they stand for, and the
nearest word to a quotient of natural numbers.
-/

namespace SqlComposer

/-- A word has a sign bit, then exponent bits, then fraction bits. -/
structure Format where
  fractionBits : Nat
  exponentBits : Nat
deriving DecidableEq, Repr

namespace Format

def double : Format := ⟨52, 11⟩

def single : Format := ⟨23, 8⟩

def width (format : Format) : Nat :=
  1 + format.exponentBits + format.fractionBits

def lastExponent (format : Format) : Nat :=
  2 ^ format.exponentBits - 1

def bias (format : Format) : Nat :=
  2 ^ (format.exponentBits - 1) - 1

def leastScale (format : Format) : Int :=
  1 - (format.bias : Int) - (format.fractionBits : Int)

end Format

structure Binary (format : Format) where
  bits : BitVec format.width
deriving DecidableEq, Repr

abbrev Binary64 := Binary .double

abbrev Binary32 := Binary .single

/-- The natural number nearest to a quotient; a half goes to the even neighbour. -/
def roundedQuotient (numerator denominator : Nat) : Nat :=
  let quotient := numerator / denominator
  let twice := 2 * (numerator % denominator)
  if twice < denominator then quotient
  else if denominator < twice then quotient + 1
  else quotient + quotient % 2

/-- The greatest `e` with `2 ^ e ≤ numerator / denominator`, both positive. -/
def binaryOrder (numerator denominator : Nat) : Int :=
  let estimate := (numerator.log2 : Int) - (denominator.log2 : Int)
  if denominator * 2 ^ estimate.toNat ≤ numerator * 2 ^ (-estimate).toNat then estimate
  else estimate - 1

namespace Binary

variable {format : Format}

def magnitude (x : Binary format) : Nat :=
  x.bits.toNat % 2 ^ (format.exponentBits + format.fractionBits)

def isNegative (x : Binary format) : Bool :=
  2 ^ (format.exponentBits + format.fractionBits) ≤ x.bits.toNat

def exponentField (x : Binary format) : Nat :=
  x.magnitude / 2 ^ format.fractionBits

def fractionField (x : Binary format) : Nat :=
  x.magnitude % 2 ^ format.fractionBits

def isFinite (x : Binary format) : Bool :=
  x.exponentField < format.lastExponent

def isNaN (x : Binary format) : Bool :=
  !x.isFinite && x.fractionField != 0

def isZero (x : Binary format) : Bool :=
  x.magnitude == 0

def significand (x : Binary format) : Nat :=
  if x.exponentField = 0 then x.fractionField
  else 2 ^ format.fractionBits + x.fractionField

def scale (x : Binary format) : Int :=
  format.leastScale + ((x.exponentField - 1 : Nat) : Int)

def ofMagnitude (negative : Bool) (magnitude : Nat) : Binary format :=
  ⟨BitVec.ofNat _
    ((if negative then 2 ^ (format.exponentBits + format.fractionBits) else 0) + magnitude)⟩

def zero (negative : Bool) : Binary format :=
  ofMagnitude negative 0

def infinity (negative : Bool) : Binary format :=
  ofMagnitude negative (format.lastExponent * 2 ^ format.fractionBits)

def nan : Binary format :=
  ofMagnitude false
    (format.lastExponent * 2 ^ format.fractionBits + 2 ^ (format.fractionBits - 1))

/--
The word nearest to a quotient with a positive denominator: ties go to the even significand and
what is too large becomes infinite. Counting words upward from zero, a significand `m` at scale
`q` is `m` words above the first word of that scale, which also covers a carry out of `m`.
-/
def ofQuotient (negative : Bool) (numerator denominator : Nat) : Binary format :=
  if numerator = 0 then zero negative
  else
    let scale := max format.leastScale
      (binaryOrder numerator denominator - (format.fractionBits : Int))
    let rounded :=
      roundedQuotient (numerator * 2 ^ (-scale).toNat) (denominator * 2 ^ scale.toNat)
    let magnitude := (scale - format.leastScale).toNat * 2 ^ format.fractionBits + rounded
    ofMagnitude negative (min magnitude (format.lastExponent * 2 ^ format.fractionBits))

def ofInt (n : Int) : Binary format :=
  ofQuotient (decide (n < 0)) n.natAbs 1

def numerator (x : Binary format) : Nat :=
  x.significand * 2 ^ x.scale.toNat

def denominator (x : Binary format) : Nat :=
  2 ^ (-x.scale).toNat

def product (x y : Binary format) : Binary format :=
  ofQuotient (x.isNegative != y.isNegative) (x.numerator * y.numerator)
    (x.denominator * y.denominator)

def quotient (x y : Binary format) : Binary format :=
  ofQuotient (x.isNegative != y.isNegative) (x.numerator * y.denominator)
    (x.denominator * y.numerator)

def negate (x : Binary format) : Binary format :=
  ofMagnitude (!x.isNegative) x.magnitude

def convert {target : Format} (x : Binary format) : Binary target :=
  if x.isFinite then ofQuotient x.isNegative x.numerator x.denominator
  else if x.isNaN then nan
  else infinity x.isNegative

end Binary

end SqlComposer

import SqlComposer.Number.Binary

/-!
Reading a real number from text: an optional sign, then digits with an optional point and an
optional exponent, or one of the words `inf`, `infinity` and `nan` in any case.
-/

namespace SqlComposer

inductive RealFault where
  | empty
  | invalid
deriving DecidableEq, Repr

def RealFault.message : RealFault → String
  | .empty => "cannot parse float from empty string"
  | .invalid => "invalid float literal"

inductive RealNumeral where
  | finite (digits : Nat) (exponent : Int)
  | infinite
  | undefined
deriving DecidableEq, Repr

namespace RealNumeral

def readExponent? : List Char → Option Int
  | [] => some 0
  | mark :: rest =>
    if mark = 'e' ∨ mark = 'E' then
      let (negative, digits) := match rest with
        | '-' :: digits => (true, digits)
        | '+' :: digits => (false, digits)
        | digits => (false, digits)
      if digits ≠ [] ∧ digits.all Char.isDigit then
        let size := Nat.ofDigitChars 10 digits 0
        some (if negative then -(size : Int) else size)
      else none
    else none

def readDecimal? (text : List Char) : Option RealNumeral :=
  let whole := text.takeWhile Char.isDigit
  let (fraction, rest) := match text.dropWhile Char.isDigit with
    | '.' :: rest => (rest.takeWhile Char.isDigit, rest.dropWhile Char.isDigit)
    | rest => ([], rest)
  if whole = [] ∧ fraction = [] then none
  else
    (readExponent? rest).map fun exponent =>
      .finite (Nat.ofDigitChars 10 (whole ++ fraction) 0) (exponent - (fraction.length : Int))

def readWord? (text : List Char) : Option RealNumeral :=
  match String.ofList (text.map Char.toLower) with
  | "inf" | "infinity" => some .infinite
  | "nan" => some .undefined
  | _ => none

def read? (text : List Char) : Option RealNumeral :=
  (readDecimal? text).or (readWord? text)

/--
The nearest word to a numeral. Orders of magnitude beyond `2 ^ exponentBits` in either direction
are decided at once: ten to such a power is far outside the format.
-/
def toBinary {format : Format} (negative : Bool) : RealNumeral → Binary format
  | .undefined => .nan
  | .infinite => .infinity negative
  | .finite digits exponent =>
    let order := exponent + ((Nat.toDigits 10 digits).length : Int)
    let limit := ((2 ^ format.exponentBits : Nat) : Int)
    if digits = 0 ∨ order < -limit then .zero negative
    else if limit < order then .infinity negative
    else .ofQuotient negative (digits * 10 ^ exponent.toNat) (10 ^ (-exponent).toNat)

end RealNumeral

def Binary.read {format : Format} (text : List Char) : Except RealFault (Binary format) :=
  let (negative, unsigned) := match text with
    | '-' :: rest => (true, rest)
    | '+' :: rest => (false, rest)
    | rest => (false, rest)
  if text = [] then .error .empty
  else match RealNumeral.read? unsigned with
    | some numeral => .ok (numeral.toBinary negative)
    | none => .error .invalid

end SqlComposer

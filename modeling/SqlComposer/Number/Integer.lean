import SqlComposer.Number.Power

/-!
Integer types and reading an integer from text. A text is read from left to right: at each
character first whether it is a digit is looked at, then whether the number still fits.
-/

namespace SqlComposer

/-- The integer types a column can be read as; `size` is as wide as `uint64`. -/
inductive IntegerType where
  | int8 | int16 | int32 | int64
  | uint8 | uint16 | uint32 | uint64
  | size
deriving DecidableEq, Repr

namespace IntegerType

def name : IntegerType → String
  | .int8 => "i8"
  | .int16 => "i16"
  | .int32 => "i32"
  | .int64 => "i64"
  | .uint8 => "u8"
  | .uint16 => "u16"
  | .uint32 => "u32"
  | .uint64 => "u64"
  | .size => "usize"

def isSigned : IntegerType → Bool
  | .int8 | .int16 | .int32 | .int64 => true
  | _ => false

def width : IntegerType → Nat
  | .int8 | .uint8 => 8
  | .int16 | .uint16 => 16
  | .int32 | .uint32 => 32
  | .int64 | .uint64 | .size => 64

def least (type : IntegerType) : Int :=
  if type.isSigned then -(2 ^ (type.width - 1)) else 0

def greatest (type : IntegerType) : Int :=
  if type.isSigned then 2 ^ (type.width - 1) - 1 else 2 ^ type.width - 1

def holds (type : IntegerType) (n : Int) : Bool :=
  type.least ≤ n && n ≤ type.greatest

def widest (type : IntegerType) : IntegerType :=
  if type.isSigned then .int64 else .uint64

theorem holds_iff (type : IntegerType) (n : Int) :
    type.holds n = true ↔ type.least ≤ n ∧ n ≤ type.greatest := by
  simp [holds]

end IntegerType

inductive IntegerFault where
  | empty
  | invalidDigit
  | tooLarge
  | tooSmall
deriving DecidableEq, Repr

def IntegerFault.message : IntegerFault → String
  | .empty => "cannot parse integer from empty string"
  | .invalidDigit => "invalid digit found in string"
  | .tooLarge => "number too large to fit in target type"
  | .tooSmall => "number too small to fit in target type"

namespace IntegerType

def narrow (type : IntegerType) (n : Int) : Except IntegerFault Int :=
  if type.greatest < n then .error .tooLarge
  else if n < type.least then .error .tooSmall
  else .ok n

def readDigits (overflow : IntegerFault) (limit : Nat) :
    Nat → List Char → Except IntegerFault Nat
  | value, [] => .ok value
  | value, c :: rest =>
    if c.isDigit then
      let next := 10 * value + (c.toNat - '0'.toNat)
      if limit < next then .error overflow else readDigits overflow limit next rest
    else .error .invalidDigit

/-- Reads a whole text: an optional sign, then digits. Only signed types take a `-`. -/
def read (type : IntegerType) (text : List Char) : Except IntegerFault Int :=
  let readPositive (digits : List Char) : Except IntegerFault Int :=
    (readDigits .tooLarge type.greatest.toNat 0 digits).map fun value => (value : Int)
  match text with
  | [] => .error .empty
  | ['+'] => .error .invalidDigit
  | ['-'] => .error .invalidDigit
  | '+' :: digits => readPositive digits
  | '-' :: digits =>
    if type.isSigned then
      (readDigits .tooSmall (-type.least).toNat 0 digits).map fun value => -(value : Int)
    else .error .invalidDigit
  | digits => readPositive digits

end IntegerType

end SqlComposer

import SqlComposer.Number.Power

/-!
Lower-case hexadecimal text of numbers and bytes.
-/

namespace SqlComposer.Text

def hexByte (byte : UInt8) : List Char :=
  [Nat.digitChar (byte.toNat / 16), Nat.digitChar (byte.toNat % 16)]

def hexBytes (bytes : List UInt8) : List Char :=
  bytes.flatMap hexByte

/-- A number in exactly `count` hexadecimal digits, its higher digits dropped. -/
def hexPadded (count number : Nat) : List Char :=
  (List.range count).map fun place =>
    Nat.digitChar (number / 16 ^ (count - 1 - place) % 16)

def hexValue? (c : Char) : Option Nat :=
  if '0' ≤ c ∧ c ≤ '9' then some (c.toNat - '0'.toNat)
  else if 'a' ≤ c ∧ c ≤ 'f' then some (c.toNat - 'a'.toNat + 10)
  else if 'A' ≤ c ∧ c ≤ 'F' then some (c.toNat - 'A'.toNat + 10)
  else none

def hexNumber? (value : Nat) : List Char → Option Nat
  | [] => some value
  | c :: rest => do hexNumber? (16 * value + (← hexValue? c)) rest

def bytesOfHex? : List Char → Option (List UInt8)
  | [] => some []
  | [_] => none
  | high :: low :: rest => do
    let byte ← hexNumber? 0 [high, low]
    return UInt8.ofNat byte :: (← bytesOfHex? rest)

end SqlComposer.Text

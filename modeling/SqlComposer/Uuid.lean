import SqlComposer.Text.Hex

/-!
Universally unique identifiers and their canonical text: groups of 8, 4, 4, 4 and 12 hexadecimal
digits with dashes between them.
-/

namespace SqlComposer

structure Uuid where
  value : BitVec 128
deriving DecidableEq, Repr

namespace Uuid

def text (uuid : Uuid) : List Char :=
  let digits := Text.hexPadded 32 uuid.value.toNat
  digits.take 8 ++ '-' :: (digits.drop 8).take 4 ++ '-' :: (digits.drop 12).take 4 ++
    '-' :: (digits.drop 16).take 4 ++ '-' :: digits.drop 20

def ofText? (text : List Char) : Option Uuid :=
  let digits := text.filter (· != '-')
  let dashes := [8, 13, 18, 23].all fun place => text[place]? == some '-'
  if text.length = 36 ∧ dashes ∧ digits.length = 32 then
    (Text.hexNumber? 0 digits).map fun number => ⟨BitVec.ofNat 128 number⟩
  else none

end Uuid

end SqlComposer

import SqlComposer.Calendar.Date
import SqlComposer.Number.Power

/-!
Times of day without a time zone. A leap second is the second before it with more than
`10 ^ 9` nanoseconds; in text it is the sixtieth second.
-/

namespace SqlComposer

structure DateTime where
  date : Date
  hour : Nat
  minute : Nat
  second : Nat
  nanosecond : Nat
  hour_valid : hour < 24
  minute_valid : minute < 60
  second_valid : second < 60
  nanosecond_valid : nanosecond < 2 * 10 ^ 9
deriving DecidableEq, Repr

namespace DateTime

open Calendar

def ofNumbers? (date : Date) (hour minute second nanosecond : Nat) : Option DateTime :=
  if valid : hour < 24 ∧ minute < 60 ∧ second < 60 ∧ nanosecond < 2 * 10 ^ 9 then
    some ⟨date, hour, minute, second, nanosecond, valid.1, valid.2.1, valid.2.2.1, valid.2.2.2⟩
  else none

/-- The second as it is written, and the nanoseconds after it. -/
def writtenSecond (moment : DateTime) : Nat × Nat :=
  (moment.second + moment.nanosecond / 10 ^ 9, moment.nanosecond % 10 ^ 9)

def clockText (moment : DateTime) : List Char :=
  padded 2 moment.hour ++ ':' :: padded 2 moment.minute ++ ':' :: padded 2 moment.writtenSecond.1

/-- The fraction in the fewest groups of three digits that are exact. -/
def fractionText (moment : DateTime) : List Char :=
  let nanoseconds := moment.writtenSecond.2
  if nanoseconds = 0 then []
  else if nanoseconds % 10 ^ 6 = 0 then '.' :: padded 3 (nanoseconds / 10 ^ 6)
  else if nanoseconds % 10 ^ 3 = 0 then '.' :: padded 6 (nanoseconds / 10 ^ 3)
  else '.' :: padded 9 nanoseconds

def text (moment : DateTime) : List Char :=
  moment.date.text ++ 'T' :: moment.clockText ++ moment.fractionText

def millisecondText (moment : DateTime) : List Char :=
  moment.date.text ++ ' ' :: moment.clockText ++
    '.' :: padded 3 (moment.writtenSecond.2 / 10 ^ 6)

def subtractOffset (moment : DateTime) (offset : Int) : DateTime :=
  let seconds : Int :=
    (moment.hour * 3600 + moment.minute * 60 + moment.second : Nat) - offset
  let clock := (seconds % 86400).toNat
  have bound : clock < 86400 := by omega
  { date := moment.date.advance (seconds / 86400)
    hour := clock / 3600
    minute := clock / 60 % 60
    second := clock % 60
    nanosecond := moment.nanosecond
    hour_valid := by omega
    minute_valid := by omega
    second_valid := by omega
    nanosecond_valid := moment.nanosecond_valid }

end DateTime

end SqlComposer

/-!
Days of the proleptic Gregorian calendar and their text, year first.
-/

namespace SqlComposer.Calendar

def isLeapYear (year : Int) : Bool :=
  year % 4 == 0 && (year % 100 != 0 || year % 400 == 0)

def daysInMonth (year : Int) (month : Nat) : Nat :=
  match month with
  | 2 => if isLeapYear year then 29 else 28
  | 4 | 6 | 9 | 11 => 30
  | _ => 31

theorem daysInMonth_bounds (year : Int) (month : Nat) :
    28 ≤ daysInMonth year month ∧ daysInMonth year month ≤ 31 := by
  unfold daysInMonth
  split <;> (try split) <;> omega

def padded (places number : Nat) : List Char :=
  let digits := Nat.toDigits 10 number
  List.replicate (places - digits.length) '0' ++ digits

/-- A year that does not have four digits is written with its sign. -/
def yearText (year : Int) : List Char :=
  if 0 ≤ year ∧ year ≤ 9999 then padded 4 year.toNat
  else (if year < 0 then '-' else '+') :: padded 4 year.natAbs

end SqlComposer.Calendar

namespace SqlComposer

structure Date where
  year : Int
  month : Nat
  day : Nat
  month_valid : 1 ≤ month ∧ month ≤ 12
  day_valid : 1 ≤ day ∧ day ≤ Calendar.daysInMonth year month
deriving DecidableEq, Repr

namespace Date

open Calendar

def ofNumbers? (year : Int) (month day : Nat) : Option Date :=
  if valid : (1 ≤ month ∧ month ≤ 12) ∧ 1 ≤ day ∧ day ≤ daysInMonth year month then
    some ⟨year, month, day, valid.1, valid.2⟩
  else none

def text (date : Date) : List Char :=
  yearText date.year ++ '-' :: padded 2 date.month ++ '-' :: padded 2 date.day

def next (date : Date) : Date :=
  if inMonth : date.day < daysInMonth date.year date.month then
    ⟨date.year, date.month, date.day + 1, date.month_valid, by omega⟩
  else if inYear : date.month < 12 then
    ⟨date.year, date.month + 1, 1, by omega,
      by have := (daysInMonth_bounds date.year (date.month + 1)).1; omega⟩
  else
    ⟨date.year + 1, 1, 1, by omega,
      by have := (daysInMonth_bounds (date.year + 1) 1).1; omega⟩

def previous (date : Date) : Date :=
  if inMonth : 1 < date.day then
    ⟨date.year, date.month, date.day - 1, date.month_valid,
      by have := date.day_valid; omega⟩
  else if inYear : 1 < date.month then
    ⟨date.year, date.month - 1, daysInMonth date.year (date.month - 1),
      by have := date.month_valid; omega,
      by have := (daysInMonth_bounds date.year (date.month - 1)).1; omega⟩
  else
    ⟨date.year - 1, 12, 31, by omega, by simp [daysInMonth]⟩

def advance (date : Date) : Int → Date
  | .ofNat days => Nat.repeat next days date
  | .negSucc days => Nat.repeat previous (days + 1) date

end Date

end SqlComposer

import SqlComposer.Calendar.DateTime
import SqlComposer.Uuid

/-!
The texts that days, times and identifiers stand for in a statement, said by their parts.
-/

namespace SqlComposer

namespace Calendar

def decimal (places number : Nat) : List Char :=
  (Nat.toDigits 10 number).leftpad places '0'

def spelledYear : Int → List Char
  | .ofNat year => if year < 10000 then decimal 4 year else '+' :: decimal 4 year
  | .negSucc before => '-' :: decimal 4 (before + 1)

theorem yearText_eq (year : Int) : yearText year = spelledYear year := by
  cases year with
  | ofNat year =>
      by_cases small : year < 10000
      · have plain : 0 ≤ (Int.ofNat year) ∧ Int.ofNat year ≤ 9999 := by
          rw [Int.ofNat_eq_natCast]
          omega
        rw [yearText, if_pos plain, spelledYear, if_pos small]
        rfl
      · have signed : ¬ (0 ≤ (Int.ofNat year) ∧ Int.ofNat year ≤ 9999) := by
          rw [Int.ofNat_eq_natCast]
          omega
        rw [yearText, if_neg signed, spelledYear, if_neg small]
        rfl
  | negSucc before =>
      have signed : ¬ (0 ≤ Int.negSucc before ∧ Int.negSucc before ≤ 9999) := by omega
      rw [yearText, if_neg signed, if_pos (Int.negSucc_lt_zero before)]
      rfl

end Calendar

open Calendar

def Date.spelled (day : Date) : List Char :=
  ['-'].intercalate [spelledYear day.year, decimal 2 day.month, decimal 2 day.day]

theorem Date.text_eq_spelled (day : Date) : day.text = day.spelled := by
  rw [text, yearText_eq]
  simp [spelled, padded, decimal, List.leftpad]

/-- A leap second is the sixtieth. -/
def DateTime.spelled (moment : DateTime) : List Char :=
  let second := if moment.nanosecond < 10 ^ 9 then moment.second else moment.second + 1
  moment.date.spelled ++ [' '] ++
    [':'].intercalate [decimal 2 moment.hour, decimal 2 moment.minute, decimal 2 second] ++
    ['.'] ++ decimal 3 (moment.nanosecond / 10 ^ 6 % 1000)

theorem DateTime.writtenSecond_eq (moment : DateTime) : moment.writtenSecond.1 =
    if moment.nanosecond < 10 ^ 9 then moment.second else moment.second + 1 := by
  have valid := moment.nanosecond_valid
  rw [writtenSecond]
  split <;> omega

theorem DateTime.millisecondText_eq_spelled (moment : DateTime) :
    moment.millisecondText = moment.spelled := by
  have milliseconds : moment.writtenSecond.2 / 10 ^ 6 = moment.nanosecond / 10 ^ 6 % 1000 := by
    rw [writtenSecond]
    omega
  rw [millisecondText, clockText, milliseconds, writtenSecond_eq, Date.text_eq_spelled]
  simp [spelled, padded, decimal, List.leftpad]

def Uuid.digits (id : Uuid) (first count : Nat) : List Char :=
  (List.range' first count).map fun place =>
    Nat.digitChar (id.value.extractLsb' (4 * (31 - place)) 4).toNat

def Uuid.spelled (id : Uuid) : List Char :=
  ['-'].intercalate
    [id.digits 0 8, id.digits 8 4, id.digits 12 4, id.digits 16 4, id.digits 20 12]

theorem Uuid.hexPadded_eq_digits (id : Uuid) :
    Text.hexPadded 32 id.value.toNat = id.digits 0 32 := by
  rw [Text.hexPadded, digits, ← List.range_eq_range']
  apply List.map_congr_left
  intro place _
  rw [BitVec.extractLsb'_toNat, Nat.shiftRight_eq_div_pow, Nat.pow_mul]

theorem Uuid.text_eq_spelled (id : Uuid) : id.text = id.spelled := by
  rw [text, hexPadded_eq_digits]
  rfl

end SqlComposer

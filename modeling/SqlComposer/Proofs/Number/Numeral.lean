import SqlComposer.Number.Integer
import SqlComposer.Proofs.Outcome
import SqlComposer.Text.Blank

/-!
The texts that integers are read from: a type reads exactly the decimal numerals of the numbers
that it holds.
-/

namespace SqlComposer.IntegerType

variable {type : IntegerType} {overflow : IntegerFault}

theorem le_ofDigitChars (digits : List Char) (value : Nat) :
    value ≤ Nat.ofDigitChars 10 digits value := by
  induction digits generalizing value with
  | nil => exact Nat.le_refl value
  | cons c rest ih =>
      rw [Nat.ofDigitChars_cons]
      have later := ih (10 * value + (c.toNat - '0'.toNat))
      omega

theorem readDigits_eq_ok {limit value n : Nat} {digits : List Char} (within : value ≤ limit) :
    readDigits overflow limit value digits = .ok n ↔
      (∀ c ∈ digits, c.isDigit = true) ∧ Nat.ofDigitChars 10 digits value = n ∧ n ≤ limit := by
  induction digits generalizing value with
  | nil =>
      simp only [readDigits, Nat.ofDigitChars_nil, Except.ok.injEq]
      constructor
      · rintro rfl
        exact ⟨by simp, rfl, within⟩
      · rintro ⟨_, same, _⟩
        exact same
  | cons c rest ih =>
      rw [readDigits, Nat.ofDigitChars_cons]
      by_cases digit : c.isDigit = true
      · rw [if_pos digit]
        -- the number only grows, so what passes the limit early has passed it in the end
        by_cases fits : limit < 10 * value + (c.toNat - '0'.toNat)
        · have grown := le_ofDigitChars rest (10 * value + (c.toNat - '0'.toNat))
          simp only [fits, if_true, reduceCtorEq, false_iff]
          rintro ⟨_, same, bound⟩
          omega
        · simp only [fits, if_false]
          rw [ih (by omega)]
          simp [digit]
      · simp [digit]

theorem sign_readDigits_eq_ok (sign : Int → Int) {limit : Nat} {digits : List Char} {n : Int} :
    ((readDigits overflow limit 0 digits).map fun value => sign value) = .ok n ↔
      (∀ c ∈ digits, c.isDigit = true) ∧ Nat.ofDigitChars 10 digits 0 ≤ limit ∧
        sign (Nat.ofDigitChars 10 digits 0) = n := by
  rw [map_eq_ok]
  constructor
  · rintro ⟨_, found, rfl⟩
    obtain ⟨value, read, same⟩ := bind_eq_ok.mp found
    cases same
    obtain ⟨all, rfl, bound⟩ := (readDigits_eq_ok (Nat.zero_le limit)).mp read
    exact ⟨all, bound, rfl⟩
  · rintro ⟨all, bound, rfl⟩
    have read : readDigits overflow limit 0 digits = .ok (Nat.ofDigitChars 10 digits 0) :=
      (readDigits_eq_ok (Nat.zero_le limit)).mpr ⟨all, rfl, bound⟩
    exact ⟨_, bind_eq_ok.mpr ⟨_, read, rfl⟩, rfl⟩

theorem bounds (type : IntegerType) : type.least ≤ 0 ∧ 0 ≤ type.greatest := by
  cases type <;> decide

def readPositive (type : IntegerType) (digits : List Char) : Except IntegerFault Int :=
  (readDigits .tooLarge type.greatest.toNat 0 digits).map fun value => (value : Int)

def readNegative (type : IntegerType) (digits : List Char) : Except IntegerFault Int :=
  (readDigits .tooSmall (-type.least).toNat 0 digits).map fun value => -(value : Int)

theorem readPositive_eq_ok {digits : List Char} {n : Int} :
    type.readPositive digits = .ok n ↔
      (∀ c ∈ digits, c.isDigit = true) ∧ (Nat.ofDigitChars 10 digits 0 : Int) = n ∧
        type.holds n = true := by
  have range := type.bounds
  refine (sign_readDigits_eq_ok fun value => value).trans ?_
  rw [holds_iff]
  constructor
  · rintro ⟨all, bound, rfl⟩
    exact ⟨all, rfl, by omega, by omega⟩
  · rintro ⟨all, rfl, _, above⟩
    exact ⟨all, by omega, rfl⟩

theorem readNegative_eq_ok {digits : List Char} {n : Int} :
    type.readNegative digits = .ok n ↔
      (∀ c ∈ digits, c.isDigit = true) ∧ -(Nat.ofDigitChars 10 digits 0 : Int) = n ∧
        type.holds n = true := by
  have range := type.bounds
  refine (sign_readDigits_eq_ok fun value => -value).trans ?_
  rw [holds_iff]
  constructor
  · rintro ⟨all, bound, rfl⟩
    exact ⟨all, rfl, by omega, by omega⟩
  · rintro ⟨all, rfl, below, _⟩
    exact ⟨all, by omega, rfl⟩

/-- The text is a decimal numeral: digits, leading zeros among them or not, behind a sign or
not. Only a signed numeral may have a `-`. -/
inductive IsNumeral (signed : Bool) : List Char → Int → Prop where
  | plain {digits : List Char} : digits ≠ [] → (∀ c ∈ digits, c.isDigit = true) →
      IsNumeral signed digits (Nat.ofDigitChars 10 digits 0)
  | plus {digits : List Char} : digits ≠ [] → (∀ c ∈ digits, c.isDigit = true) →
      IsNumeral signed ('+' :: digits) (Nat.ofDigitChars 10 digits 0)
  | minus {digits : List Char} : signed = true → digits ≠ [] →
      (∀ c ∈ digits, c.isDigit = true) →
      IsNumeral signed ('-' :: digits) (-(Nat.ofDigitChars 10 digits 0))

theorem read_plus {digits : List Char} (nonempty : digits ≠ []) :
    type.read ('+' :: digits) = type.readPositive digits := by
  cases digits with
  | nil => exact absurd rfl nonempty
  | cons c rest => rfl

theorem read_minus {digits : List Char} (nonempty : digits ≠ []) :
    type.read ('-' :: digits) =
      if type.isSigned then type.readNegative digits else .error .invalidDigit := by
  cases digits with
  | nil => exact absurd rfl nonempty
  | cons c rest => rfl

theorem read_plain {c : Char} {rest : List Char} (plus : c ≠ '+') (minus : c ≠ '-') :
    type.read (c :: rest) = type.readPositive (c :: rest) := by
  simp [read, plus, minus, readPositive]

theorem not_sign_of_isDigit {c : Char} (digit : c.isDigit = true) : c ≠ '+' ∧ c ≠ '-' := by
  constructor
  · rintro rfl
    cases digit
  · rintro rfl
    cases digit

theorem read_eq_ok {text : List Char} {n : Int} :
    type.read text = .ok n ↔ IsNumeral type.isSigned text n ∧ type.holds n = true := by
  constructor
  · intro found
    match text with
    | [] => cases found
    | c :: rest =>
        by_cases plus : c = '+'
        · subst plus
          by_cases empty : rest = []
          · rw [empty] at found
            cases found
          · rw [read_plus empty, readPositive_eq_ok] at found
            obtain ⟨all, rfl, held⟩ := found
            exact ⟨.plus empty all, held⟩
        · by_cases minus : c = '-'
          · subst minus
            by_cases empty : rest = []
            · rw [empty] at found
              cases found
            · rw [read_minus empty] at found
              by_cases signed : type.isSigned = true
              · rw [if_pos signed, readNegative_eq_ok] at found
                obtain ⟨all, rfl, held⟩ := found
                exact ⟨.minus signed empty all, held⟩
              · rw [if_neg signed] at found
                cases found
          · rw [read_plain plus minus, readPositive_eq_ok] at found
            obtain ⟨all, rfl, held⟩ := found
            exact ⟨.plain (by simp) all, held⟩
  · rintro ⟨numeral, held⟩
    cases numeral with
    | plain nonempty all =>
        obtain ⟨c, rest, rfl⟩ := List.exists_cons_of_ne_nil nonempty
        obtain ⟨plus, minus⟩ := not_sign_of_isDigit (all c (by simp))
        rw [read_plain plus minus, readPositive_eq_ok]
        exact ⟨all, rfl, held⟩
    | plus nonempty all =>
        rw [read_plus nonempty, readPositive_eq_ok]
        exact ⟨all, rfl, held⟩
    | minus signed nonempty all =>
        rw [read_minus nonempty, if_pos signed, readNegative_eq_ok]
        exact ⟨all, rfl, held⟩

theorem isNumeral_repr {signed : Bool} {n : Int} (takes : signed = true ∨ 0 ≤ n) :
    IsNumeral signed n.repr.toList n := by
  have all : ∀ value, ∀ c ∈ Nat.toDigits 10 value, c.isDigit = true := fun _ _ member =>
    Nat.isDigit_of_mem_toDigits (by decide) (by decide) member
  rw [Int.repr_eq_if]
  split
  · rename_i positive
    have numeral : IsNumeral signed (Nat.toDigits 10 n.toNat) _ :=
      .plain Nat.toDigits_ne_nil (all n.toNat)
    rw [Nat.ofDigitChars_ten_toDigits, Int.toNat_of_nonneg positive] at numeral
    simpa using numeral
  · rename_i negative
    have numeral : IsNumeral signed ('-' :: Nat.toDigits 10 (-n).toNat) _ :=
      .minus (takes.resolve_right negative) Nat.toDigits_ne_nil (all (-n).toNat)
    rw [Nat.ofDigitChars_ten_toDigits, Int.toNat_of_nonneg (by omega), Int.neg_neg] at numeral
    simpa using numeral

theorem IsNumeral.unique {signed signed' : Bool} {text : List Char} {n m : Int}
    (first : IsNumeral signed text n) (second : IsNumeral signed' text m) : n = m := by
  cases first with
  | plain nonempty all =>
      cases second with
      | plain => rfl
      | plus => exact absurd rfl (not_sign_of_isDigit (all '+' (by simp))).1
      | minus => exact absurd rfl (not_sign_of_isDigit (all '-' (by simp))).2
  | plus nonempty all =>
      cases second with
      | plain _ all => exact absurd rfl (not_sign_of_isDigit (all '+' (by simp))).1
      | plus => rfl
  | minus signed nonempty all =>
      cases second with
      | plain _ all => exact absurd rfl (not_sign_of_isDigit (all '-' (by simp))).2
      | minus => rfl

namespace IsNumeral

variable {signed : Bool} {text : List Char} {n : Int}

theorem ne_nil (numeral : IsNumeral signed text n) : text ≠ [] := by
  cases numeral with
  | plain nonempty _ => exact nonempty
  | plus _ _ => simp
  | minus _ _ _ => simp

theorem not_isBlank_of_isDigit {c : Char} (digit : c.isDigit = true) :
    Text.isBlank c = false := by
  have bounds : 48 ≤ c.toNat ∧ c.toNat ≤ 57 := by
    simp only [Char.isDigit, Bool.and_eq_true, decide_eq_true_eq, ge_iff_le,
      UInt32.le_iff_toNat_le] at digit
    exact digit
  simp only [Text.isBlank, Bool.or_eq_false_iff, Bool.and_eq_false_iff, decide_eq_false_iff_not,
    beq_eq_false_iff_ne]
  omega

theorem not_isBlank (numeral : IsNumeral signed text n) :
    ∀ c ∈ text, Text.isBlank c = false := by
  have sign : Text.isBlank '+' = false ∧ Text.isBlank '-' = false := by decide
  cases numeral with
  | plain _ all => exact fun c member => not_isBlank_of_isDigit (all c member)
  | plus _ all =>
      rintro c (_ | ⟨_, member⟩)
      · exact sign.1
      · exact not_isBlank_of_isDigit (all c member)
  | minus _ _ all =>
      rintro c (_ | ⟨_, member⟩)
      · exact sign.2
      · exact not_isBlank_of_isDigit (all c member)

end IsNumeral

end SqlComposer.IntegerType

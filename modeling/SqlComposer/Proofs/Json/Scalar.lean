import SqlComposer.Json.Reading
import SqlComposer.Json.Writing
import SqlComposer.Proofs.Number.Numeral
import SqlComposer.Proofs.Reading.Quoted

/-!
The texts and the integers of a document: each is read back from the characters that it is
written as, up to where they end.
-/

namespace SqlComposer.Json

theorem hexNumber?_hexPadded {number : Nat} (small : number < 16 ^ 4) :
    Text.hexNumber? 0 (Text.hexPadded 4 number) = some number := by
  have digit : ∀ n, Text.hexValue? (Nat.digitChar (n % 16)) = some (n % 16) := fun n =>
    Text.hexValue?_digitChar (Nat.mod_lt n (by decide))
  simp only [Text.hexPadded, List.range_succ, List.range_zero, List.nil_append, List.map_cons,
    List.map_nil, List.cons_append, Text.hexNumber?, digit, Option.bind_eq_bind, Option.bind_some,
    Option.some.injEq]
  omega

theorem readUnicode_hexPadded {c : Char} (control : c.toNat < 0x20) (rest : List Char) :
    readUnicode (Text.hexPadded 4 c.toNat ++ rest) = .ok (c, rest) := by
  have number : Text.hexNumber? 0 (Text.hexPadded 4 c.toNat) = some c.toNat :=
    hexNumber?_hexPadded (by omega)
  have single : isTrailing c.toNat = false ∧ isLeading c.toNat = false := by
    simp only [isTrailing, isLeading, Bool.and_eq_false_iff, decide_eq_false_iff_not]
    omega
  have unit : readUnit (Text.hexPadded 4 c.toNat ++ rest) = .ok (c.toNat, rest) := by
    simp only [Text.hexPadded, List.range_succ, List.range_zero, List.nil_append, List.map_cons,
      List.map_nil, List.cons_append] at number ⊢
    simp only [readUnit, number]
  simp [readUnicode, unit, single, bind, Except.bind, pure, Except.pure]

theorem readTextWithin_writeChar (c : Char) {fuel : Nat} {text content rest : List Char}
    (others : readTextWithin fuel text = .ok (content, rest)) :
    readTextWithin (fuel + 1) (writeChar c ++ text) = .ok (c :: content, rest) := by
  unfold writeChar
  split
  case h_8 =>
    split
    · rename_i control
      have escaped := readUnicode_hexPadded control text
      simp [readTextWithin, readEscape, escaped, others, bind, Except.bind, pure, Except.pure]
    · rename_i visible
      simp [readTextWithin, visible, others, bind, Except.bind, pure, Except.pure]
  all_goals
    simp [readTextWithin, readEscape, others, bind, Except.bind, pure, Except.pure]

theorem readTextWithin_flatMap (content rest : List Char) {fuel : Nat}
    (enough : content.length < fuel) :
    readTextWithin fuel (content.flatMap writeChar ++ '"' :: rest) = .ok (content, rest) := by
  induction content generalizing fuel with
  | nil =>
      obtain ⟨fuel, rfl⟩ := Nat.exists_eq_succ_of_ne_zero (Nat.ne_of_gt enough)
      rfl
  | cons c content ih =>
      rw [List.length_cons] at enough
      obtain ⟨fuel, rfl⟩ := Nat.exists_eq_succ_of_ne_zero (Nat.ne_of_gt (Nat.zero_lt_of_lt enough))
      rw [List.flatMap_cons, List.append_assoc]
      exact readTextWithin_writeChar c (ih (by omega))

theorem writeChar_ne_nil (c : Char) : writeChar c ≠ [] := by
  unfold writeChar
  split
  case h_8 => split <;> simp
  all_goals simp

theorem length_le_length_flatMap_writeChar (content : List Char) :
    content.length ≤ (content.flatMap writeChar).length := by
  induction content with
  | nil => exact Nat.le_refl 0
  | cons c content ih =>
      have written := List.length_pos_iff.mpr (writeChar_ne_nil c)
      rw [List.flatMap_cons, List.length_append, List.length_cons]
      omega

theorem readText_write (s : String) (rest : List Char) :
    readText (s.toList.flatMap writeChar ++ '"' :: rest) = .ok (s, rest) := by
  have shorter := length_le_length_flatMap_writeChar s.toList
  have content : readTextWithin ((s.toList.flatMap writeChar ++ '"' :: rest).length + 1)
      (s.toList.flatMap writeChar ++ '"' :: rest) = .ok (s.toList, rest) :=
    readTextWithin_flatMap s.toList rest (by rw [List.length_append]; omega)
  simp only [readText, content, bind, Except.bind, pure, Except.pure, String.ofList_toList]

def EndsNumeral (rest : List Char) : Prop :=
  ∀ c, rest.head? = some c → c.isDigit = false ∧ c ≠ '.' ∧ c ≠ 'e' ∧ c ≠ 'E'

theorem EndsNumeral.startsWithDigit {rest : List Char} (ends : EndsNumeral rest) :
    startsWithDigit rest = false := by
  cases rest with
  | nil => rfl
  | cons c rest => simpa [Json.startsWithDigit] using (ends c rfl).1

theorem gatherDigits_append {digits rest : List Char}
    (all : ∀ c ∈ digits, c.isDigit = true) (value count : Nat)
    (fits : Nat.ofDigitChars 10 digits value < 2 ^ 64) (ends : startsWithDigit rest = false) :
    gatherDigits value count (digits ++ rest) =
      (Nat.ofDigitChars 10 digits value, count + digits.length, rest) := by
  induction digits generalizing value count with
  | nil =>
      cases rest with
      | nil => rfl
      | cons c rest =>
          have other : c.isDigit = false := by simpa [startsWithDigit] using ends
          simp [gatherDigits, other]
  | cons c digits ih =>
      rw [Nat.ofDigitChars_cons] at fits ⊢
      have grown := IntegerType.le_ofDigitChars digits (10 * value + (c.toNat - '0'.toNat))
      have gathered : c.isDigit = true ∧ 10 * value + (c.toNat - '0'.toNat) < 2 ^ 64 :=
        ⟨all c (by simp), Nat.lt_of_le_of_lt grown fits⟩
      rw [List.cons_append, gatherDigits, if_pos gathered,
        ih (fun c member => all c (by simp [member])) _ _ fits]
      simp only [List.length_cons, Prod.mk.injEq, true_and, and_true]
      omega

theorem exists_toDigits_eq_cons (n : Nat) :
    ∃ c others, Nat.toDigits 10 n = c :: others ∧ ∀ d ∈ c :: others, d.isDigit = true := by
  have all : ∀ c ∈ Nat.toDigits 10 n, c.isDigit = true := fun c member =>
    Nat.isDigit_of_mem_toDigits (by decide) (by decide) member
  cases digits : Nat.toDigits 10 n with
  | nil => exact absurd digits Nat.toDigits_ne_nil
  | cons c others =>
      rw [digits] at all
      exact ⟨c, others, rfl, all⟩

theorem head?_toDigits_ne_zero {n : Nat} (positive : 0 < n) :
    (Nat.toDigits 10 n).head? ≠ some '0' := by
  induction n using Nat.strongRecOn with
  | ind n ih =>
      by_cases small : n < 10
      · rw [Nat.toDigits_of_lt_base small]
        have all : ∀ digit : Fin 10, 0 < digit.val → [Nat.digitChar digit].head? ≠ some '0' := by
          decide
        exact all ⟨n, small⟩ positive
      · have front := ih (n / 10) (by omega) (by omega)
        rw [Nat.toDigits_of_base_le (by decide) (by omega)]
        obtain ⟨c, others, digits, _⟩ := exists_toDigits_eq_cons (n / 10)
        rw [digits] at front ⊢
        exact front

theorem readNumeral_toDigits (negative : Bool) {n : Nat} (fits : n < 2 ^ 64) {rest : List Char}
    (ends : EndsNumeral rest) :
    readNumeral negative (Nat.toDigits 10 n ++ rest) = wholeNumber negative n rest := by
  have value : Nat.ofDigitChars 10 (Nat.toDigits 10 n) 0 = n := Nat.ofDigitChars_ten_toDigits
  by_cases zero : n = 0
  · subst zero
    rw [Nat.toDigits_zero, List.singleton_append]
    cases rest with
    | nil => rfl
    | cons next rest =>
        obtain ⟨noDigit, noPoint, noSmall, noLarge⟩ := ends next rfl
        simp [readNumeral, ends.startsWithDigit, noPoint, noSmall, noLarge]
  · have leading := head?_toDigits_ne_zero (Nat.pos_of_ne_zero zero)
    obtain ⟨c, others, digits, all⟩ := exists_toDigits_eq_cons n
    rw [digits] at leading value ⊢
    have gathered := gatherDigits_append all 0 0 (by rwa [value]) ends.startsWithDigit
    have digit := all c (by simp)
    have other : c ≠ '0' := by simpa using leading
    rw [List.cons_append] at gathered ⊢
    cases rest with
    | nil =>
        rw [List.append_nil] at gathered ⊢
        simp [readNumeral, digit, gathered, value, ends.startsWithDigit]
    | cons next rest =>
        obtain ⟨noDigit, noPoint, noSmall, noLarge⟩ := ends next rfl
        simp [readNumeral, digit, gathered, value, ends.startsWithDigit, noPoint, noSmall,
          noLarge]

theorem wholeNumber_eq {negative : Bool} {significand : Nat} {n : Int}
    (value : (if negative then -(significand : Int) else significand) = n)
    (nonzero : ¬ (negative ∧ significand = 0)) (range : -2 ^ 63 ≤ n ∧ n < 2 ^ 64)
    (rest : List Char) : wholeNumber negative significand rest = .ok (.integer n range, rest) := by
  subst value
  exact dif_pos ⟨range, nonzero⟩

end SqlComposer.Json

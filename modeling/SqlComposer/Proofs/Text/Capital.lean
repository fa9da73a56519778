import Mathlib.Data.List.Infix
import SqlComposer.Text.Blank

/-!
Capital forms of characters. Only the letters from `a` to `z` have one other than themselves.
-/

namespace SqlComposer.Text

theorem toUpper_cases (c : Char) :
    ¬ (97 ≤ c.toNat ∧ c.toNat ≤ 122) ∧ c.toUpper = c ∨
      97 ≤ c.toNat ∧ c.toNat ≤ 122 ∧ c.toNat = c.toUpper.toNat + 32 := by
  have codes : 'a'.val ≤ c.val ∧ c.val ≤ 'z'.val ↔ 97 ≤ c.toNat ∧ c.toNat ≤ 122 := by
    rw [UInt32.le_iff_toNat_le, UInt32.le_iff_toNat_le]
    rfl
  by_cases small : 'a'.val ≤ c.val ∧ c.val ≤ 'z'.val
  · have shifted : c.toUpper = Char.mk (c.val + ('A'.val - 'a'.val)) _ := dif_pos small
    have code : c.toUpper.toNat = (c.toNat + 4294967264) % 2 ^ 32 := by
      rw [shifted]
      exact UInt32.toNat_add _ _
    obtain ⟨above, below⟩ := codes.mp small
    exact .inr ⟨above, below, by omega⟩
  · exact .inl ⟨fun letter => small (codes.mpr letter), dif_neg small⟩

variable {c d : Char}

theorem toUpper_eq_iff (noLetter : d.isAlpha = false) : c.toUpper = d ↔ c = d := by
  have code : ¬ (65 ≤ d.toNat ∧ d.toNat ≤ 90) ∧ ¬ (97 ≤ d.toNat ∧ d.toNat ≤ 122) := by
    have neither : (decide ('A'.val ≤ d.val ∧ d.val ≤ 'Z'.val) ||
      (decide ('a'.val ≤ d.val) && decide (d.val ≤ 'z'.val))) = false := noLetter
    simpa [UInt32.le_iff_toNat_le] using neither
  rcases toUpper_cases c with ⟨-, same⟩ | ⟨above, below, shifted⟩
  · rw [same]
  · constructor
    · rintro rfl
      omega
    · rintro rfl
      omega

theorem toUpper_eq_capital_iff {small : Char} (capital : 65 ≤ d.toNat ∧ d.toNat ≤ 90)
    (shifted : small.toNat = d.toNat + 32) : c.toUpper = d ↔ c = d ∨ c = small := by
  simp only [← Char.toNat_inj]
  rcases toUpper_cases c with ⟨other, same⟩ | ⟨above, below, lowered⟩
  · rw [same]
    omega
  · omega

theorem isBlank_toUpper (c : Char) : isBlank c.toUpper = isBlank c := by
  rcases toUpper_cases c with ⟨-, same⟩ | ⟨above, below, lowered⟩
  · rw [same]
  · have solid {d : Char} (code : 65 ≤ d.toNat ∧ d.toNat ≤ 122) : isBlank d = false := by
      simp only [isBlank]
      grind
    rw [solid ⟨by omega, below⟩, solid ⟨by omega, by omega⟩]

theorem trimStart_map_toUpper (text : List Char) :
    trimStart (text.map Char.toUpper) = (trimStart text).map Char.toUpper := by
  rw [trimStart, List.dropWhile_map]
  congr 2
  funext c
  exact isBlank_toUpper c

theorem prefix_map_toUpper_iff {symbols text : List Char}
    (noLetters : symbols.any Char.isAlpha = false) :
    symbols <+: text.map Char.toUpper ↔ symbols <+: text := by
  induction symbols generalizing text with
  | nil => simp
  | cons symbol symbols ih =>
      rw [List.any_cons, Bool.or_eq_false_iff] at noLetters
      cases text with
      | nil => simp
      | cons c text =>
          rw [List.map_cons, List.cons_prefix_cons, List.cons_prefix_cons, ih noLetters.2,
            eq_comm, toUpper_eq_iff noLetters.1, eq_comm]

end SqlComposer.Text

import Mathlib.Data.List.Forall2
import SqlComposer.Literal.Rendering
import SqlComposer.Proofs.Text.Capital

/-!
The texts that stand in a statement as they are. They are told by their form: a backtick in front,
or the parentheses, the first word and the blank of a subquery. All other texts are quoted.
-/

namespace SqlComposer

def selectLetters : List (List Char) :=
  [['S', 's', 'ſ'], ['E', 'e'], ['L', 'l'], ['E', 'e'], ['C', 'c'], ['T', 't']]

/-- Texts that are SQL by their form: quoted identifiers and subqueries. -/
inductive HasTrustedForm : List Char → Prop
  | identifier (rest : List Char) : HasTrustedForm ('`' :: rest)
  | subquery {word blanks : List Char} (select : List.Forall₂ (· ∈ ·) word selectLetters)
    (filled : blanks ≠ []) (blank : ∀ c ∈ blanks, Text.isBlank c = true) (rest : List Char) :
    HasTrustedForm ('(' :: (word ++ blanks ++ rest ++ [')']))

section Recognized

variable {text after : List Char}

theorem afterWord?_eq_some_iff {letters : List Char} :
    afterWord? letters text = some after ↔
      ∃ word, text = word ++ after ∧
        List.Forall₂ (fun letter c => foldsTo letter c = true) letters word := by
  induction letters generalizing text with
  | nil =>
      constructor
      · intro found
        cases found
        exact ⟨[], rfl, .nil⟩
      · rintro ⟨_, rfl, _ | _⟩
        rfl
  | cons letter letters ih =>
      constructor
      · intro found
        cases text with
        | nil => cases found
        | cons c text =>
            rw [afterWord?] at found
            split at found
            · rename_i folds
              obtain ⟨word, rfl, others⟩ := ih.mp found
              exact ⟨c :: word, rfl, .cons folds others⟩
            · cases found
      · rintro ⟨_, rfl, _ | @⟨_, c, _, word, folds, others⟩⟩
        rw [List.cons_append, afterWord?, if_pos folds]
        exact ih.mpr ⟨word, rfl, others⟩

theorem foldsTo_s_iff {c : Char} : foldsTo 'S' c = true ↔ c ∈ ['S', 's', 'ſ'] := by
  have upper := @Text.toUpper_eq_capital_iff c 'S' 's' (by decide) (by decide)
  simp [foldsTo, upper, or_assoc]

theorem foldsTo_iff {letter small c : Char} (capital : 65 ≤ letter.toNat ∧ letter.toNat ≤ 90)
    (shifted : small.toNat = letter.toNat + 32) (other : letter ≠ 'S') :
    foldsTo letter c = true ↔ c ∈ [letter, small] := by
  simp [foldsTo, Text.toUpper_eq_capital_iff capital shifted, other]

theorem folds_select_iff {word : List Char} :
    List.Forall₂ (fun letter c => foldsTo letter c = true) ['S', 'E', 'L', 'E', 'C', 'T'] word ↔
      List.Forall₂ (· ∈ ·) word selectLetters := by
  have rowE {c : Char} : foldsTo 'E' c = true ↔ c ∈ ['E', 'e'] :=
    foldsTo_iff (by decide) (by decide) (by decide)
  have rowL {c : Char} : foldsTo 'L' c = true ↔ c ∈ ['L', 'l'] :=
    foldsTo_iff (by decide) (by decide) (by decide)
  have rowC {c : Char} : foldsTo 'C' c = true ↔ c ∈ ['C', 'c'] :=
    foldsTo_iff (by decide) (by decide) (by decide)
  have rowT {c : Char} : foldsTo 'T' c = true ↔ c ∈ ['T', 't'] :=
    foldsTo_iff (by decide) (by decide) (by decide)
  simp only [selectLetters, List.forall₂_cons_left_iff, List.forall₂_cons_right_iff,
    List.forall₂_nil_left_iff, List.forall₂_nil_right_iff, foldsTo_s_iff, rowE, rowL, rowC,
    rowT]

theorem isSubquery_iff : isSubquery text = true ↔ ∃ word blanks rest,
    text = '(' :: (word ++ blanks ++ rest ++ [')']) ∧
      List.Forall₂ (· ∈ ·) word selectLetters ∧ blanks ≠ [] ∧
      ∀ c ∈ blanks, Text.isBlank c = true := by
  constructor
  · intro subquery
    unfold isSubquery at subquery
    split at subquery
    · split at subquery
      · rename_i blank after found
        obtain ⟨word, rfl, folds⟩ := afterWord?_eq_some_iff.mp found
        simp only [Bool.and_eq_true, beq_iff_eq, List.getLast?_eq_some_iff] at subquery
        obtain ⟨isBlank, rest, rfl⟩ := subquery
        exact ⟨word, [blank], rest, by simp, folds_select_iff.mp folds, by simp,
          by simpa using isBlank⟩
      · cases subquery
    · cases subquery
  · rintro ⟨word, blanks, rest, rfl, select, filled, blank⟩
    obtain ⟨c, blanks, rfl⟩ := List.exists_cons_of_ne_nil filled
    have found : afterWord? ['S', 'E', 'L', 'E', 'C', 'T']
        (word ++ (c :: blanks) ++ rest ++ [')']) = some (c :: (blanks ++ rest ++ [')'])) :=
      afterWord?_eq_some_iff.mpr ⟨word, by simp, folds_select_iff.mpr select⟩
    simp only [isSubquery, found, blank c List.mem_cons_self, Bool.true_and]
    simp

theorem isTrusted_iff : isTrusted text = true ↔ HasTrustedForm text := by
  rw [isTrusted, Bool.or_eq_true, beq_iff_eq, List.head?_eq_some_iff, isSubquery_iff]
  constructor
  · rintro (⟨rest, rfl⟩ | ⟨word, blanks, rest, rfl, select, filled, blank⟩)
    · exact .identifier rest
    · exact .subquery select filled blank rest
  · intro trusted
    cases trusted with
    | identifier rest => exact .inl ⟨rest, rfl⟩
    | subquery select filled blank rest => exact .inr ⟨_, _, rest, rfl, select, filled, blank⟩

instance (text : List Char) : Decidable (HasTrustedForm text) :=
  decidable_of_iff (isTrusted text = true) isTrusted_iff

end Recognized

namespace Dialect

theorem length_le_length_flatMap_quoteChar (dialect : Dialect) (content : List Char) :
    content.length ≤ (content.flatMap dialect.quoteChar).length := by
  induction content with
  | nil => simp
  | cons c content ih =>
      have some : 0 < (dialect.quoteChar c).length := by
        cases dialect <;> dsimp only [quoteChar] <;> split <;> exact Nat.succ_pos _
      rw [List.flatMap_cons, List.length_append, List.length_cons]
      omega

theorem escapeText_ne (dialect : Dialect) (s : String) : dialect.escapeText s ≠ s := by
  intro same
  have longer := dialect.length_le_length_flatMap_quoteChar s.toList
  have length := congrArg (fun text => text.toList.length) same
  simp only [escapeText, quote, String.toList_ofList, List.length_append, List.length_cons] at length
  omega

end Dialect

/--
A value is written otherwise than as data only if it is a text of trusted form. Just those texts
stand as they are, and just the others are quoted.
-/
theorem only_trusted_texts_pass (dialect : Dialect) (value : Value) :
    (value.render dialect ≠ dialect.escape value ↔
      ∃ s, value = .text s ∧ HasTrustedForm s.toList) ∧
    ∀ s : String,
      ((Value.text s).render dialect = s ↔ HasTrustedForm s.toList) ∧
      ((Value.text s).render dialect = dialect.escapeText s ↔ ¬ HasTrustedForm s.toList) := by
  have texts (s : String) :
      ((Value.text s).render dialect = s ↔ HasTrustedForm s.toList) ∧
      ((Value.text s).render dialect = dialect.escapeText s ↔ ¬ HasTrustedForm s.toList) := by
    have quoted := dialect.escapeText_ne s
    rw [Value.render, ← isTrusted_iff]
    by_cases trusted : isTrusted s.toList = true
    · simp [trusted, quoted.symm]
    · simp [trusted, quoted]
  refine ⟨?_, texts⟩
  cases value with
  | text s => simpa [Dialect.escape] using (texts s).2.not
  | _ => simp [Value.render]

example : HasTrustedForm "(ſelect\u2028*)".toList ∧ ¬ HasTrustedForm "(SELECT*)".toList ∧
    ¬ HasTrustedForm "(SELECT 1".toList ∧ ¬ HasTrustedForm "(SELECT 1) ".toList ∧
    ¬ HasTrustedForm " (SELECT 1)".toList := by
  decide

end SqlComposer

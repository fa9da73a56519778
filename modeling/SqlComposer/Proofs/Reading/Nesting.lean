import SqlComposer.Proofs.Literal.Trusted
import SqlComposer.Proofs.Reading.Lexeme

/-!
Parentheses as a server counts them, past strings, quoted names and comments. A subquery that is
one group can be shown as a single operand, whatever stands in it.
-/

namespace SqlComposer.Reading

structure Place where
  depth : Nat
  lexeme : Lexeme
deriving DecidableEq, Repr

namespace Place

def outside : Place :=
  ⟨0, .plain false⟩

def inside : Place :=
  ⟨1, .plain false⟩

def next (dialect : Dialect) (place : Place) (c : Char) : Place where
  depth :=
    if place.lexeme.isInside then place.depth
    else if c = '(' then place.depth + 1
    else if c = ')' then place.depth - 1
    else place.depth
  lexeme := place.lexeme.next dialect c

def read (dialect : Dialect) (place : Place) (text : List Char) : Place :=
  text.foldl (next dialect) place

def closes (dialect : Dialect) (place : Place) : List Char → Bool
  | [] => place.depth == 0
  | c :: rest => place.depth != 0 && closes dialect (place.next dialect c) rest

theorem closes_iff {dialect : Dialect} {place : Place} {text : List Char} :
    place.closes dialect text = true ↔ (place.read dialect text).depth = 0 ∧
      ∀ front back, text = front ++ back → back ≠ [] → 0 < (place.read dialect front).depth := by
  induction text generalizing place with
  | nil =>
      simp only [closes, beq_iff_eq, read, List.foldl_nil, iff_self_and]
      rintro - front back whole remaining
      exact absurd (List.append_eq_nil_iff.mp whole.symm).2 remaining
  | cons c text ih =>
      simp only [closes, Bool.and_eq_true, bne_iff_ne, ih, ← Nat.pos_iff_ne_zero]
      constructor
      · rintro ⟨opened, ends, before⟩
        refine ⟨ends, ?_⟩
        intro front back whole remaining
        cases front with
        | nil => exact opened
        | cons first front =>
            obtain ⟨rfl, rest⟩ := List.cons.inj whole
            exact before front back rest remaining
      · rintro ⟨ends, before⟩
        refine ⟨before [] (c :: text) rfl (by simp), ends, ?_⟩
        intro front back whole remaining
        exact before (c :: front) back (congrArg (c :: ·) whole) remaining

theorem next_of_closed {dialect : Dialect} {place : Place} {c : Char}
    (opened : place.depth ≠ 0) (closed : (place.next dialect c).depth = 0) :
    place.next dialect c = outside := by
  have counts : place.lexeme.isInside = false := by
    cases inside : place.lexeme.isInside with
    | false => rfl
    | true =>
        rw [next, inside, if_pos rfl] at closed
        exact absurd closed opened
  have parenthesis : c = ')' := by
    by_cases opening : c = '('
    · simp [next, counts, opening] at closed
    · by_cases closing : c = ')'
      · exact closing
      · simp only [next, counts, opening, closing, Bool.false_eq_true, if_false] at closed
        exact absurd closed opened
  subst parenthesis
  simp only [next] at closed ⊢
  rw [closed, Lexeme.next_separator (.inr rfl) counts, outside]

end Place

/-- The parenthesis that a text begins with is closed by its last character, and not before. -/
def IsGroup (dialect : Dialect) (text : List Char) : Prop :=
  ∃ inside, text = '(' :: inside ∧ (Place.inside.read dialect inside).depth = 0 ∧
    ∀ front back, inside = front ++ back → back ≠ [] →
      0 < (Place.inside.read dialect front).depth

theorem isGroup_cons_iff {dialect : Dialect} {inside : List Char} :
    IsGroup dialect ('(' :: inside) ↔ Place.inside.closes dialect inside = true := by
  rw [Place.closes_iff]
  constructor
  · rintro ⟨_, same, closed⟩
    cases same
    exact closed
  · intro closed
    exact ⟨inside, rfl, closed⟩

instance (dialect : Dialect) (text : List Char) : Decidable (IsGroup dialect text) :=
  match text with
  | [] => isFalse (by rintro ⟨_, none, -⟩; cases none)
  | c :: inside =>
    if opening : c = '(' then
      decidable_of_iff (Place.inside.closes dialect inside = true)
        (by rw [opening]; exact isGroup_cons_iff.symm)
    else isFalse (by rintro ⟨_, same, -⟩; exact opening (List.cons.inj same).1)

-- The comments hide what the parentheses in them seem to close.
example : ¬ IsGroup .mysql "(SELECT 1 /* ( */) OR (1=1 /* ) */)".toList := by decide

def opensSubquery : List Char → Bool
  | '(' :: rest =>
    match afterWord? ['S', 'E', 'L', 'E', 'C', 'T'] rest with
    | some (blank :: _) => Text.isBlank blank
    | _ => false
  | _ => false

theorem isSubquery_eq_true {text : List Char} (subquery : isSubquery text = true) :
    ∃ inside, text = '(' :: inside ∧ inside.getLast? = some ')' ∧
      ∀ rest, opensSubquery ('(' :: (inside ++ rest)) = true := by
  obtain ⟨word, blanks, behind, rfl, select, filled, blank⟩ := isSubquery_iff.mp subquery
  obtain ⟨c, blanks, rfl⟩ := List.exists_cons_of_ne_nil filled
  refine ⟨_, rfl, List.getLast?_concat, ?_⟩
  intro rest
  have found : afterWord? ['S', 'E', 'L', 'E', 'C', 'T']
      (word ++ (c :: blanks) ++ behind ++ [')'] ++ rest) =
        some (c :: (blanks ++ behind ++ [')'] ++ rest)) :=
    afterWord?_eq_some_iff.mpr ⟨word, by simp, folds_select_iff.mpr select⟩
  simp only [opensSubquery, found]
  exact blank c List.mem_cons_self

/-- A text with every subquery that begins outside all others shown as `NULL`. -/
def hide (dialect : Dialect) (place : Place) : List Char → List Char
  | [] => []
  | c :: rest =>
    if place.depth ≠ 0 then hide dialect (place.next dialect c) rest
    else if opensSubquery (c :: rest) && !place.lexeme.isInside then
      'N' :: 'U' :: 'L' :: 'L' :: hide dialect .inside rest
    else c :: hide dialect ⟨0, place.lexeme.next dialect c⟩ rest

variable {dialect : Dialect}

theorem hide_of_closes {place : Place} {inside : List Char}
    (opened : place.depth ≠ 0) (closed : place.closes dialect inside = true) (rest : List Char) :
    hide dialect place (inside ++ rest) = hide dialect .outside rest := by
  induction inside generalizing place with
  | nil => exact absurd (beq_iff_eq.mp closed) opened
  | cons c inside ih =>
      simp only [Place.closes, Bool.and_eq_true] at closed
      rw [List.cons_append, hide, if_pos opened]
      by_cases last : (place.next dialect c).depth = 0
      · rw [Place.next_of_closed opened last] at closed ⊢
        cases inside with
        | nil => rfl
        | cons next inside => exact absurd closed.2 (by simp [Place.closes, Place.outside])
      · exact ih last closed.2

theorem hide_subquery {text : List Char} (subquery : isSubquery text = true)
    (group : IsGroup dialect text) (rest : List Char) :
    hide dialect .outside (text ++ rest) = "NULL".toList ++ hide dialect .outside rest := by
  obtain ⟨inside, rfl, -, opens⟩ := isSubquery_eq_true subquery
  have inner : Place.inside.depth ≠ 0 := Nat.one_ne_zero
  have hidden := hide_of_closes inner (isGroup_cons_iff.mp group) rest
  have start : ¬ Place.outside.depth ≠ 0 := fun opened => opened rfl
  rw [List.cons_append, hide, if_neg start, opens rest]
  exact congrArg ("NULL".toList ++ ·) hidden

theorem hide_shown {lexeme : Lexeme} {c : Char} {rest : List Char}
    (shown : opensSubquery (c :: rest) = false ∨ lexeme.isInside = true) :
    hide dialect ⟨0, lexeme⟩ (c :: rest) = c :: hide dialect ⟨0, lexeme.next dialect c⟩ rest := by
  have unopened : ¬ (opensSubquery (c :: rest) && !lexeme.isInside) = true := by
    rcases shown with unopened | inside
    · simp [unopened]
    · simp [inside]
  rw [hide, if_neg (by simp), if_neg unopened]

theorem opensSubquery_cons_of_ne {c : Char} (other : c ≠ '(') (rest : List Char) :
    opensSubquery (c :: rest) = false := by
  rw [opensSubquery]
  rintro _ same
  exact absurd (List.cons.inj same).1 other

end SqlComposer.Reading

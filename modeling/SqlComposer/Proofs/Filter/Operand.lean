import SqlComposer.Proofs.Filter.Nodes
import SqlComposer.Proofs.Filter.NormalForm
import SqlComposer.Proofs.Reading.Shown
import SqlComposer.Proofs.Statement.Compiled

/-!
Subqueries as operands. A text is let through as a subquery by its first word and its last
character alone. If a server finds it to be one group of parentheses, it is one operand wherever
it is put: with the subquery shown as `NULL`, the SQL is that of `NULL` in its place.
-/

namespace SqlComposer

open Reading

namespace Value

/-- Whether a value is data, or a subquery that is one group of parentheses. -/
def IsOperand (dialect : Dialect) : Value → Prop
  | .raw _ => False
  | .text s => s.toList.head? ≠ some '`' ∧
    (isSubquery s.toList = true → IsGroup dialect s.toList)
  | _ => True

def shown : Value → Value
  | .text s => if isSubquery s.toList then .null else .text s
  | value => value

end Value

namespace Reading

variable {dialect : Dialect}

theorem shows_render {value : Value} (operand : value.IsOperand dialect) :
    Shows dialect (value.render dialect).toList (value.shown.render dialect).toList ∧
      BeginsApart (value.render dialect).toList := by
  by_cases subquery : ∃ s, value = .text s ∧ isSubquery s.toList = true
  · obtain ⟨s, rfl, subquery⟩ := subquery
    obtain ⟨inside, whole, -⟩ := isSubquery_eq_true subquery
    have verbatim : (Value.text s).render dialect = s := by
      simp [Value.render, isTrusted, subquery]
    have null : (Value.text s).shown = .null := if_pos subquery
    rw [verbatim, null]
    exact ⟨fun rest _ => hide_subquery subquery (operand.2 subquery) rest, '(', _, whole,
      by decide⟩
  · have data : ∀ sql, value ≠ .raw sql := by
      rintro sql rfl
      exact operand
    have literal : IsLiteral dialect (dialect.escape value).toList := isLiteral_escape data
    have escaped : value.render dialect = dialect.escape value := by
      cases value with
      | text s =>
          have data : isSubquery s.toList = false := by simpa using subquery
          simp [Value.render, Dialect.escape, isTrusted, data, operand.1]
      | _ => rfl
    have itself : value.shown = value := by
      cases value with
      | text s =>
          have data : isSubquery s.toList = false := by simpa using subquery
          simp [Value.shown, data]
      | _ => rfl
    rw [itself, escaped]
    exact ⟨literal.alone, literal.apart⟩

theorem shows_comparison {field operator : String} {value : Value}
    (named : StandsAlone dialect field.toList) (connector : IsConnector operator.toList)
    (operand : value.IsOperand dialect) :
    Shows dialect (field ++ " " ++ operator ++ " " ++ value.render dialect).toList
      (field ++ " " ++ operator ++ " " ++ value.shown.render dialect).toList := by
  simpa using named.seam (seam_space connector) (shows_render operand).1

theorem shows_renderList {values : List Value}
    (operands : ∀ value ∈ values, value.IsOperand dialect) :
    Shows dialect (renderList dialect values).toList
      (renderList dialect (values.map Value.shown)).toList := by
  simpa [renderList, Function.comp_def] using
    Shows.intercalate seam_comma fun value member => (shows_render (operands value member)).1

theorem renderList_apart {values : List Value}
    (operands : ∀ value ∈ values, value.IsOperand dialect) (rest : List Char) :
    opensSubquery ('(' :: ((renderList dialect values).toList ++ ')' :: rest)) = false := by
  cases values with
  | nil => rfl
  | cons value values =>
      have apart := (shows_render (operands value List.mem_cons_self)).2
      cases values with
      | nil => simpa [renderList] using (apart.append (')' :: rest)).opensSubquery
      | cons next values =>
          simpa [renderList] using (apart.append _).opensSubquery

theorem seam_and : Seam dialect (' ' :: ("AND".toList ++ [' '])) :=
  seam_space (by decide)

theorem shows_assignments {assignments : List (String × Value)}
    (named : ∀ assignment ∈ assignments,
      StandsAlone dialect assignment.1.toList)
    (operands : ∀ assignment ∈ assignments, assignment.2.IsOperand dialect) :
    Shows dialect (", ".intercalate (assignments.map fun assignment =>
        assignment.1 ++ " = " ++ assignment.2.render dialect)).toList
      (", ".intercalate (assignments.map fun assignment =>
        assignment.1 ++ " = " ++ assignment.2.shown.render dialect)).toList := by
  have connector : IsConnector "=".toList := by decide
  have each : ∀ assignment ∈ assignments, Shows dialect
      (assignment.1 ++ " = " ++ assignment.2.render dialect).toList
      (assignment.1 ++ " = " ++ assignment.2.shown.render dialect).toList := by
    intro assignment member
    simpa using shows_comparison (named assignment member) connector (operands assignment member)
  simpa [Function.comp_def] using Shows.intercalate seam_comma_space each

end Reading

def Bounds.mapValues (f : Value → Value) (bounds : Bounds) : Bounds where
  lower := bounds.lower.map fun bound => { bound with value := f bound.value }
  upper := bounds.upper.map fun bound => { bound with value := f bound.value }

namespace Condition

def mapValues (f : Value → Value) : Condition → Condition
  | .equals value => .equals (f value)
  | .like value => .like (f value)
  | .identical value => .identical (f value)
  | .sql text => .sql text
  | .oneOf values => .oneOf (values.map f)
  | .between values => .between (values.map f)
  | .within bounds => .within (bounds.mapValues f)

end Condition

variable {dialect : Dialect} {field : String}

theorem Bound.isConnector_operators (bound : Bound) :
    IsConnector bound.lowerOperator.toList ∧ IsConnector bound.upperOperator.toList := by
  rw [Bound.lowerOperator, Bound.upperOperator]
  cases bound.inclusive <;> decide

def shownComparison (dialect : Dialect) (field operator : String) (value : Value) :
    String × String :=
  (field ++ " " ++ operator ++ " " ++ value.render dialect,
    field ++ " " ++ operator ++ " " ++ value.shown.render dialect)

def Bounds.shownComparisons (bounds : Bounds) (dialect : Dialect) (field : String) :
    List (String × String) :=
  (bounds.lower.map fun bound =>
    shownComparison dialect field bound.lowerOperator bound.value).toList ++
  (bounds.upper.map fun bound =>
    shownComparison dialect field bound.upperOperator bound.value).toList

theorem Bounds.map_fst_shownComparisons (bounds : Bounds) :
    (bounds.shownComparisons dialect field).map Prod.fst = bounds.comparisons dialect field := by
  simp [shownComparisons, shownComparison, comparisons, Option.toList_map, Function.comp_def]

theorem Bounds.map_snd_shownComparisons (bounds : Bounds) :
    (bounds.shownComparisons dialect field).map Prod.snd =
      (bounds.mapValues Value.shown).comparisons dialect field := by
  simp [shownComparisons, shownComparison, comparisons, mapValues, Option.toList_map,
    Function.comp_def, Bound.lowerOperator, Bound.upperOperator]

theorem Bounds.shows_shownComparisons (named : StandsAlone dialect field.toList)
    {bounds : Bounds}
    (operands : ∀ value ∈ (Condition.within bounds).values, value.IsOperand dialect) :
    ∀ part ∈ bounds.shownComparisons dialect field, Shows dialect part.1.toList part.2.toList := by
  intro part member
  simp only [shownComparisons, List.mem_append, Option.mem_toList,
    Option.map_eq_some_iff] at member
  rcases member with ⟨bound, present, rfl⟩ | ⟨bound, present, rfl⟩
  · exact shows_comparison named bound.isConnector_operators.1
      (operands bound.value (by simp [Condition.values, present]))
  · exact shows_comparison named bound.isConnector_operators.2
      (operands bound.value (by simp [Condition.values, present]))

theorem Bounds.shows_comparisons (named : StandsAlone dialect field.toList) {bounds : Bounds}
    (operands : ∀ value ∈ (Condition.within bounds).values, value.IsOperand dialect) :
    Shows dialect (" AND ".intercalate (bounds.comparisons dialect field)).toList
      (" AND ".intercalate ((bounds.mapValues Value.shown).comparisons dialect field)).toList := by
  have each := Bounds.shows_shownComparisons named operands
  rw [← map_fst_shownComparisons, ← map_snd_shownComparisons]
  simpa [Function.comp_def] using Shows.intercalate seam_and each

theorem Condition.shows_compile (named : StandsAlone dialect field.toList)
    {condition : Condition} (structured : ∀ text, condition ≠ .sql text)
    (operands : ∀ value ∈ condition.values, value.IsOperand dialect) {sql : String}
    (compiled : condition.compile dialect field = .ok sql) :
    ∃ shown, (condition.mapValues Value.shown).compile dialect field = .ok shown ∧
      Shows dialect sql.toList shown.toList := by
  cases condition with
  | equals value | identical value =>
      cases compiled
      refine ⟨_, rfl, ?_⟩
      have operand := operands value (by simp [values])
      simpa using shows_comparison named (by decide : IsConnector "=".toList) operand
  | like pattern =>
      cases compiled
      refine ⟨_, rfl, ?_⟩
      have operand := operands pattern (by simp [values])
      simpa using shows_comparison named (by decide : IsConnector "LIKE".toList) operand
  | sql text => exact absurd rfl (structured text)
  | oneOf values =>
      cases compiled
      refine ⟨_, rfl, ?_⟩
      have each : ∀ value ∈ values, value.IsOperand dialect := operands
      have list := (shows_renderList each).paren (renderList_apart each)
      have seam : Seam dialect (' ' :: ("IN".toList ++ [' '])) := seam_space (by decide)
      simpa using named.seam seam list
  | between values =>
      obtain ⟨low, high, rfl, rfl⟩ := compile_between_eq_ok.mp compiled
      refine ⟨_, rfl, ?_⟩
      have lowOperand := operands low (by simp [Condition.values])
      have highOperand := operands high (by simp [Condition.values])
      have front := shows_comparison named (by decide : IsConnector "BETWEEN".toList) lowOperand
      simpa using front.seam seam_and (shows_render highOperand).1
  | within bounds =>
      obtain ⟨bounded, rfl⟩ := compile_within_eq_ok.mp compiled
      rw [← Bounds.map_fst_shownComparisons] at bounded
      have shownBounded : (bounds.mapValues Value.shown).comparisons dialect field ≠ [] := by
        rw [← Bounds.map_snd_shownComparisons]
        simpa using bounded
      exact ⟨_, compile_within_eq_ok.mpr ⟨shownBounded, rfl⟩,
        Bounds.shows_comparisons named operands⟩

def tangledSubquery : String :=
  "(SELECT `id)` FROM t /* ( */ WHERE (name = ') OR (1' -- )\n AND n IN (1,2)))"

end SqlComposer

import SqlComposer.Filter.Basic

/-!
What is inside a filter: the values of its conditions, and filters, itself and those inside the
terms of its conjunctions.
-/

namespace SqlComposer

namespace Condition

def values : Condition → List Value
  | .equals value | .like value | .identical value => [value]
  | .sql _ => []
  | .oneOf values | .between values => values
  | .within bounds => (bounds.lower.map Bound.value).toList ++ (bounds.upper.map Bound.value).toList

theorem mem_values_within {bounds : Bounds} {value : Value} :
    value ∈ (within bounds).values ↔
      ∃ bound, (bounds.lower = some bound ∨ bounds.upper = some bound) ∧ bound.value = value := by
  simp [values, or_and_right, exists_or]

end Condition

namespace Filter

/-- Terms stand in a list, so what holds of a conjunction may rest on all of its terms. -/
@[elab_as_elim, induction_eliminator]
theorem induction_on_terms {motive : Filter → Prop} (raw : ∀ sql, motive (.raw sql))
    (predicate : ∀ sql, motive (.predicate sql))
    (conjunction : ∀ connective terms, (∀ term ∈ terms, motive term) →
      motive (.conjunction connective terms))
    (fields : ∀ conditions, motive (.fields conditions)) : ∀ filter, motive filter
  | .raw sql => raw sql
  | .predicate sql => predicate sql
  | .conjunction connective terms =>
    conjunction connective terms fun term _ =>
      induction_on_terms raw predicate conjunction fields term
  | .fields conditions => fields conditions

inductive Contains : Filter → Filter → Prop
  | self (filter : Filter) : Contains filter filter
  | term {connective : Connective} {terms : List Filter} {term node : Filter}
    (member : term ∈ terms) (inside : Contains term node) :
    Contains (.conjunction connective terms) node

end Filter

end SqlComposer

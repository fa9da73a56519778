import SqlComposer.Proofs.Filter.Compiled

/-!
The filters that say nothing: those whose predicate is blank. Every operator, every connective
with its parentheses and every test of a named field is visible.
-/

namespace SqlComposer

namespace Text

theorem allBlank_append (front back : String) :
    allBlank (front ++ back) = (allBlank front && allBlank back) := by
  simp [allBlank]

theorem allBlank_of_mem_intercalate {separator : String} {parts : List String}
    (blank : allBlank (separator.intercalate parts) = true) :
    ∀ part ∈ parts, allBlank part = true := by
  induction parts with
  | nil => simp
  | cons part parts ih =>
      cases parts with
      | nil => simpa using blank
      | cons next parts =>
          rw [String.intercalate_cons_cons, allBlank_append, allBlank_append, Bool.and_eq_true,
            Bool.and_eq_true] at blank
          intro member present
          rcases List.mem_cons.mp present with rfl | later
          · exact blank.1.1
          · exact ih blank.2 member later

theorem not_allBlank_intercalate_of_mem {separator part : String} {parts : List String}
    (visible : allBlank part = false) (member : part ∈ parts) :
    allBlank (separator.intercalate parts) = false := by
  cases blank : allBlank (separator.intercalate parts) with
  | false => rfl
  | true =>
      rw [allBlank_of_mem_intercalate blank part member] at visible
      exact visible

theorem not_allBlank_intercalate {separator : String} (visible : allBlank separator = false)
    (first second : String) (rest : List String) :
    allBlank (separator.intercalate (first :: second :: rest)) = false := by
  rw [String.intercalate_cons_cons, allBlank_append, allBlank_append, visible, Bool.and_false,
    Bool.false_and]

end Text

open Text

variable {dialect : Dialect}

theorem Bound.not_allBlank_operators (bound : Bound) :
    allBlank bound.lowerOperator = false ∧ allBlank bound.upperOperator = false := by
  constructor
  · unfold Bound.lowerOperator
    split <;> rfl
  · unfold Bound.upperOperator
    split <;> rfl

theorem Bounds.not_allBlank_comparisons {bounds : Bounds} {field comparison : String}
    (member : comparison ∈ bounds.comparisons dialect field) : allBlank comparison = false := by
  simp only [Bounds.comparisons, List.mem_append, Option.mem_toList, Option.map_eq_some_iff]
    at member
  rcases member with ⟨bound, _, rfl⟩ | ⟨bound, _, rfl⟩
  · simp [allBlank_append, bound.not_allBlank_operators.1]
  · simp [allBlank_append, bound.not_allBlank_operators.2]

def Condition.saysNothing (field : String) : Condition → Bool
  | .sql text => allBlank field && allBlank text
  | _ => false

theorem Condition.allBlank_compile {condition : Condition} {field sql : String}
    (compiled : condition.compile dialect field = .ok sql) :
    allBlank sql = condition.saysNothing field := by
  have space : allBlank " " = true := rfl
  have operators : ∀ operator ∈ [" = ", " LIKE ", " IN (", " BETWEEN "],
      allBlank operator = false := by decide
  cases condition with
  | sql text =>
      cases compiled
      simp [allBlank_append, saysNothing, space]
  | equals value =>
      cases compiled
      simp [allBlank_append, saysNothing, operators]
  | identical value =>
      cases compiled
      simp [allBlank_append, saysNothing, operators]
  | like pattern =>
      cases compiled
      simp [allBlank_append, saysNothing, operators]
  | oneOf values =>
      cases compiled
      simp [allBlank_append, saysNothing, operators]
  | between values =>
      obtain ⟨low, high, rfl, rfl⟩ := compile_between_eq_ok.mp compiled
      simp [allBlank_append, saysNothing, operators]
  | within bounds =>
      obtain ⟨bounded, rfl⟩ := compile_within_eq_ok.mp compiled
      obtain ⟨comparison, member⟩ := List.exists_mem_of_ne_nil _ bounded
      exact not_allBlank_intercalate_of_mem (Bounds.not_allBlank_comparisons member) member

namespace Filter

/--
Whether a filter says nothing: it is SQL of blanks, or asks nothing of any field, or puts SQL of
blanks after a single name of blanks. A conjunction always says something.
-/
def saysNothing : Filter → Bool
  | .raw sql => allBlank sql
  | .predicate sql => allBlank sql
  | .conjunction _ _ => false
  | .fields conditions =>
    match conditions.entries with
    | [] => true
    | [(field, condition)] => condition.saysNothing field
    | _ => false

theorem allBlank_compile {filter : Filter} {predicate : String}
    (compiled : filter.compile dialect = .ok predicate) :
    allBlank predicate = filter.saysNothing := by
  cases filter with
  | raw sql =>
      cases compiled
      rfl
  | predicate sql =>
      cases compiled
      rfl
  | conjunction connective terms =>
      obtain ⟨nonempty, texts, made, rfl⟩ := compile_conjunction_eq_ok.mp compiled
      cases terms with
      | nil => exact absurd rfl nonempty
      | cons term terms =>
          obtain ⟨sql, others, _, _, _, rfl⟩ := compileTerms_cons_eq_ok.mp made
          have opening : allBlank "(" = false := rfl
          refine not_allBlank_intercalate_of_mem ?_ (List.mem_cons_self)
          simp [allBlank_append, opening]
  | fields conditions =>
      obtain ⟨clauses, made, rfl⟩ := FieldMap.compile_eq_ok.mp compiled
      rw [saysNothing]
      match entries : conditions.entries with
      | [] =>
          rw [entries] at made
          cases made
          rfl
      | [(field, condition)] =>
          rw [entries] at made
          obtain ⟨clause, others, first, rest, rfl⟩ := mapM_cons_eq_ok.mp made
          cases rest
          simpa using Condition.allBlank_compile first
      | _ :: _ :: _ =>
          rw [entries] at made
          obtain ⟨clause, others, _, rest, rfl⟩ := mapM_cons_eq_ok.mp made
          obtain ⟨next, more, _, _, rfl⟩ := mapM_cons_eq_ok.mp rest
          exact not_allBlank_intercalate rfl clause next more

end Filter

end SqlComposer

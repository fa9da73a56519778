import SqlComposer.Filter.Compile
import SqlComposer.Proofs.Outcome

/-!
When the parts of a filter compile, and to what: the cases in which nothing failed.
-/

namespace SqlComposer

variable {dialect : Dialect}

theorem Condition.compile_between_eq_ok {field sql : String} {values : List Value} :
    (Condition.between values).compile dialect field = .ok sql ↔
      ∃ low high, values = [low, high] ∧
        field ++ " BETWEEN " ++ low.render dialect ++ " AND " ++ high.render dialect = sql := by
  match values with
  | [] => simp [compile]
  | [_] => simp [compile]
  | [low, high] =>
      simp only [compile, Except.ok.injEq]
      constructor
      · intro text
        exact ⟨low, high, rfl, text⟩
      · rintro ⟨_, _, same, text⟩
        cases same
        exact text
  | _ :: _ :: _ :: _ => simp [compile]

theorem Condition.compile_within_eq_ok {field sql : String} {bounds : Bounds} :
    (Condition.within bounds).compile dialect field = .ok sql ↔
      bounds.comparisons dialect field ≠ [] ∧
        " AND ".intercalate (bounds.comparisons dialect field) = sql := by
  simp only [compile]
  cases comparisons : bounds.comparisons dialect field with
  | nil => simp
  | cons first others => simp

theorem FieldMap.compile_eq_ok {conditions : FieldMap} {sql : String} :
    conditions.compile dialect = .ok sql ↔
      ∃ clauses, conditions.entries.mapM (fun entry => entry.2.compile dialect entry.1) =
        .ok clauses ∧ " AND ".intercalate clauses = sql :=
  map_eq_ok

namespace Filter

theorem compileTerms_cons_eq_ok {term : Filter} {terms : List Filter} {texts : List String} :
    compileTerms dialect (term :: terms) = .ok texts ↔
      ∃ sql others, term.compile dialect = .ok sql ∧ Text.allBlank sql = false ∧
        compileTerms dialect terms = .ok others ∧ texts = ("(" ++ sql ++ ")") :: others := by
  rw [compileTerms, bind_eq_ok]
  constructor
  · rintro ⟨sql, compiled, rest⟩
    cases blank : Text.allBlank sql with
    | true =>
        simp only [blank, if_true] at rest
        obtain ⟨_, thrown, _⟩ := bind_eq_ok.mp rest
        cases thrown
    | false =>
        simp only [blank, Bool.false_eq_true, if_false] at rest
        obtain ⟨others, compiledOthers, all⟩ := bind_eq_ok.mp rest
        exact ⟨sql, others, compiled, blank, compiledOthers, (Except.ok.inj all).symm⟩
  · rintro ⟨sql, others, compiled, blank, compiledOthers, rfl⟩
    refine ⟨sql, compiled, ?_⟩
    simp only [blank, Bool.false_eq_true, if_false]
    exact bind_eq_ok.mpr ⟨others, compiledOthers, rfl⟩

theorem compile_conjunction_eq_ok {connective : Connective} {terms : List Filter}
    {sql : String} :
    (conjunction connective terms).compile dialect = .ok sql ↔
      terms ≠ [] ∧ ∃ texts, compileTerms dialect terms = .ok texts ∧
        connective.separator.intercalate texts = sql := by
  cases terms with
  | nil => simp [compile]
  | cons term terms =>
      rw [compile]
      · simp [map_eq_ok]
      · simp

end Filter

end SqlComposer

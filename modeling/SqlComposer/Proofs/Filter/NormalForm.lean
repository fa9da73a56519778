import SqlComposer.Proofs.Filter.Compiled
import SqlComposer.Proofs.Reading.Formula

/-!
The formula that a filter of data stands for, and that the predicate compiled from the filter is
read as this formula: nothing of the filter is lost and nothing is regrouped.
-/

namespace SqlComposer

open Reading

namespace Condition

def isData : Condition → Bool
  | .equals value => value.isData
  | .identical value => value.isData
  | .like pattern => pattern.isData
  | .sql _ => false
  | .oneOf values => values.all Value.isData
  | .between values => values.all Value.isData
  | .within bounds =>
    bounds.lower.all (fun bound => bound.value.isData) &&
      bounds.upper.all (fun bound => bound.value.isData)

end Condition

namespace Bound

def lowerTest (field : String) (bound : Bound) : Formula :=
  .compare field (if bound.inclusive then .atLeast else .greater) bound.value.literal

def upperTest (field : String) (bound : Bound) : Formula :=
  .compare field (if bound.inclusive then .atMost else .less) bound.value.literal

end Bound

namespace Condition

def tests (field : String) : Condition → List Formula
  | .equals value => [.compare field .equal value.literal]
  | .identical value => [.compare field .equal value.literal]
  | .like pattern => [.compare field .like pattern.literal]
  | .oneOf values => [.oneOf field (values.map Value.literal)]
  | .between [low, high] => [.between field low.literal high.literal]
  | .between _ => []
  | .within bounds =>
    (bounds.lower.map (Bound.lowerTest field)).toList ++
      (bounds.upper.map (Bound.upperTest field)).toList
  | .sql _ => []

end Condition

namespace Filter

mutual

def isStructured : Filter → Bool
  | .raw _ => false
  | .predicate _ => false
  | .conjunction _ terms => areStructured terms
  | .fields conditions => conditions.entries.all fun entry => isName entry.1 && entry.2.isData

def areStructured : List Filter → Bool
  | [] => true
  | term :: terms => isStructured term && areStructured terms

end

mutual

/-- The formula of a filter: its terms, or all tests of its fields, under one connective. -/
def normalForm : Filter → Formula
  | .conjunction connective terms => Formula.join connective (normalForms terms)
  | .fields conditions =>
    Formula.join .and (conditions.entries.flatMap fun entry => entry.2.tests entry.1)
  | .raw _ => .joined .and []
  | .predicate _ => .joined .and []

def normalForms : List Filter → List Formula
  | [] => []
  | term :: terms => normalForm term :: normalForms terms

end

end Filter

section Tests

variable {dialect : Dialect} {field : String}

theorem reads_comparison (named : isName field = true) (comparison : Comparison) {value : Value}
    (data : value.isData = true) :
    ReadsTest dialect (field ++ " " ++ comparison.text ++ " " ++ value.render dialect).toList
      (.compare field comparison value.literal) := by
  simpa using reads_compare named comparison (reads_render data)

def ReadsTests (dialect : Dialect) (sql : String) (tests : List Formula) : Prop :=
  ∃ parts : List (String × Formula), parts ≠ [] ∧ sql = " AND ".intercalate (parts.map Prod.fst) ∧
    tests = parts.map Prod.snd ∧ ∀ part ∈ parts, ReadsTest dialect part.1.toList part.2

theorem ReadsTests.single {sql : String} {test : Formula}
    (reads : ReadsTest dialect sql.toList test) : ReadsTests dialect sql [test] := by
  refine ⟨[(sql, test)], by simp, by simp, by simp, ?_⟩
  intro part member
  rw [List.mem_singleton] at member
  rw [member]
  exact reads

theorem ReadsTests.append {front back : String} {first second : List Formula}
    (left : ReadsTests dialect front first) (right : ReadsTests dialect back second) :
    ReadsTests dialect (front ++ " AND " ++ back) (first ++ second) := by
  obtain ⟨frontParts, frontNonempty, rfl, rfl, frontReads⟩ := left
  obtain ⟨backParts, backNonempty, rfl, rfl, backReads⟩ := right
  refine ⟨frontParts ++ backParts, by simp [frontNonempty], ?_, by simp, ?_⟩
  · rw [List.map_append, String.intercalate_append_of_ne_nil (by simpa using frontNonempty)
      (by simpa using backNonempty)]
  · intro part member
    rcases List.mem_append.mp member with inFront | inBack
    · exact frontReads part inFront
    · exact backReads part inBack

theorem Bound.reads_lower (named : isName field = true) {bound : Bound}
    (data : bound.value.isData = true) :
    ReadsTest dialect
      (field ++ " " ++ bound.lowerOperator ++ " " ++ bound.value.render dialect).toList
      (bound.lowerTest field) := by
  cases inclusive : bound.inclusive with
  | true =>
      simpa [Bound.lowerOperator, Bound.lowerTest, inclusive, Comparison.text] using
        reads_comparison named .atLeast data
  | false =>
      simpa [Bound.lowerOperator, Bound.lowerTest, inclusive, Comparison.text] using
        reads_comparison named .greater data

theorem Bound.reads_upper (named : isName field = true) {bound : Bound}
    (data : bound.value.isData = true) :
    ReadsTest dialect
      (field ++ " " ++ bound.upperOperator ++ " " ++ bound.value.render dialect).toList
      (bound.upperTest field) := by
  cases inclusive : bound.inclusive with
  | true =>
      simpa [Bound.upperOperator, Bound.upperTest, inclusive, Comparison.text] using
        reads_comparison named .atMost data
  | false =>
      simpa [Bound.upperOperator, Bound.upperTest, inclusive, Comparison.text] using
        reads_comparison named .less data

theorem Bounds.reads_comparisons (named : isName field = true) {bounds : Bounds}
    (data : (Condition.within bounds).isData = true)
    (bounded : bounds.comparisons dialect field ≠ []) :
    ReadsTests dialect (" AND ".intercalate (bounds.comparisons dialect field))
      ((Condition.within bounds).tests field) := by
  let lowerPart (bound : Bound) : String × Formula :=
    (field ++ " " ++ bound.lowerOperator ++ " " ++ bound.value.render dialect,
      bound.lowerTest field)
  let upperPart (bound : Bound) : String × Formula :=
    (field ++ " " ++ bound.upperOperator ++ " " ++ bound.value.render dialect,
      bound.upperTest field)
  let parts := (bounds.lower.map lowerPart).toList ++ (bounds.upper.map upperPart).toList
  have texts : bounds.comparisons dialect field = parts.map Prod.fst := by
    simp [parts, lowerPart, upperPart, Bounds.comparisons, Option.toList_map, Function.comp_def]
  have tests : (Condition.within bounds).tests field = parts.map Prod.snd := by
    simp [parts, lowerPart, upperPart, Condition.tests, Option.toList_map, Function.comp_def]
  simp only [Condition.isData, Bool.and_eq_true, Option.all_eq_true] at data
  refine ⟨parts, ?_, by rw [texts], tests, ?_⟩
  · intro none
    exact bounded (by rw [texts, none]; rfl)
  · intro part member
    simp only [parts, List.mem_append, Option.mem_toList, Option.map_eq_some_iff] at member
    rcases member with ⟨bound, present, rfl⟩ | ⟨bound, present, rfl⟩
    · exact Bound.reads_lower named (data.1 bound present)
    · exact Bound.reads_upper named (data.2 bound present)

theorem Condition.reads_compile (named : isName field = true) {condition : Condition}
    (data : condition.isData = true) {sql : String}
    (compiled : condition.compile dialect field = .ok sql) :
    ReadsTests dialect sql (condition.tests field) := by
  cases condition with
  | equals value =>
      cases compiled
      exact .single (by simpa [Comparison.text] using reads_comparison named .equal data)
  | identical value =>
      cases compiled
      exact .single (by simpa [Comparison.text] using reads_comparison named .equal data)
  | like pattern =>
      cases compiled
      exact .single (by simpa [Comparison.text] using reads_comparison named .like data)
  | sql text => simp [Condition.isData] at data
  | oneOf values =>
      cases compiled
      have each : ∀ value ∈ values,
          ReadsLiteral dialect (value.render dialect).toList value.literal := fun value member =>
        reads_render (List.all_eq_true.mp data value member)
      refine .single ?_
      simpa [renderList, Function.comp_def] using reads_oneOf named each
  | between values =>
      obtain ⟨low, high, rfl, rfl⟩ := compile_between_eq_ok.mp compiled
      simp only [Condition.isData, List.all_cons, List.all_nil, Bool.and_true,
        Bool.and_eq_true] at data
      refine .single ?_
      simpa using reads_between named (reads_render data.1) (reads_render data.2)
  | within bounds =>
      obtain ⟨bounded, rfl⟩ := compile_within_eq_ok.mp compiled
      exact Bounds.reads_comparisons named data bounded

theorem FieldMap.reads_compile {entries : List (String × Condition)} (nonempty : entries ≠ [])
    (structured : ∀ entry ∈ entries, isName entry.1 = true ∧ entry.2.isData = true)
    {clauses : List String}
    (compiled : entries.mapM (fun entry => entry.2.compile dialect entry.1) = .ok clauses) :
    ReadsTests dialect (" AND ".intercalate clauses)
      (entries.flatMap fun entry => entry.2.tests entry.1) := by
  induction entries generalizing clauses with
  | nil => exact absurd rfl nonempty
  | cons entry entries ih =>
      obtain ⟨named, data⟩ := structured entry (by simp)
      obtain ⟨clause, others, made, madeOthers, rfl⟩ := mapM_cons_eq_ok.mp compiled
      have first := Condition.reads_compile named data made
      cases entries with
      | nil =>
          cases madeOthers
          simpa using first
      | cons next entries =>
          have remaining := ih (by simp) (fun other member => structured other (by simp [member]))
            madeOthers
          obtain ⟨nextClause, more, _, _, rfl⟩ := mapM_cons_eq_ok.mp madeOthers
          rw [String.intercalate_cons_cons, List.flatMap_cons]
          exact first.append remaining

theorem ReadsTests.readsFormula {sql : String} {tests : List Formula}
    (reads : ReadsTests dialect sql tests) :
    ReadsFormula dialect sql.toList (Formula.join .and tests) := by
  obtain ⟨parts, nonempty, rfl, rfl, each⟩ := reads
  have joined : ReadsFormula dialect
      (Connective.and.separator.toList.intercalate (parts.map fun part => part.1.toList))
      (Formula.join .and (parts.map Prod.snd)) :=
    readsFormula_joined nonempty fun part member _ _ => reads_test (each part member)
  simpa [Connective.separator, Function.comp_def] using joined

end Tests

namespace Filter

variable {dialect : Dialect}

theorem allBlank_of_compile_empty {sql : String}
    (compiled : (fields .empty).compile dialect = .ok sql) : Text.allBlank sql = true := by
  cases compiled
  rfl

mutual

theorem readsFormula_compile {filter : Filter} {sql : String}
    (structured : filter.isStructured = true) (filled : filter ≠ fields .empty)
    (compiled : filter.compile dialect = .ok sql) :
    ReadsFormula dialect sql.toList filter.normalForm := by
  match filter with
  | .raw _ => simp [isStructured] at structured
  | .predicate _ => simp [isStructured] at structured
  | .fields conditions =>
      obtain ⟨clauses, made, rfl⟩ := FieldMap.compile_eq_ok.mp compiled
      have nonempty : conditions.entries ≠ [] := by
        intro none
        exact filled (by cases conditions; cases none; rfl)
      simp only [isStructured, List.all_eq_true, Bool.and_eq_true] at structured
      rw [normalForm]
      exact (FieldMap.reads_compile nonempty structured made).readsFormula
  | .conjunction connective terms =>
      obtain ⟨nonempty, texts, made, rfl⟩ := compile_conjunction_eq_ok.mp compiled
      rw [isStructured] at structured
      obtain ⟨parts, rfl, forms, each⟩ := readsFormulas_compileTerms structured made
      have parts_nonempty : parts ≠ [] := by
        rintro rfl
        cases terms with
        | nil => exact nonempty rfl
        | cons term terms => simp [normalForms] at forms
      have groups := readsFormula_groups connective parts_nonempty each
      rw [normalForm, forms]
      simpa [Function.comp_def] using groups

theorem readsFormulas_compileTerms {terms : List Filter} {texts : List String}
    (structured : areStructured terms = true)
    (compiled : compileTerms dialect terms = .ok texts) :
    ∃ parts : List (String × Formula),
      texts = parts.map (fun part => "(" ++ part.1 ++ ")") ∧
      normalForms terms = parts.map Prod.snd ∧
      ∀ part ∈ parts, ReadsFormula dialect part.1.toList part.2 := by
  match terms with
  | [] =>
      cases compiled
      exact ⟨[], rfl, rfl, by simp⟩
  | term :: terms =>
      obtain ⟨sql, others, made, visible, madeOthers, rfl⟩ :=
        compileTerms_cons_eq_ok.mp compiled
      simp only [areStructured, Bool.and_eq_true] at structured
      have filled : term ≠ fields .empty := by
        rintro rfl
        rw [allBlank_of_compile_empty made] at visible
        cases visible
      have first := readsFormula_compile structured.1 filled made
      obtain ⟨parts, rfl, forms, each⟩ := readsFormulas_compileTerms structured.2 madeOthers
      refine ⟨(sql, term.normalForm) :: parts, rfl, by simp [normalForms, forms], ?_⟩
      intro part member
      rcases List.mem_cons.mp member with rfl | later
      · exact first
      · exact each part later

end

/--
The predicate of a filter is read, to its last character, as the filter's own formula: terms and
tests in their order, under their connectives, with every literal as the value that was written.
-/
theorem formula_of_compiled {filter : Filter} {sql : String}
    (structured : filter.isStructured = true) (filled : filter ≠ fields .empty)
    (compiled : filter.compile dialect = .ok sql) :
    Formula.ofSql? dialect sql = some filter.normalForm :=
  (readsFormula_compile structured filled compiled).ofSql?

def mixed : Filter :=
  .conjunction .or [
    .fields (.ofList [("name", .equals (.text "O'Neil) OR (1")),
      ("age", .within ((Bounds.none.atLeast (.int 18)).below (.int 65)))]),
    .conjunction .and [.fields (.ofList [("day", .between [.int 1, .int (-2)])]),
      .fields (.ofList [("kind", .oneOf [])])]]

theorem formula_of_compiled_mixed :
    mixed.isStructured = true ∧ mixed ≠ fields .empty ∧
    mixed.compile .mysql = .ok ("(name = 'O\\'Neil) OR (1' AND age >= 18 AND age < 65) OR " ++
      "((day BETWEEN 1 AND -2) AND (kind IN ()))") ∧
    Formula.ofSql? .mysql ("(name = 'O\\'Neil) OR (1' AND age >= 18 AND age < 65) OR " ++
      "((day BETWEEN 1 AND -2) AND (kind IN ()))") = some (.joined .or [
        .joined .and [.compare "name" .equal (.text "O'Neil) OR (1"),
          .compare "age" .atLeast (.number 18), .compare "age" .less (.number 65)],
        .joined .and [.between "day" (.number 1) (.number (-2)), .oneOf "kind" []]]) := by
  have structured : mixed.isStructured = true := rfl
  have filled : mixed ≠ fields .empty := nofun
  have compiled : mixed.compile .mysql =
      .ok ("(name = 'O\\'Neil) OR (1' AND age >= 18 AND age < 65) OR " ++
        "((day BETWEEN 1 AND -2) AND (kind IN ()))") := rfl
  exact ⟨structured, filled, compiled, formula_of_compiled structured filled compiled⟩

end Filter

end SqlComposer

import SqlComposer.Proofs.Filter.Silence
import SqlComposer.Proofs.Statement.Compiled

/-!
The WHERE clause that selections, updates and deletions of one query have in common, and the
filters that leave them without one.
-/

namespace SqlComposer.Query

variable {query : Query} {document : Document} {dialect : Dialect} {filter : Filter}

theorem whereClause_of_error {fault : FilterFault}
    (failed : filter.compile dialect = .error fault) :
    whereClause dialect (some filter) = .error (.filter fault) := by
  simp [whereClause, Filter.whereClause, failed, bind, Except.bind, mapError_error]

theorem whereClause_of_ok {predicate : String}
    (compiled : filter.compile dialect = .ok predicate) :
    whereClause dialect (some filter) =
      .ok (if filter.saysNothing then none else some ("WHERE " ++ predicate)) := by
  simp [whereClause, Filter.whereClause, compiled, bind, Except.bind, pure, Except.pure,
    mapError_ok, Filter.allBlank_compile compiled]

theorem effectiveFilter_of_some (set : query.filter = some filter) (ids : Option (List Value)) :
    query.effectiveFilter ids = some filter := by
  simp [effectiveFilter, set]

theorem statements_fail (named : Text.allBlank query.table = false)
    (filled : document.entries ≠ []) (set : query.filter = some filter) {fault : FilterFault}
    (failed : filter.compile dialect = .error fault) :
    query.deleteSql dialect = .error (.filter fault) ∧
    query.updateSql document dialect = .error (.filter fault) ∧
    ∀ ids, query.selectSql ids dialect = .error (.filter fault) := by
  have clause := whereClause_of_error failed
  refine ⟨?_, ?_, ?_⟩
  · rw [deleteSql_eq named, set, clause]
    rfl
  · rw [updateSql_eq named filled, set, clause]
    rfl
  · intro ids
    rw [selectSql_eq named, effectiveFilter_of_some set, clause]
    rfl

def scope (filter : Filter) (predicate : String) : String :=
  if filter.saysNothing then "" else " WHERE " ++ predicate

theorem suffix_where (predicate : String) :
    suffix (some ("WHERE " ++ predicate)) = " WHERE " ++ predicate := by
  have word : " " ++ "WHERE " = " WHERE " := rfl
  simp [suffix, ← String.append_assoc, word]

theorem suffix_eq_scope (filter : Filter) (predicate : String) :
    suffix (if filter.saysNothing then none else some ("WHERE " ++ predicate)) =
      scope filter predicate := by
  rw [scope]
  cases filter.saysNothing with
  | true => rfl
  | false => exact suffix_where predicate

theorem statements_scoped (named : Text.allBlank query.table = false)
    (filled : document.entries ≠ []) (set : query.filter = some filter) {predicate : String}
    (compiled : filter.compile dialect = .ok predicate) :
    query.deleteSql dialect = .ok (query.deletion ++ scope filter predicate) ∧
    query.updateSql document dialect =
      .ok (query.update document dialect ++ scope filter predicate) ∧
    ∀ ids, query.selectSql ids dialect =
      .ok (query.selection ++ scope filter predicate ++ query.arrangement dialect) := by
  have clause := whereClause_of_ok compiled
  rw [← suffix_eq_scope]
  refine ⟨?_, ?_, ?_⟩
  · rw [deleteSql_eq named, set, clause]
    rfl
  · rw [updateSql_eq named filled, set, clause]
    rfl
  · intro ids
    rw [selectSql_eq named, effectiveFilter_of_some set, clause]
    rfl

theorem scope_eq_or (filter : Filter) (predicate : String) :
    scope filter predicate = " WHERE " ++ predicate ∨ scope filter predicate = "" := by
  rw [scope]
  split
  · exact Or.inr rfl
  · exact Or.inl rfl

theorem scope_eq_empty_iff (filter : Filter) (predicate : String) :
    scope filter predicate = "" ↔ filter.saysNothing = true := by
  rw [scope]
  cases filter.saysNothing with
  | true => simp
  | false => simp [String.append_eq_empty_iff]

theorem compile_idFilter (query : Query) (ids : List Value) (dialect : Dialect) :
    (query.idFilter ids).compile dialect =
        .ok (query.idColumn ++ " IN (" ++ renderList dialect ids ++ ")") ∧
      (query.idFilter ids).saysNothing = false := by
  constructor
  · have single : " AND ".intercalate [query.idColumn ++ " IN (" ++ renderList dialect ids ++ ")"] =
        query.idColumn ++ " IN (" ++ renderList dialect ids ++ ")" := by simp
    rw [← single]
    rfl
  · rfl

theorem statements_unscoped (named : Text.allBlank query.table = false)
    (filled : document.entries ≠ []) (unset : query.filter = none) :
    query.deleteSql dialect = .ok query.deletion ∧
    query.updateSql document dialect = .ok (query.update document dialect) ∧
    query.selectSql none dialect = .ok (query.selection ++ query.arrangement dialect) ∧
    ∀ ids, query.selectSql (some ids) dialect =
      .ok (query.selection ++ " WHERE " ++ query.idColumn ++ " IN (" ++ renderList dialect ids ++
        ")" ++ query.arrangement dialect) := by
  have clause : whereClause dialect none = .ok none := rfl
  have blank : suffix none = "" := rfl
  refine ⟨?_, ?_, ?_, ?_⟩
  · rw [deleteSql_eq named, unset, clause]
    simp [Except.map, blank]
  · rw [updateSql_eq named filled, unset, clause]
    simp [Except.map, blank]
  · have effective : query.effectiveFilter none = none := by simp [effectiveFilter, unset]
    rw [selectSql_eq named, effective, clause]
    simp [Except.map, blank]
  · intro ids
    have effective : query.effectiveFilter (some ids) = some (query.idFilter ids) := by
      simp [effectiveFilter, unset]
    obtain ⟨compiled, visible⟩ := compile_idFilter query ids dialect
    rw [selectSql_eq named, effective, whereClause_of_ok compiled]
    simp only [Except.map, visible, Bool.false_eq_true, if_false, suffix_where,
      String.append_assoc]

/--
Selections, updates and deletions of a query fail alike or are scoped by one clause, which is the
filter's whole predicate unless the filter says nothing. Without a filter a selection is scoped by
the given primary keys, and nothing else is scoped.
-/
theorem statements_share_scope (named : Text.allBlank query.table = false)
    (filled : document.entries ≠ []) (dialect : Dialect) :
    (∀ filter fault, query.filter = some filter → filter.compile dialect = .error fault →
      query.deleteSql dialect = .error (.filter fault) ∧
      query.updateSql document dialect = .error (.filter fault) ∧
      ∀ ids, query.selectSql ids dialect = .error (.filter fault)) ∧
    (∀ filter predicate, query.filter = some filter → filter.compile dialect = .ok predicate →
      ∃ scope, (scope = " WHERE " ++ predicate ∨ scope = "") ∧
        (scope = "" ↔ filter.saysNothing = true) ∧
        query.deleteSql dialect = .ok (query.deletion ++ scope) ∧
        query.updateSql document dialect = .ok (query.update document dialect ++ scope) ∧
        ∀ ids, query.selectSql ids dialect =
          .ok (query.selection ++ scope ++ query.arrangement dialect)) ∧
    (query.filter = none →
      query.deleteSql dialect = .ok query.deletion ∧
      query.updateSql document dialect = .ok (query.update document dialect) ∧
      query.selectSql none dialect = .ok (query.selection ++ query.arrangement dialect) ∧
      ∀ ids, query.selectSql (some ids) dialect =
        .ok (query.selection ++ " WHERE " ++ query.idColumn ++ " IN (" ++
          renderList dialect ids ++ ")" ++ query.arrangement dialect)) := by
  refine ⟨?_, ?_, ?_⟩
  · intro filter fault set failed
    exact statements_fail named filled set failed
  · intro filter predicate set compiled
    exact ⟨scope filter predicate, scope_eq_or filter predicate,
      scope_eq_empty_iff filter predicate, statements_scoped named filled set compiled⟩
  · exact statements_unscoped named filled

def closable : Filter :=
  .conjunction .or [.raw "debt > 0", .fields (.ofList [("idle", .equals (.bool true))])]

def closing : Query :=
  { ofTable "accounts" with filter := some closable }

theorem statements_share_scope_closing :
    Text.allBlank closing.table = false ∧
    (OrderedMap.ofList [("open", Value.bool false)]).entries ≠ [] ∧
    closable.compile .mysql = .ok "(debt > 0) OR (idle = true)" ∧
    ∃ scope, (scope = " WHERE (debt > 0) OR (idle = true)" ∨ scope = "") ∧
      (scope = "" ↔ closable.saysNothing = true) ∧
      closing.deleteSql .mysql = .ok ("DELETE FROM accounts" ++ scope) ∧
      closing.updateSql (.ofList [("open", .bool false)]) .mysql =
        .ok ("UPDATE accounts SET open = false" ++ scope) ∧
      ∀ ids, closing.selectSql ids .mysql = .ok ("SELECT * FROM accounts" ++ scope ++ "") := by
  have named : Text.allBlank closing.table = false := by decide
  have filled : (OrderedMap.ofList [("open", Value.bool false)]).entries ≠ [] := nofun
  have compiled : closable.compile .mysql = .ok "(debt > 0) OR (idle = true)" := rfl
  have shared := (statements_share_scope named filled .mysql).2.1
  exact ⟨named, filled, compiled, shared closable _ rfl compiled⟩

end SqlComposer.Query

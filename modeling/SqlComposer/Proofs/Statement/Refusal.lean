import SqlComposer.Proofs.Statement.Scope

/-!
When a statement cannot be made: without a table or columns, or of a filter that does not compile.
-/

namespace SqlComposer

theorem toOption_map_eq_none_iff {ε α β : Type} {result : Except ε α} {change : α → β} :
    (result.map change).toOption = none ↔ result.toOption = none := by
  cases result with
  | error error => simp [Except.map, Except.toOption]
  | ok value => simp [Except.map, Except.toOption]

namespace Query

variable {query : Query} {document : Document} {dialect : Dialect}

def IsMalformed (query : Query) (dialect : Dialect) : Prop :=
  Text.allBlank query.table = true ∨
    ∃ filter fault, query.filter = some filter ∧ filter.compile dialect = .error fault

theorem whereClause_eq_none_iff {filter : Option Filter} :
    (whereClause dialect filter).toOption = none ↔
      ∃ set fault, filter = some set ∧ set.compile dialect = .error fault := by
  cases filter with
  | none => simp [whereClause, Except.toOption]
  | some set =>
      cases compiled : set.compile dialect with
      | error fault =>
          rw [whereClause_of_error compiled]
          simp [Except.toOption, compiled]
      | ok predicate =>
          rw [whereClause_of_ok compiled]
          simp [Except.toOption, compiled]

theorem effectiveFilter_fails_iff (ids : Option (List Value)) :
    (∃ set fault, query.effectiveFilter ids = some set ∧ set.compile dialect = .error fault) ↔
      ∃ set fault, query.filter = some set ∧ set.compile dialect = .error fault := by
  cases set : query.filter with
  | some filter => rw [effectiveFilter_of_some set]
  | none =>
      cases ids with
      | none => simp [effectiveFilter, set]
      | some ids => simp [effectiveFilter, set, compile_idFilter]

theorem selectSql_eq_none_iff (ids : Option (List Value)) :
    (query.selectSql ids dialect).toOption = none ↔ query.IsMalformed dialect := by
  cases named : Text.allBlank query.table with
  | true => simp [IsMalformed, selectSql, checkTable, named, Except.toOption, bind, Except.bind]
  | false =>
      rw [selectSql_eq named, toOption_map_eq_none_iff, whereClause_eq_none_iff,
        effectiveFilter_fails_iff]
      simp [IsMalformed, named]

theorem deleteSql_eq_none_iff :
    (query.deleteSql dialect).toOption = none ↔ query.IsMalformed dialect := by
  cases named : Text.allBlank query.table with
  | true => simp [IsMalformed, deleteSql, checkTable, named, Except.toOption, bind, Except.bind]
  | false =>
      rw [deleteSql_eq named, toOption_map_eq_none_iff, whereClause_eq_none_iff]
      simp [IsMalformed, named]

theorem isEmpty_eq_true (empty : document.entries = []) : document.isEmpty = true := by
  rw [OrderedMap.isEmpty, empty]
  rfl

theorem insertSql_eq_none_iff :
    (query.insertSql document dialect).toOption = none ↔
      Text.allBlank query.table = true ∨ document.entries = [] := by
  cases named : Text.allBlank query.table with
  | true => simp [insertSql, checkTable, named, Except.toOption, bind, Except.bind]
  | false =>
      by_cases empty : document.entries = []
      · simp [insertSql, checkTable_eq_ok named, isEmpty_eq_true empty, empty, Except.toOption,
          bind, Except.bind, throw, throwThe, MonadExceptOf.throw]
      · rw [insertSql_eq named empty]
        simp [Except.toOption, empty]

theorem updateSql_eq_none_iff :
    (query.updateSql document dialect).toOption = none ↔
      query.IsMalformed dialect ∨ document.entries = [] := by
  cases named : Text.allBlank query.table with
  | true => simp [IsMalformed, updateSql, checkTable, named, Except.toOption, bind, Except.bind]
  | false =>
      by_cases empty : document.entries = []
      · simp [updateSql, checkTable_eq_ok named, isEmpty_eq_true empty, empty, Except.toOption,
          bind, Except.bind, throw, throwThe, MonadExceptOf.throw]
      · rw [updateSql_eq named empty, toOption_map_eq_none_iff, whereClause_eq_none_iff]
        simp [IsMalformed, named, empty]

end Query

end SqlComposer

import SqlComposer.Proofs.Statement.Selection

/-!
The LIMIT clause of a selection: how it is read, which rows it keeps of a result, and the
selection without it.
-/

namespace SqlComposer

open Reading

/-- The part of a result that a window shows. Without a window that is all of it. -/
def keepRows {α : Type} (window : Option (Option UInt64 × UInt64)) (rows : List α) : List α :=
  match window with
  | none => rows
  | some (offset, count) => (rows.drop (offset.getD 0).toNat).take count.toNat

/-- Reads a text as a LIMIT clause in the grammar of the dialect; there may be no clause. -/
def windowOf? (dialect : Dialect) (clause : String) : Option (Option (Option UInt64 × UInt64)) :=
  readWhole dialect (readClause ["LIMIT"] (readWindow dialect)) clause

theorem keepRows_sliceBetween {α : Type} (start stop : UInt64) (rows : List α) :
    keepRows (some (some start, (Paging.sliceBetween start stop).2)) rows =
      (rows.take stop.toNat).drop start.toNat := by
  have count : (Paging.sliceBetween start stop).2.toNat = stop.toNat - start.toNat := by
    rw [Paging.sliceBetween]
    by_cases backward : stop < start
    · have below := UInt64.lt_iff_toNat_lt.mp backward
      simp only [backward, if_true, UInt64.toNat_zero]
      omega
    · have above : start ≤ stop := UInt64.not_lt.mp backward
      simp only [backward, if_false]
      exact UInt64.toNat_sub_of_le _ _ above
  rw [keepRows, count, Option.getD_some, List.drop_take]

namespace Query

def limitClause (query : Query) (dialect : Dialect) : String :=
  suffix (Clause.limit dialect query.paging)

theorem windowOf?_limitClause (query : Query) (dialect : Dialect) :
    windowOf? dialect (query.limitClause dialect) = some query.paging.window? :=
  (reads_limit dialect query.paging).readWhole

theorem selectSql_eq_unpaged (query : Query) (ids : Option (List Value)) (dialect : Dialect) :
    query.selectSql ids dialect =
      (query.unpaged.selectSql ids dialect).map (· ++ query.limitClause dialect) := by
  cases named : Text.allBlank query.table with
  | true =>
      have refused : query.checkTable = .error .blankTable := by simp [checkTable, named]
      have refusedToo : query.unpaged.checkTable = .error .blankTable := refused
      simp only [selectSql, refused, refusedToo]
      rfl
  | false =>
      have namedToo : Text.allBlank query.unpaged.table = false := named
      have unlimited : query.unpaged.arrangement dialect = suffix (Clause.orderBy query.sort) := by
        rw [arrangement_eq]
        exact String.append_empty
      have parts : query.arrangement dialect =
          query.unpaged.arrangement dialect ++ query.limitClause dialect := by
        rw [arrangement_eq, unlimited, limitClause]
      have filter : query.unpaged.effectiveFilter ids = query.effectiveFilter ids := rfl
      have selection : query.unpaged.selection = query.selection := rfl
      rw [selectSql_eq named, selectSql_eq namedToo, filter, selection, parts]
      cases whereClause dialect (query.effectiveFilter ids) with
      | error fault => rfl
      | ok clause => simp [Except.map, String.append_assoc]

end Query

end SqlComposer

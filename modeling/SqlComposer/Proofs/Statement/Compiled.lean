import SqlComposer.Statement.Query

/-!
The statements of a query on a named table: the text of each around its WHERE clause.
-/

namespace SqlComposer

theorem intercalate_append_eq (separator : String) {front : List String}
    (nonempty : front ≠ []) (back : List String) :
    separator.intercalate (front ++ back) =
      separator.intercalate front ++ String.join (back.map (separator ++ ·)) := by
  induction back generalizing front with
  | nil => simp
  | cons part back ih =>
      have moved : front ++ part :: back = (front ++ [part]) ++ back := by simp
      rw [moved, ih (by simp), String.intercalate_append_of_ne_nil nonempty (by simp)]
      simp [String.append_assoc]

namespace Query

variable {query : Query} {document : Document} {dialect : Dialect}

def suffix (clause : Option String) : String :=
  String.join (clause.toList.map (" " ++ ·))

def insertion (query : Query) (document : Document) (dialect : Dialect) : String :=
  "INSERT INTO " ++ query.table ++ " (" ++ ",".intercalate document.names ++ ") VALUES (" ++
    renderList dialect (document.entries.map Prod.snd) ++ ")"

def selection (query : Query) : String :=
  " ".intercalate query.sources

def arrangement (query : Query) (dialect : Dialect) : String :=
  String.join ((query.ordering dialect).map (" " ++ ·))

def assignments (document : Document) (dialect : Dialect) : List String :=
  document.entries.map fun entry => entry.1 ++ " = " ++ entry.2.render dialect

def update (query : Query) (document : Document) (dialect : Dialect) : String :=
  "UPDATE " ++ query.table ++ " SET " ++ ", ".intercalate (assignments document dialect)

def deletion (query : Query) : String :=
  "DELETE FROM " ++ query.table

theorem checkTable_eq_ok (named : Text.allBlank query.table = false) :
    query.checkTable = .ok () := by
  simp [checkTable, named]

theorem isEmpty_eq_false (filled : document.entries ≠ []) : document.isEmpty = false := by
  rw [OrderedMap.isEmpty, List.isEmpty_eq_false_iff]
  exact filled

theorem intercalate_part (part : String) (clause : Option String) :
    " ".intercalate (part :: clause.toList) = part ++ suffix clause := by
  have joined := intercalate_append_eq " " (List.cons_ne_nil part []) clause.toList
  simpa [suffix] using joined

theorem insertSql_eq (named : Text.allBlank query.table = false)
    (filled : document.entries ≠ []) :
    query.insertSql document dialect =
      .ok (query.insertion document dialect ++ suffix dialect.returning?) := by
  rw [← intercalate_part]
  simp only [insertSql, checkTable_eq_ok named, isEmpty_eq_false filled, Bool.false_eq_true,
    if_false]
  rfl

theorem selectSql_eq (named : Text.allBlank query.table = false) (ids : Option (List Value)) :
    query.selectSql ids dialect =
      (whereClause dialect (query.effectiveFilter ids)).map fun clause =>
        query.selection ++ suffix clause ++ query.arrangement dialect := by
  have nonempty : query.sources ≠ [] := by simp [sources]
  have parts : ∀ clause : Option String,
      " ".intercalate (query.sources ++ clause.toList ++ query.ordering dialect) =
        query.selection ++ suffix clause ++ query.arrangement dialect := by
    intro clause
    rw [intercalate_append_eq " " (by simp [nonempty]), intercalate_append_eq " " nonempty]
    rfl
  simp only [selectSql, checkTable_eq_ok named, parts]
  rfl

theorem updateSql_eq (named : Text.allBlank query.table = false)
    (filled : document.entries ≠ []) :
    query.updateSql document dialect =
      (whereClause dialect query.filter).map fun clause =>
        query.update document dialect ++ suffix clause := by
  simp only [updateSql, checkTable_eq_ok named, isEmpty_eq_false filled, Bool.false_eq_true,
    if_false, intercalate_part]
  rfl

theorem deleteSql_eq (named : Text.allBlank query.table = false) :
    query.deleteSql dialect =
      (whereClause dialect query.filter).map fun clause => query.deletion ++ suffix clause := by
  simp only [deleteSql, checkTable_eq_ok named, intercalate_part]
  rfl

end Query

end SqlComposer

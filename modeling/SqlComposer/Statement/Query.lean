import SqlComposer.Filter.Compile
import SqlComposer.Record.Document
import SqlComposer.Statement.Clause

/-!
Queries on one table, and the four statements that can be made from one. Selections, updates and
deletions share the WHERE clause of the query's filter.
-/

namespace SqlComposer

structure Query where
  table : String
  leftJoins : List Join
  rightJoins : List Join
  joins : List Join
  filter : Option Filter
  fields : List String
  sort : List SortKey
  paging : Paging
  idColumn : String

inductive StatementFault where
  | blankTable
  | emptyInsert
  | emptyUpdate
  | filter (fault : FilterFault)
deriving DecidableEq, Repr

def StatementFault.message : StatementFault → String
  | .blankTable => "empty table"
  | .emptyInsert => "insert: empty document"
  | .emptyUpdate => "update: empty document"
  | .filter fault => fault.message

namespace Query

def ofTable (table : String) : Query where
  table := table
  leftJoins := []
  rightJoins := []
  joins := []
  filter := none
  fields := ["*"]
  sort := []
  paging := .all
  idColumn := "id"

def unpaged (query : Query) : Query :=
  { query with paging := .all }

def checkTable (query : Query) : Except StatementFault Unit :=
  if Text.allBlank query.table then .error .blankTable else .ok ()

def whereClause (dialect : Dialect) (filter : Option Filter) :
    Except StatementFault (Option String) :=
  match filter with
  | none => .ok none
  | some filter => (filter.whereClause dialect).mapError .filter

def idFilter (query : Query) (ids : List Value) : Filter :=
  .fields (OrderedMap.empty.set query.idColumn (.oneOf ids))

def effectiveFilter (query : Query) (ids : Option (List Value)) : Option Filter :=
  query.filter.or (ids.map query.idFilter)

def sources (query : Query) : List String :=
  [Clause.select query.fields, "FROM " ++ query.table] ++
    (Clause.join .left query.leftJoins).toList ++
    (Clause.join .right query.rightJoins).toList ++
    (Clause.join .inner query.joins).toList

def ordering (dialect : Dialect) (query : Query) : List String :=
  (Clause.orderBy query.sort).toList ++ (Clause.limit dialect query.paging).toList

def selectSql (query : Query) (ids : Option (List Value)) (dialect : Dialect) :
    Except StatementFault String := do
  query.checkTable
  let condition ← whereClause dialect (query.effectiveFilter ids)
  return " ".intercalate (query.sources ++ condition.toList ++ query.ordering dialect)

def insertSql (query : Query) (document : Document) (dialect : Dialect) :
    Except StatementFault String := do
  query.checkTable
  if document.isEmpty then throw .emptyInsert
  let columns := ",".intercalate document.names
  let values := renderList dialect (document.entries.map Prod.snd)
  let insertion :=
    "INSERT INTO " ++ query.table ++ " (" ++ columns ++ ") VALUES (" ++ values ++ ")"
  return " ".intercalate (insertion :: dialect.returning?.toList)

def updateSql (query : Query) (document : Document) (dialect : Dialect) :
    Except StatementFault String := do
  query.checkTable
  if document.isEmpty then throw .emptyUpdate
  let assignments := document.entries.map fun entry =>
    entry.1 ++ " = " ++ entry.2.render dialect
  let update := "UPDATE " ++ query.table ++ " SET " ++ ", ".intercalate assignments
  return " ".intercalate (update :: (← whereClause dialect query.filter).toList)

/-- Without a filter this deletes every row of the table. -/
def deleteSql (query : Query) (dialect : Dialect) : Except StatementFault String := do
  query.checkTable
  let deletion := "DELETE FROM " ++ query.table
  return " ".intercalate (deletion :: (← whereClause dialect query.filter).toList)

end Query

end SqlComposer

import SqlComposer.Session.Router
import SqlComposer.Statement.Query

/-!
Queries bound to a router. Recording a setting replaces the earlier one; nothing is checked or
run before one of the calls at the end of this file, each of which runs one statement.
-/

namespace SqlComposer

namespace Query

def joinLeft (query : Query) (tables : List Join) : Query :=
  { query with leftJoins := tables }

def joinRight (query : Query) (tables : List Join) : Query :=
  { query with rightJoins := tables }

def joinInner (query : Query) (tables : List Join) : Query :=
  { query with joins := tables }

def filterBy (query : Query) (filter : Filter) : Query :=
  { query with filter := some filter }

def sortBy (query : Query) (keys : List SortKey) : Query :=
  { query with sort := keys }

/-- Rows to leave out at the front, if a limit is set as well. -/
def skip (query : Query) (count : UInt64) : Query :=
  { query with paging := { query.paging with skip := some count } }

/-- At most so many rows; zero is no limit. -/
def limit (query : Query) (count : UInt64) : Query :=
  { query with paging := { query.paging with size := some count } }

def slice (query : Query) (start stop : UInt64) : Query :=
  { query with paging := { query.paging with slice := some (Paging.sliceBetween start stop) } }

def select (query : Query) (fields : List String) : Query :=
  { query with fields := fields }

def identifyBy (query : Query) (column : String) : Query :=
  { query with idColumn := column }

end Query

structure TableQuery where
  router : Router
  query : Query

def Router.table (router : Router) (name : String) : Except SqlError TableQuery :=
  if Text.allBlank name then .error (.validation StatementFault.blankTable.message)
  else .ok ⟨router, .ofTable name⟩

namespace TableQuery

def map (change : Query → Query) (target : TableQuery) : TableQuery :=
  { target with query := change target.query }

variable {σ κ : Type} [Pool σ κ]

def compile (statement : Dialect → Except StatementFault String) : Call σ String := do
  let dialect ← Call.dialect (σ := σ)
  Call.ofExcept (fun fault => .validation fault.message) (statement dialect)

def selectSql (target : TableQuery) : Call σ String :=
  compile (target.query.selectSql none)

def insertSql (target : TableQuery) (document : Document) : Call σ String :=
  compile (target.query.insertSql document)

def updateSql (target : TableQuery) (document : Document) : Call σ String :=
  compile (target.query.updateSql document)

def deleteSql (target : TableQuery) : Call σ String :=
  compile target.query.deleteSql

def fetch (target : TableQuery) (ids : Option (List Value)) : Call σ (List Row) := do
  let sql ← compile (target.query.selectSql ids)
  return (← target.router.execute "find" sql).toRows

def all (target : TableQuery) : Call σ (List Row) :=
  target.fetch none

/-- The rows with the given primary keys, unless a filter is set, which wins. -/
def allByIds (target : TableQuery) (ids : List Value) : Call σ (List Row) :=
  target.fetch (some ids)

def first (target : TableQuery) : Call σ (Option Row) := do
  return (← target.fetch none).head?

def byId (target : TableQuery) (id : Value) : Call σ (Option Row) := do
  return (← target.fetch (some [id])).head?

def allAs {α : Type} (read : Row → Except SqlError α) (target : TableQuery) :
    Call σ (List α) := do
  let rows ← target.all
  Call.ofExcept id (rows.mapM read)

def firstAs {α : Type} (read : Row → Except SqlError α) (target : TableQuery) :
    Call σ (Option α) := do
  match ← target.first with
  | none => return none
  | some row => some <$> Call.ofExcept id (read row)

/-- How many rows match, whatever part of them is recorded. All of them are fetched. -/
def count (target : TableQuery) : Call σ UInt64 := do
  let sql ← compile (target.query.unpaged.selectSql none)
  return UInt64.ofNat (← target.router.execute "count" sql).toRows.length

def insertedIdentity (idColumn : String) : Output → Except SqlError (Option UInt64)
  | .done _ identity => .ok identity
  | .rows found =>
    match found.head?.bind (·.get? idColumn) with
    | none => .ok none
    | some value =>
      match Reader.optional (Reader.integer .uint64) value with
      | .ok identity => .ok (identity.map fun number => UInt64.ofNat number.toNat)
      | .error fault => .error (.decode idColumn fault.message)

def insert (target : TableQuery) (document : Document) : Call σ (Option UInt64) := do
  let sql ← target.insertSql document
  let output ← target.router.execute "insert" sql
  Call.ofExcept id (insertedIdentity target.query.idColumn output)

def update (target : TableQuery) (document : Document) : Call σ UInt64 := do
  let sql ← target.updateSql document
  return (← target.router.execute "update" sql).affectedRows

def remove (target : TableQuery) : Call σ UInt64 := do
  let sql ← target.deleteSql
  return (← target.router.execute "remove" sql).affectedRows

end TableQuery

end SqlComposer

import SqlComposer.Session.Pool

/-!
Routers send statements to one group of nodes. Every statement has a connection of its own, with
the router's database selected on it, and the connection is released as soon as the statement
has ended, well or not.
-/

namespace SqlComposer

structure Router where
  group : Group
  database : Option String
deriving DecidableEq, Repr

namespace Router

def withDatabase (router : Router) (database : String) : Router :=
  { router with database := if database.isEmpty then none else some database }

def outline (router : Router) : String :=
  Outline.openRecord "Router"
    [("group", router.group.outline),
     ("database", Outline.optional Outline.text router.database)]

variable {σ κ : Type} [Pool σ κ]

/-- Acquires a connection with the database selected. The caller has to release it. -/
def connect (router : Router) : Call σ κ := do
  Call.record (.acquiring router.group)
  match ← Call.acquire (σ := σ) router.group with
  | .error error =>
    throw (.connection ("connect " ++ router.group.name ++ ": " ++ error.message))
  | .ok connection =>
    match router.database with
    | none => return connection
    | some database =>
      let sql := (← Call.dialect (σ := σ)).selectDatabase database
      Call.record (.started router.group sql)
      match ← Call.send (σ := σ) sql connection with
      | (.ok _, connection) => return connection
      | (.error error, connection) =>
        Call.release connection
        let failure := SqlError.databaseSelect error.message sql
        Call.record (.failed router.group sql failure.text)
        throw failure

def execute (router : Router) (context sql : String) : Call σ Output := do
  let connection ← router.connect
  Call.record (.started router.group sql)
  let (result, connection) ← Call.send (σ := σ) sql connection
  Call.release connection
  match result with
  | .ok output =>
    Call.record (.finished router.group sql output.affectedRows)
    return output
  | .error error =>
    let failure := SqlError.query (context ++ ": " ++ error.message) sql
    Call.record (.failed router.group sql failure.text)
    throw failure

def query (router : Router) (sql : String) : Call σ Output := do
  if Text.allBlank sql then throw (.validation "query SQL must be a non-empty string")
  router.execute "query" sql

def firstColumn (rows : List Row) : Except SqlError (List String) :=
  rows.mapM fun row =>
    let column := row.columns.head?.getD "0"
    match row.at? 0 with
    | none => .error (.decode column "empty row")
    | some value => (Reader.text value).mapError fun fault => .decode column fault.message

def databases (router : Router) : Call σ (List String) := do
  let sql := (← Call.dialect (σ := σ)).databaseList
  let output ← router.execute "list databases" sql
  Call.ofExcept id (firstColumn output.toRows)

def tables (router : Router) : Call σ (List String) := do
  let sql := (← Call.dialect (σ := σ)).tableList
  let output ← router.execute "list tables" sql
  Call.ofExcept id (firstColumn output.toRows)

def runEach (router : Router) (statements : List String) :
    Call σ (List (Except DriverError Output)) := do
  let connection ← router.connect
  let rec go : List String → κ → Call σ (List (Except DriverError Output) × κ)
    | [], connection => return ([], connection)
    | sql :: rest, connection => do
      let (result, connection) ← Call.send (σ := σ) sql connection
      let (results, connection) ← go rest connection
      return (result :: results, connection)
  let (results, connection) ← go statements connection
  Call.release connection
  return results

end Router

end SqlComposer

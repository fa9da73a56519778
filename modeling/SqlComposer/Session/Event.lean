import SqlComposer.Statement.Kind

/-!
What a session logs about its connections and statements. Long statements are cut.
-/

namespace SqlComposer

inductive Group where
  | master
  | replicas
deriving DecidableEq, Repr

namespace Group

def name : Group → String
  | .master => "MASTER"
  | .replicas => "SLAVE*"

def outline : Group → String
  | .master => "Master"
  | .replicas => "AllSlaves"

end Group

/-- The last place between two characters that is not behind the given one. -/
def lastBoundary (sql : String) : (place : Nat) → Nat
  | 0 => 0
  | place + 1 =>
    if String.Pos.Raw.isValid sql ⟨place + 1⟩ then place + 1 else lastBoundary sql place

def truncate (limit : Nat) (sql : String) : String :=
  if sql.utf8ByteSize ≤ limit then sql
  else String.Pos.Raw.extract sql 0 ⟨lastBoundary sql limit⟩

def loggedBytes : Nat := 200

def loggedSql (sql : String) : String :=
  if loggedBytes < sql.utf8ByteSize then truncate loggedBytes sql ++ "..." else sql

inductive Event where
  | acquiring (group : Group)
  | started (group : Group) (sql : String)
  | finished (group : Group) (sql : String) (rows : UInt64)
  | failed (group : Group) (sql error : String)
  | clusterCreated (replicas connections : Nat)
deriving DecidableEq, Repr

namespace Event

def level : Event → String
  | .acquiring _ => "TRACE"
  | .started _ _ => "DEBUG"
  | .finished _ _ _ => "TRACE"
  | .failed _ _ _ => "WARN"
  | .clusterCreated _ _ => "DEBUG"

def fields : Event → List (String × String)
  | .acquiring group => [("message", "acquiring connection"), ("group", group.name)]
  | .started group sql =>
    [("query_type", (StatementKind.ofSql sql).name), ("group", group.name),
      ("sql", loggedSql sql)]
  | .finished group sql rows =>
    [("message", "query complete"), ("query_type", (StatementKind.ofSql sql).name),
      ("group", group.name), ("rows", rows.toNat.repr)]
  | .failed group sql error =>
    [("group", group.name), ("sql", loggedSql sql), ("error", error)]
  | .clusterCreated replicas connections =>
    [("message", "cluster created"), ("replicas", replicas.repr),
      ("max_size", connections.repr)]

end Event

end SqlComposer

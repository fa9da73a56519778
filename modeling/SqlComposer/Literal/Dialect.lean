/-!
The two SQL dialects and the statements that differ between them.
-/

namespace SqlComposer

inductive Dialect where
  | mysql
  | postgres
deriving DecidableEq, Repr

namespace Dialect

instance : Inhabited Dialect := ⟨.mysql⟩

def name : Dialect → String
  | .mysql => "mysql"
  | .postgres => "postgres"

def limit (dialect : Dialect) (offset : Option UInt64) (count : UInt64) : String :=
  match dialect, offset with
  | _, none => "LIMIT " ++ count.toNat.repr
  | .mysql, some offset => "LIMIT " ++ offset.toNat.repr ++ "," ++ count.toNat.repr
  | .postgres, some offset => "LIMIT " ++ count.toNat.repr ++ " OFFSET " ++ offset.toNat.repr

def selectDatabase : Dialect → String → String
  | .mysql, database => "USE " ++ database
  | .postgres, database => "SET search_path TO " ++ database

def databaseList : Dialect → String
  | .mysql => "SHOW DATABASES"
  | .postgres => "SELECT datname FROM pg_database WHERE NOT datistemplate"

def tableList : Dialect → String
  | .mysql => "SHOW TABLES"
  | .postgres => "SELECT tablename FROM pg_tables WHERE schemaname = current_schema()"

def returning? : Dialect → Option String
  | .mysql => none
  | .postgres => some "RETURNING *"

end Dialect

end SqlComposer

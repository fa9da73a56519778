import SqlComposer.Error
import SqlComposer.Record.Reader

/-!
Rows of a result. A row may have fewer values than columns: the values at its end read as null.
Values without a column are not read.
-/

namespace SqlComposer

structure Row where
  columns : List String
  values : List Value
deriving DecidableEq

namespace Row

def ofCells (cells : List (String × Value)) : Row :=
  ⟨cells.map Prod.fst, cells.map Prod.snd⟩

def size (row : Row) : Nat :=
  row.columns.length

def isEmpty (row : Row) : Bool :=
  row.columns.isEmpty

def get? (row : Row) (column : String) : Option Value :=
  (row.columns.findIdx? (· == column)).map fun place => row.values.getD place .null

def at? (row : Row) (place : Nat) : Option Value :=
  if row.columns.length ≤ place then none else some (row.values.getD place .null)

def read {α : Type} (reader : Reader α) (row : Row) (column : String) : Except SqlError α :=
  match row.get? column with
  | none => .error (.decode column "no such column")
  | some value => (reader value).mapError fun fault => .decode column fault.message

/-- The row as a JSON object, a repeated column in its first place with its last value. -/
def toJson (row : Row) : Json :=
  .object (assignAll (row.columns.mapIdx fun place column =>
    (column, (row.values.getD place .null).toJson)))

def cells (row : Row) : List (String × Value) :=
  row.columns.mapIdx fun place column => (column, row.values.getD place .null)

end Row

end SqlComposer

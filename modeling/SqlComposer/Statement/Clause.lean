import SqlComposer.Literal.Dialect

/-!
The clauses of a selection besides its WHERE clause. An empty list has no clause.
-/

namespace SqlComposer

structure Join where
  table : String
  on : String
deriving DecidableEq, Repr

inductive JoinKind where
  | left
  | right
  | inner
deriving DecidableEq, Repr

def JoinKind.keyword : JoinKind → String
  | .left => "LEFT JOIN"
  | .right => "RIGHT JOIN"
  | .inner => "JOIN"

inductive SortOrder where
  | ascending
  | descending
deriving DecidableEq, Repr

namespace SortOrder

/-- Minus one asks for the descending order, any other number for the ascending one. -/
def ofSign (sign : Int) : SortOrder :=
  if sign = -1 then .descending else .ascending

def keyword : SortOrder → String
  | .ascending => "ASC"
  | .descending => "DESC"

end SortOrder

abbrev SortKey := String × SortOrder

structure Paging where
  skip : Option UInt64
  size : Option UInt64
  /-- A first row and a count, which win over `skip` and `size`. -/
  slice : Option (UInt64 × UInt64)
deriving DecidableEq, Repr

namespace Paging

def all : Paging := ⟨none, none, none⟩

/-- The offset and the count of the rows, if the count is bounded. A size of zero is no bound. -/
def window? (paging : Paging) : Option (Option UInt64 × UInt64) :=
  match paging.slice, paging.size with
  | some (start, count), _ => some (some start, count)
  | none, some size => if size = 0 then none else some (paging.skip, size)
  | none, none => none

def sliceBetween (start stop : UInt64) : UInt64 × UInt64 :=
  (start, if stop < start then 0 else stop - start)

end Paging

namespace Clause

def select (fields : List String) : String :=
  "SELECT " ++ if fields.isEmpty then "*" else ",".intercalate fields

def join (kind : JoinKind) (joins : List Join) : Option String :=
  if joins.isEmpty then none
  else some (" ".intercalate (joins.map fun join =>
    kind.keyword ++ " " ++ join.table ++ " ON " ++ join.on))

def orderBy (keys : List SortKey) : Option String :=
  if keys.isEmpty then none
  else some ("ORDER BY " ++
    ", ".intercalate (keys.map fun key => key.1 ++ " " ++ key.2.keyword))

def limit (dialect : Dialect) (paging : Paging) : Option String :=
  paging.window?.map fun (offset, count) => dialect.limit offset count

end Clause

end SqlComposer

import SqlComposer.Filter.Basic
import SqlComposer.Literal.Rendering

/-!
The predicate that a filter stands for, and the WHERE clause around it. Terms of a conjunction
are parenthesized; conditions on fields are joined by `AND` as they are.
-/

namespace SqlComposer

namespace Connective

def separator : Connective → String
  | .and => " AND "
  | .or => " OR "

end Connective

inductive FilterFault where
  | noTerms
  | blankTerm
  | boundCount (field : String) (count : Nat)
  | noBounds (field : String)
deriving DecidableEq, Repr

def FilterFault.message : FilterFault → String
  | .noTerms => "conjunction must have at least one term"
  | .blankTerm => "conjunction term compiles to an empty predicate"
  | .boundCount field count =>
    "BETWEEN on `" ++ field ++ "` needs exactly 2 bounds, got " ++ count.repr
  | .noBounds field => "range on `" ++ field ++ "` has no bounds"

def Bound.lowerOperator (bound : Bound) : String :=
  if bound.inclusive then ">=" else ">"

def Bound.upperOperator (bound : Bound) : String :=
  if bound.inclusive then "<=" else "<"

namespace Bounds

def comparisons (bounds : Bounds) (dialect : Dialect) (field : String) : List String :=
  (bounds.lower.map fun bound =>
    field ++ " " ++ bound.lowerOperator ++ " " ++ bound.value.render dialect).toList ++
  (bounds.upper.map fun bound =>
    field ++ " " ++ bound.upperOperator ++ " " ++ bound.value.render dialect).toList

end Bounds

def renderList (dialect : Dialect) (values : List Value) : String :=
  ",".intercalate (values.map (Value.render dialect))

namespace Condition

def compile (dialect : Dialect) (field : String) : Condition → Except FilterFault String
  | .equals value => .ok (field ++ " = " ++ value.render dialect)
  | .identical value => .ok (field ++ " = " ++ value.render dialect)
  | .like pattern => .ok (field ++ " LIKE " ++ pattern.render dialect)
  | .sql text => .ok (field ++ " " ++ text)
  | .oneOf values => .ok (field ++ " IN (" ++ renderList dialect values ++ ")")
  | .between [low, high] =>
    .ok (field ++ " BETWEEN " ++ low.render dialect ++ " AND " ++ high.render dialect)
  | .between values => .error (.boundCount field values.length)
  | .within bounds =>
    match bounds.comparisons dialect field with
    | [] => .error (.noBounds field)
    | comparisons => .ok (" AND ".intercalate comparisons)

end Condition

namespace FieldMap

def compile (dialect : Dialect) (conditions : FieldMap) : Except FilterFault String :=
  (conditions.entries.mapM fun (entry : String × Condition) =>
    entry.2.compile dialect entry.1).map (" AND ".intercalate ·)

end FieldMap

namespace Filter

mutual

def compile (dialect : Dialect) : Filter → Except FilterFault String
  | .raw sql => .ok sql
  | .predicate sql => .ok sql
  | .conjunction _ [] => .error .noTerms
  | .conjunction connective terms =>
    (compileTerms dialect terms).map (connective.separator.intercalate ·)
  | .fields conditions => FieldMap.compile dialect conditions

/-- Each term in parentheses; a term must have something to put there. -/
def compileTerms (dialect : Dialect) : List Filter → Except FilterFault (List String)
  | [] => .ok []
  | term :: terms => do
    let sql ← compile dialect term
    if Text.allBlank sql then throw .blankTerm
    let others ← compileTerms dialect terms
    return ("(" ++ sql ++ ")") :: others

end

/-- The WHERE clause of a filter; a predicate of blanks has none. -/
def whereClause (dialect : Dialect) (filter : Filter) : Except FilterFault (Option String) := do
  let predicate ← filter.compile dialect
  return if Text.allBlank predicate then none else some ("WHERE " ++ predicate)

end Filter

end SqlComposer

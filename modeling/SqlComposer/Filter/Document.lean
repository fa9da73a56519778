import SqlComposer.Error
import SqlComposer.Filter.Basic
import SqlComposer.Json.Writing

/-!
Filters written as JSON documents. A text is SQL. An object with the only key `$and` or `$or`
joins the filters of an array. Any other object has a condition under each field: a scalar, or an
object of operators, of which only bounds may stand together.
-/

namespace SqlComposer

inductive FilterDocumentFault where
  | notFilter (got : Json)
  | mixedConnective (key : String)
  | termsNotArray (key : String)
  | unknownKey (key : String)
  | arrayCondition (field : String)
  | twoLower (field : String)
  | twoUpper (field : String)
  | sqlNotText (field : String)
  | valuesNotArray (field operator : String)
  | unknownOperator (field operator : String)
  | conflict (field : String)
  | noOperator (field : String)
deriving DecidableEq

def FilterDocumentFault.message : FilterDocumentFault → String
  | .notFilter got => "filter must be a string or an object, got " ++ got.compact
  | .mixedConnective key => "`" ++ key ++ "` cannot be mixed with other keys in the same object"
  | .termsNotArray key => "`" ++ key ++ "` expects an array"
  | .unknownKey key => "unknown filter operator `" ++ key ++ "`"
  | .arrayCondition field =>
    "`" ++ field ++ "`: arrays are only valid under `$in` or `$between`"
  | .twoLower field => "`" ++ field ++ "`: `$gt` and `$gte` are mutually exclusive"
  | .twoUpper field => "`" ++ field ++ "`: `$lt` and `$lte` are mutually exclusive"
  | .sqlNotText field => "`" ++ field ++ "`: `$sql` expects a string"
  | .valuesNotArray field operator =>
    "`" ++ field ++ "`: `" ++ operator ++ "` expects an array"
  | .unknownOperator field operator =>
    "`" ++ field ++ "`: unknown filter operator `" ++ operator ++ "`"
  | .conflict field =>
    "`" ++ field ++ "`: conflicting operators; only range bounds may be combined"
  | .noOperator field => "`" ++ field ++ "`: empty operator object"

/-- The operators of one field read so far: bounds, and at most one other. -/
structure Operators where
  bounds : Bounds
  single : Option Condition

namespace Operators

def none : Operators := ⟨.none, .none⟩

def hasBound (operators : Operators) : Bool :=
  operators.bounds.lower.isSome || operators.bounds.upper.isSome

def addLower (field : String) (bounds : Bounds → Bounds) (operators : Operators) :
    Except FilterDocumentFault Operators :=
  if operators.bounds.lower.isSome then .error (.twoLower field)
  else .ok { operators with bounds := bounds operators.bounds }

def addUpper (field : String) (bounds : Bounds → Bounds) (operators : Operators) :
    Except FilterDocumentFault Operators :=
  if operators.bounds.upper.isSome then .error (.twoUpper field)
  else .ok { operators with bounds := bounds operators.bounds }

def addSingle (field : String) (condition : Condition) (operators : Operators) :
    Except FilterDocumentFault Operators :=
  if operators.single.isSome then .error (.conflict field)
  else .ok { operators with single := some condition }

def readValues (field operator : String) : Json → Except FilterDocumentFault (List Value)
  | .array items => .ok (items.map Value.ofJson)
  | _ => .error (.valuesNotArray field operator)

def add (field : String) (operators : Operators) (entry : String × Json) :
    Except FilterDocumentFault Operators :=
  let (operator, argument) := entry
  match operator with
  | "$gt" => operators.addLower field (·.above (Value.ofJson argument))
  | "$gte" => operators.addLower field (·.atLeast (Value.ofJson argument))
  | "$lt" => operators.addUpper field (·.below (Value.ofJson argument))
  | "$lte" => operators.addUpper field (·.atMost (Value.ofJson argument))
  | "$like" => operators.addSingle field (.like (Value.ofJson argument))
  | "$eq" => operators.addSingle field (.identical (Value.ofJson argument))
  | "$sql" => match argument with
    | .string sql => operators.addSingle field (.sql sql)
    | _ => .error (.sqlNotText field)
  | "$in" => do operators.addSingle field (.oneOf (← readValues field operator argument))
  | "$between" => do operators.addSingle field (.between (← readValues field operator argument))
  | other => .error (.unknownOperator field other)

def toCondition (field : String) (operators : Operators) :
    Except FilterDocumentFault Condition :=
  match operators.single, operators.hasBound with
  | some _, true => .error (.conflict field)
  | some condition, false => .ok condition
  | .none, true => .ok (.within operators.bounds)
  | .none, false => .error (.noOperator field)

end Operators

namespace Condition

def ofJson (field : String) : Json → Except FilterDocumentFault Condition
  | .object members => do
    (← members.foldlM (Operators.add field) Operators.none).toCondition field
  | .array _ => .error (.arrayCondition field)
  | scalar => .ok (.equals (Value.ofJson scalar))

end Condition

namespace FieldMap

def addMember (conditions : FieldMap) (member : String × Json) :
    Except FilterDocumentFault FieldMap :=
  if member.1.toList.head? = some '$' then .error (.unknownKey member.1)
  else do return conditions.set member.1 (← Condition.ofJson member.1 member.2)

def ofMembers (members : List (String × Json)) : Except FilterDocumentFault FieldMap :=
  members.foldlM addMember OrderedMap.empty

end FieldMap

def Connective.ofKey? : String → Option Connective
  | "$and" => some .and
  | "$or" => some .or
  | _ => none

namespace Filter

/-- An object that is not the join of an array: fields, unless a connective is among the keys. -/
def ofMembers (members : List (String × Json)) : Except FilterDocumentFault Filter :=
  if "$and" ∈ members.map Prod.fst then .error (.mixedConnective "$and")
  else if "$or" ∈ members.map Prod.fst then .error (.mixedConnective "$or")
  else (FieldMap.ofMembers members).map .fields

mutual

def ofJson : Json → Except FilterDocumentFault Filter
  | .string sql => .ok (.raw sql)
  | .object [(key, value)] =>
    match Connective.ofKey? key with
    | some connective => match value with
      | .array items => (ofItems items).map (.conjunction connective)
      | _ => .error (.termsNotArray key)
    | none => ofMembers [(key, value)]
  | .object members => ofMembers members
  | other => .error (.notFilter other)

def ofItems : List Json → Except FilterDocumentFault (List Filter)
  | [] => .ok []
  | item :: items => do
    let term ← ofJson item
    let terms ← ofItems items
    return term :: terms

end

def read (document : Json) : Except SqlError Filter :=
  (ofJson document).mapError fun fault => .validation fault.message

end Filter

end SqlComposer

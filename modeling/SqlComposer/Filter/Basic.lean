import SqlComposer.Literal.Value
import SqlComposer.OrderedMap

/-!
Filters: what a WHERE clause is made from. A filter is SQL as it stands, several filters joined
by one connective, or conditions on named fields.
-/

namespace SqlComposer

structure Bound where
  value : Value
  inclusive : Bool
deriving DecidableEq

structure Bounds where
  lower : Option Bound
  upper : Option Bound
deriving DecidableEq

namespace Bounds

def none : Bounds := ⟨.none, .none⟩

def above (bounds : Bounds) (value : Value) : Bounds :=
  { bounds with lower := some ⟨value, false⟩ }

def atLeast (bounds : Bounds) (value : Value) : Bounds :=
  { bounds with lower := some ⟨value, true⟩ }

def below (bounds : Bounds) (value : Value) : Bounds :=
  { bounds with upper := some ⟨value, false⟩ }

def atMost (bounds : Bounds) (value : Value) : Bounds :=
  { bounds with upper := some ⟨value, true⟩ }

end Bounds

inductive Condition where
  | equals (value : Value)
  | like (pattern : Value)
  | sql (text : String)
  | oneOf (values : List Value)
  /-- Meant for two bounds; any other number is refused when it is compiled. -/
  | between (values : List Value)
  | within (bounds : Bounds)
  | identical (value : Value)
deriving DecidableEq

abbrev FieldMap := OrderedMap Condition

inductive Connective where
  | and
  | or
deriving DecidableEq, Repr

inductive Filter where
  | raw (sql : String)
  /-- SQL that the caller's own function has made. -/
  | predicate (sql : String)
  | conjunction (connective : Connective) (terms : List Filter)
  | fields (conditions : FieldMap)

instance : Inhabited Filter := ⟨.raw ""⟩

end SqlComposer

import SqlComposer.Filter.Basic
import SqlComposer.Literal.Outline

/-!
Outlines of filters.
-/

namespace SqlComposer

def Bound.outline (bound : Bound) : String :=
  Outline.record "Bound" [("value", bound.value.outline), ("inclusive", toString bound.inclusive)]

def Bounds.outline (bounds : Bounds) : String :=
  Outline.record "Range"
    [("lower", Outline.optional Bound.outline bounds.lower),
     ("upper", Outline.optional Bound.outline bounds.upper)]

def Condition.outline : Condition → String
  | .equals value => Outline.variant "Equals" [value.outline]
  | .like pattern => Outline.variant "Like" [pattern.outline]
  | .sql text => Outline.variant "RawSql" [Outline.text text]
  | .oneOf values => Outline.variant "In" [Outline.list (values.map Value.outline)]
  | .between values => Outline.variant "Between" [Outline.list (values.map Value.outline)]
  | .within bounds => Outline.variant "Range" [bounds.outline]
  | .identical value => Outline.variant "ExplicitEq" [value.outline]

def FieldMap.outline (conditions : FieldMap) : String :=
  Outline.record "FieldMap"
    [("entries", Outline.list (conditions.entries.map fun (field, condition) =>
      Outline.variant "" [Outline.text field, condition.outline]))]

def Connective.outline : Connective → String
  | .and => "And"
  | .or => "Or"

namespace Filter

mutual

def outline : Filter → String
  | .raw sql => Outline.variant "Raw" [Outline.text sql]
  | .predicate _ => Outline.variant "Predicate" [Outline.variant "Predicate" [".."]]
  | .conjunction connective terms =>
    Outline.record "Conjunction"
      [("logic", connective.outline), ("terms", Outline.list (outlineTerms terms))]
  | .fields conditions => Outline.variant "Fields" [conditions.outline]

def outlineTerms : List Filter → List String
  | [] => []
  | term :: terms => term.outline :: outlineTerms terms

end

end Filter

end SqlComposer

import SqlComposer.Filter.Outline
import SqlComposer.Session.TableQuery

/-!
Outlines of queries and of what they are made of.
-/

namespace SqlComposer

def Join.outline (join : Join) : String :=
  Outline.record "Join" [("table", Outline.text join.table), ("on", Outline.text join.on)]

def SortOrder.outline : SortOrder → String
  | .ascending => "Asc"
  | .descending => "Desc"

def Paging.outline (paging : Paging) : String :=
  let number (n : UInt64) := n.toNat.repr
  Outline.record "Paging"
    [("skip", Outline.optional number paging.skip),
     ("size", Outline.optional number paging.size),
     ("slice", Outline.optional
       (fun (start, count) => Outline.variant "" [number start, number count]) paging.slice)]

def Query.outline (query : Query) : String :=
  let joins (tables : List Join) := Outline.list (tables.map Join.outline)
  Outline.record "QuerySpec"
    [("table", Outline.text query.table),
     ("left_join", joins query.leftJoins),
     ("right_join", joins query.rightJoins),
     ("join", joins query.joins),
     ("filter", Outline.optional Filter.outline query.filter),
     ("fields", Outline.list (query.fields.map Outline.text)),
     ("sort", Outline.list (query.sort.map fun key =>
       Outline.variant "" [Outline.text key.1, key.2.outline])),
     ("paging", query.paging.outline),
     ("id_column", Outline.text query.idColumn)]

def TableQuery.outline (target : TableQuery) : String :=
  Outline.record "QueryBuilder"
    [("router", target.router.outline), ("spec", target.query.outline)]

end SqlComposer

import SqlComposer.Json.Writing
import SqlComposer.Literal.Value
import SqlComposer.OrderedMap

/-!
Column documents: the columns of one row to insert or to update, in the order of their first
setting.
-/

namespace SqlComposer

abbrev Document := OrderedMap Value

inductive DocumentFault where
  | notObject (got : Json)
  | keyNotText
deriving DecidableEq

def DocumentFault.message : DocumentFault → String
  | .notObject got => "document must be a JSON object, got " ++ got.compact
  | .keyNotText => "document serialization failed: key must be a string"

namespace Document

def ofMembers (members : List (String × Json)) : Document :=
  OrderedMap.ofList (members.map fun (name, value) => (name, Value.ofJson value))

theorem entries_ofMembers {members : List (String × Json)}
    (distinct : (members.map Prod.fst).Nodup) :
    (ofMembers members).entries = members.map fun (name, value) => (name, Value.ofJson value) := by
  rw [ofMembers, OrderedMap.entries_ofList]
  apply assignAll_eq_self
  simpa [Function.comp_def] using distinct

def ofJson : Json → Except DocumentFault Document
  | .object members => .ok (ofMembers members)
  | other => .error (.notObject other)

/-- The name of a column that a map has under a key: texts, and integers in decimal. -/
def columnOfKey? : Json → Option String
  | .string s => some s
  | .number (.integer n _) => some n.repr
  | _ => none

def ofMap (entries : List (Json × Json)) : Except DocumentFault Document :=
  match entries.mapM fun (key, value) => (columnOfKey? key).map (·, value) with
  | some members => .ok (ofMembers members)
  | none => .error .keyNotText

def putAscending {α : Type} (number : Int) (value : α) : List (Int × α) → List (Int × α)
  | [] => [(number, value)]
  | entry :: rest =>
    if number < entry.1 then (number, value) :: entry :: rest
    else if number = entry.1 then (number, value) :: rest
    else entry :: putAscending number value rest

/-- Texts under numbers, the columns in ascending order and the last text of each number. -/
def ofNumbered (settings : List (Int × String)) : Document :=
  let ascending := settings.foldl (fun entries setting =>
    putAscending setting.1 setting.2 entries) []
  OrderedMap.ofList (ascending.map fun (number, text) => (number.repr, Value.text text))

end Document

end SqlComposer

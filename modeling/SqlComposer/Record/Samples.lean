import SqlComposer.Record.Shape

/-!
Records with named fields, decoded from rows and from JSON columns: two that are read from the
columns of a row, and three that are read from a single column.
-/

namespace SqlComposer

structure User where
  id : Int
  name : String
deriving DecidableEq, Repr

structure Account where
  id : Int
  active : Bool
  balance : Binary64
  code : String
  note : Option String
  tags : List String
deriving DecidableEq, Repr

structure Point where
  x : Int
  y : Int
deriving DecidableEq, Repr

structure Meters where
  length : Binary64
deriving DecidableEq, Repr

inductive Color where
  | red
  | green
deriving DecidableEq, Repr

namespace User

structure Draft where
  id : Option Int := none
  name : Option String := none

namespace Draft

def add (draft : Draft) (cell : String × Value) : Except ShapeFault Draft :=
  match cell.1 with
  | "id" => do
    return { draft with id := ← fillField "id" draft.id ((Shape.integer .int64).ofColumn cell.2) }
  | "name" => do
    return { draft with name := ← fillField "name" draft.name (Shape.text.ofColumn cell.2) }
  | _ => (Shape.ignored.ofColumn cell.2).map fun _ => draft

def finish (draft : Draft) : Except ShapeFault User := do
  let id ← requireField "id" draft.id
  let name ← requireField "name" draft.name
  return ⟨id, name⟩

end Draft

def ofCells (cells : List (String × Value)) : Except ShapeFault User := do
  (← cells.foldlM Draft.add {}).finish

def ofRow (row : Row) : Except SqlError User := do
  let id ← row.read (Reader.integer .int64) "id"
  let name ← row.read Reader.text "name"
  return ⟨id, name⟩

end User

namespace Account

structure Draft where
  id : Option Int := none
  active : Option Bool := none
  balance : Option Binary64 := none
  code : Option String := none
  note : Option (Option String) := none
  tags : Option (List String) := none

namespace Draft

def add (draft : Draft) (cell : String × Value) : Except ShapeFault Draft :=
  match cell.1 with
  | "id" => do
    return { draft with id := ← fillField "id" draft.id ((Shape.integer .int64).ofColumn cell.2) }
  | "active" => do
    return { draft with active := ← fillField "active" draft.active (Shape.bool.ofColumn cell.2) }
  | "balance" => do
    return { draft with
      balance := ← fillField "balance" draft.balance (Shape.real.ofColumn cell.2) }
  | "code" => do
    return { draft with code := ← fillField "code" draft.code (Shape.text.ofColumn cell.2) }
  | "note" => do
    return { draft with
      note := ← fillField "note" draft.note ((Shape.optional .text).ofColumn cell.2) }
  | "tags" => do
    return { draft with
      tags := ← fillField "tags" draft.tags ((Shape.list .text).ofColumn cell.2) }
  | _ => (Shape.ignored.ofColumn cell.2).map fun _ => draft

def finish (draft : Draft) : Except ShapeFault Account := do
  let id ← requireField "id" draft.id
  let active ← requireField "active" draft.active
  let balance ← requireField "balance" draft.balance
  let code ← requireField "code" draft.code
  let tags ← requireField "tags" draft.tags
  return ⟨id, active, balance, code, draft.note.join, tags⟩

end Draft

def ofCells (cells : List (String × Value)) : Except ShapeFault Account := do
  (← cells.foldlM Draft.add {}).finish

end Account

namespace Point

structure Draft where
  x : Option Int := none
  y : Option Int := none

namespace Draft

def add (draft : Draft) (member : String × Json) : Except ShapeFault Draft :=
  match member.1 with
  | "x" => do
    return { draft with x := ← fillField "x" draft.x ((Shape.integer .int64).ofJson member.2) }
  | "y" => do
    return { draft with y := ← fillField "y" draft.y ((Shape.integer .int64).ofJson member.2) }
  | _ => (Shape.ignored.ofJson member.2).map fun _ => draft

def finish (draft : Draft) : Except ShapeFault Point := do
  let x ← requireField "x" draft.x
  let y ← requireField "y" draft.y
  return ⟨x, y⟩

end Draft

def shape : Shape Point :=
  .container fun
    | .array items => do
      let (x, y) ← Shape.twoItems "struct Point with 2 elements" (.integer .int64)
        (.integer .int64) items
      return ⟨x, y⟩
    | .object members => do (← members.foldlM Draft.add {}).finish
    | other => .error (.wrongType other "struct Point")

end Point

namespace Meters

/-- A column is shown as it stands, and of that an array of one number is taken: a number by itself
is refused. -/
def ofColumn (value : Value) : Except ShapeFault Meters :=
  match value.toJson with
  | .array items => match items with
    | [] => .error (.wrongLength 0 "tuple struct Meters with 1 element")
    | item :: rest => do
      let length ← Shape.real.ofJson item
      if rest.isEmpty then return ⟨length⟩
      else throw (.wrongLength items.length "fewer elements in array")
  | other => .error (.wrongType other "tuple struct Meters")

def shape : Shape Meters where
  ofColumn := ofColumn
  ofJson document := (Shape.real.ofJson document).map .mk

end Meters

namespace Color

def shape : Shape Color :=
  .plain fun found => .error (.wrongType found "enum Color")

end Color

end SqlComposer

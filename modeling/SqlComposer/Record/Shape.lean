import SqlComposer.Json.Reading
import SqlComposer.Record.Row

/-!
Shapes: how the columns of a row decode into typed data. A column of text is parsed where a
number, a truth value or a JSON container is asked for; all else decodes as the JSON form of the
column's value. Inside a container nothing is parsed.
-/

namespace SqlComposer

inductive ShapeFault where
  | wrongType (found : Json) (expected : String)
  | outOfRange (found : Int) (expected : String)
  | notOneCharacter (found : String)
  | wrongLength (length : Nat) (expected : String)
  | missingField (name : String)
  | repeatedField (name : String)
  | unreadable (fault : ReadFault)
  | notJson (fault : Json.Fault)
deriving DecidableEq

def Json.description : Json → String
  | .null => "null"
  | .bool b => "boolean `" ++ toString b ++ "`"
  | .number (.integer n _) => "integer `" ++ n.repr ++ "`"
  | .number (.real x _) => "floating point `" ++ x.write .json ++ "`"
  | .string s => "string " ++ Outline.text s
  | .array _ => "sequence"
  | .object _ => "map"

def ShapeFault.message : ShapeFault → String
  | .wrongType found expected => "invalid type: " ++ found.description ++ ", expected " ++ expected
  | .outOfRange found expected =>
    "invalid value: integer `" ++ found.repr ++ "`, expected " ++ expected
  | .notOneCharacter found =>
    "invalid value: string " ++ Outline.text found ++ ", expected a character"
  | .wrongLength length expected =>
    "invalid length " ++ length.repr ++ ", expected " ++ expected
  | .missingField name => "missing field `" ++ name ++ "`"
  | .repeatedField name => "duplicate field `" ++ name ++ "`"
  | .unreadable fault => fault.message
  | .notJson fault => fault.message

structure Shape (α : Type) where
  ofColumn : Value → Except ShapeFault α
  ofJson : Json → Except ShapeFault α

namespace Shape

variable {α β : Type}

/-- Columns of text are parsed, others decode as their JSON forms. -/
def parsed (ofText : String → Except ShapeFault α) (ofJson : Json → Except ShapeFault α) :
    Shape α where
  ofColumn
    | .text s => ofText s
    | value => ofJson value.toJson
  ofJson := ofJson

def plain (ofJson : Json → Except ShapeFault α) : Shape α where
  ofColumn value := ofJson value.toJson
  ofJson := ofJson

def container (ofJson : Json → Except ShapeFault α) : Shape α :=
  parsed (fun s => (Json.read s).mapError ShapeFault.notJson >>= ofJson) ofJson

def narrow (type : IntegerType) (n : Int) : Except ShapeFault Int :=
  if type.holds n then .ok n else .error (.outOfRange n type.name)

/-- Text is read at the full width and then narrowed. -/
def integer (type : IntegerType) : Shape Int :=
  parsed
    (fun s => (Reader.integerText type.widest s).mapError ShapeFault.unreadable >>= narrow type)
    fun
      | .number (.integer n _) => narrow type n
      | other => .error (.wrongType other type.name)

def real : Shape Binary64 :=
  parsed (fun s => (Reader.realText s).mapError .unreadable) fun
    | .number (.integer n _) => .ok (.ofInt n)
    | .number (.real x _) => .ok x
    | other => .error (.wrongType other "f64")

/-- Reals of half the width: text is read at the full width and then rounded once more. -/
def single : Shape Binary32 :=
  parsed (fun s => ((Reader.realText s).mapError .unreadable).map .convert) fun
    | .number (.integer n _) => .ok (.ofInt n)
    | .number (.real x _) => .ok x.convert
    | other => .error (.wrongType other "f32")

def bool : Shape Bool :=
  parsed (fun s => (Reader.boolText s).mapError .unreadable) fun
    | .bool b => .ok b
    | other => .error (.wrongType other "a boolean")

def text : Shape String :=
  plain fun
    | .string s => .ok s
    | other => .error (.wrongType other "a string")

def character : Shape Char :=
  plain fun
    | .string s => match s.toList with
      | [c] => .ok c
      | _ => .error (.notOneCharacter s)
    | other => .error (.wrongType other "a character")

def unit : Shape Unit :=
  plain fun
    | .null => .ok ()
    | other => .error (.wrongType other "unit")

def document : Shape Json :=
  plain .ok

def ignored : Shape Unit :=
  plain fun _ => .ok ()

def optional (inner : Shape α) : Shape (Option α) where
  ofColumn
    | .null => .ok none
    | value => (inner.ofColumn value).map some
  ofJson
    | .null => .ok none
    | document => (inner.ofJson document).map some

def list (inner : Shape α) : Shape (List α) :=
  container fun
    | .array items => items.mapM inner.ofJson
    | other => .error (.wrongType other "a sequence")

def putByName (name : String) (value : α) : List (String × α) → List (String × α)
  | [] => [(name, value)]
  | entry :: rest =>
    if name < entry.1 then (name, value) :: entry :: rest
    else if name = entry.1 then (name, value) :: rest
    else entry :: putByName name value rest

def map (inner : Shape α) : Shape (List (String × α)) :=
  container fun
    | .object members => do
      let entries ← members.mapM fun (name, value) => (inner.ofJson value).map (name, ·)
      return entries.foldl (fun sorted entry => putByName entry.1 entry.2 sorted) []
    | other => .error (.wrongType other "a map")

/-- Two items of an array and no more. Items are decoded before they are counted. -/
def twoItems (expected : String) (first : Shape α) (second : Shape β) (items : List Json) :
    Except ShapeFault (α × β) :=
  match items with
  | [] => .error (.wrongLength 0 expected)
  | [item] => do
    let _ ← first.ofJson item
    throw (.wrongLength 1 expected)
  | item :: other :: rest => do
    let a ← first.ofJson item
    let b ← second.ofJson other
    if rest.isEmpty then return (a, b)
    else throw (.wrongLength items.length "fewer elements in array")

def pair (first : Shape α) (second : Shape β) : Shape (α × β) :=
  plain fun
    | .array items => twoItems "a tuple of size 2" first second items
    | other => .error (.wrongType other "a tuple of size 2")

end Shape

/-- Decodes the first part of a field that is still open; a field may be given only once. -/
def fillField {α : Type} (name : String) (field : Option α)
    (decoded : Except ShapeFault α) : Except ShapeFault (Option α) :=
  if field.isSome then .error (.repeatedField name) else decoded.map some

def requireField {α : Type} (name : String) : Option α → Except ShapeFault α
  | some value => .ok value
  | none => .error (.missingField name)

namespace Row

/-- Decodes a whole row; what goes wrong is not laid to one column. -/
def decode {ρ : Type} (shape : List (String × Value) → Except ShapeFault ρ) (row : Row) :
    Except SqlError ρ :=
  (shape row.cells).mapError fun fault => .decode "*" fault.message

def decodeEach {α : Type} (shape : Shape α) (row : Row) : Except SqlError (List (String × α)) :=
  row.decode fun cells => cells.mapM fun (column, value) => (shape.ofColumn value).map (column, ·)

end Row

end SqlComposer

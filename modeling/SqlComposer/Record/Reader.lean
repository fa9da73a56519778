import SqlComposer.Literal.Outline
import SqlComposer.Number.Integer
import SqlComposer.Number.Real
import SqlComposer.Text.Blank

/-!
Reading a single value as a type. Texts are parsed, since some servers send every column as text.
-/

namespace SqlComposer

inductive ReadFault where
  | mismatch (expected : String) (got : Value)
  | integer (fault : IntegerFault)
  | real (fault : RealFault)
deriving DecidableEq

def ReadFault.message : ReadFault → String
  | .mismatch expected got => "expected " ++ expected ++ ", got " ++ got.outline
  | .integer fault => fault.message
  | .real fault => fault.message

abbrev Reader (α : Type) := Value → Except ReadFault α

namespace Reader

def integerText (type : IntegerType) (s : String) : Except ReadFault Int :=
  (type.read (Text.trim s.toList)).mapError .integer

def realText (s : String) : Except ReadFault Binary64 :=
  (Binary.read (Text.trim s.toList)).mapError .real

def boolText (s : String) : Except ReadFault Bool :=
  if s ∈ ["t", "true", "TRUE", "1"] then .ok true
  else if s ∈ ["f", "false", "FALSE", "0"] then .ok false
  else .error (.mismatch "bool" (.text s))

def integer (type : IntegerType) : Reader Int
  | .int n => (type.narrow n.toInt).mapError .integer
  | .uint n => (type.narrow n.toNat).mapError .integer
  | .bool b => .ok (if b then 1 else 0)
  | .text s => integerText type s
  | other => .error (.mismatch type.name other)

def real : Reader Binary64
  | .float x => .ok x
  | .int n => .ok (.ofInt n.toInt)
  | .uint n => .ok (.ofInt n.toNat)
  | .text s => realText s
  | other => .error (.mismatch "f64" other)

def bool : Reader Bool
  | .bool b => .ok b
  | .int n => .ok (n != 0)
  | .uint n => .ok (n != 0)
  | .text s => boolText s
  | other => .error (.mismatch "bool" other)

def text : Reader String
  | .text s => .ok s
  | .int n => .ok n.toInt.repr
  | .uint n => .ok n.toNat.repr
  | .float x => .ok (x.write .plain)
  | .uuid id => .ok (String.ofList id.text)
  | .json document => .ok document.compact
  | other => .error (.mismatch "string" other)

def value : Reader Value := .ok

def optional {α : Type} (reader : Reader α) : Reader (Option α)
  | .null => .ok none
  | other => (reader other).map some

end Reader

end SqlComposer

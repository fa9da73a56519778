import SqlComposer.Calendar.DateTime
import SqlComposer.Json.Basic
import SqlComposer.Uuid

/-!
The values that can stand in a statement or in a column of a result, and their JSON forms.
-/

namespace SqlComposer

inductive Value where
  | null
  | bool (b : Bool)
  | int (n : Int64)
  | uint (n : UInt64)
  | float (x : Binary64)
  | text (s : String)
  | bytes (content : List UInt8)
  | dateTime (moment : DateTime)
  | date (day : Date)
  | uuid (id : Uuid)
  | json (document : Json)
  /-- A trusted SQL expression: written in parentheses and never escaped. -/
  | raw (sql : String)
deriving DecidableEq, Inhabited

namespace Value

def isNull : Value → Bool
  | .null => true
  | _ => false

def text? : Value → Option String
  | .text s => some s
  | _ => none

/-- Numbers without a fraction that fit in 64 bits: signed where possible, else unsigned. -/
def ofNumber : JsonNumber → Value
  | .integer n _ => if n < 2 ^ 63 then .int (Int64.ofInt n) else .uint (UInt64.ofNat n.toNat)
  | .real x _ => .float x

section Integers

variable {n : Int} {range : -2 ^ 63 ≤ n ∧ n < 2 ^ 64}

theorem ofNumber_signed (small : n < 2 ^ 63) :
    ofNumber (.integer n range) = .int (Int64.ofInt n) :=
  if_pos small

theorem ofNumber_unsigned (large : ¬ n < 2 ^ 63) :
    ofNumber (.integer n range) = .uint (UInt64.ofNat n.toNat) :=
  if_neg large

end Integers

def ofJson : Json → Value
  | .null => .null
  | .bool b => .bool b
  | .number n => ofNumber n
  | .string s => .text s
  | .array items => .json (.array items)
  | .object members => .json (.object members)

def toJson : Value → Json
  | .null => .null
  | .bool b => .bool b
  | .int n => .ofInt64 n
  | .uint n => .ofUInt64 n
  | .float x => .ofReal x
  | .text s => .string s
  | .bytes content => .array (content.map Json.ofByte)
  | .dateTime moment => .string (String.ofList moment.text)
  | .date day => .string (String.ofList day.text)
  | .uuid id => .string (String.ofList id.text)
  | .json document => document
  | .raw sql => .string sql

end Value

end SqlComposer

import SqlComposer.Json.Writing
import SqlComposer.Literal.Quoting
import SqlComposer.Literal.Value
import SqlComposer.Text.Blank

/-!
Values as SQL literals. `escape` writes every value but a trusted expression as data; `render`
also lets trusted texts through: quoted identifiers and subqueries.
-/

namespace SqlComposer

/-- Whether a character is the given capital letter, in either case or as the long s. -/
def foldsTo (letter c : Char) : Bool :=
  c.toUpper == letter || (letter == 'S' && c == 'ſ')

def afterWord? : (letters : List Char) → List Char → Option (List Char)
  | [], rest => some rest
  | _ :: _, [] => none
  | letter :: letters, c :: rest => if foldsTo letter c then afterWord? letters rest else none

/-- `(`, the word `SELECT`, a blank, anything, `)`. -/
def isSubquery (text : List Char) : Bool :=
  match text with
  | '(' :: rest =>
    match afterWord? ['S', 'E', 'L', 'E', 'C', 'T'] rest with
    | some (blank :: rest) => Text.isBlank blank && rest.getLast? == some ')'
    | _ => false
  | _ => false

def isTrusted (text : List Char) : Bool :=
  text.head? == some '`' || isSubquery text

namespace Dialect

def boolText : Dialect → Bool → String
  | .mysql, true => "true"
  | .mysql, false => "false"
  | .postgres, true => "TRUE"
  | .postgres, false => "FALSE"

def escapeText (dialect : Dialect) (s : String) : String :=
  String.ofList (dialect.quote s.toList)

def escape (dialect : Dialect) : Value → String
  | .null => "NULL"
  | .bool b => dialect.boolText b
  | .int n => n.toInt.repr
  | .uint n => n.toNat.repr
  | .float x => if x.isFinite then x.write .plain else "NULL"
  | .text s => dialect.escapeText s
  | .bytes content => String.ofList (dialect.quoteBytes content)
  | .dateTime moment => String.ofList (dialect.quote moment.millisecondText)
  | .date day => String.ofList (dialect.quote day.text)
  | .uuid id => String.ofList (dialect.quote id.text)
  | .json document => String.ofList (dialect.quote document.write)
  | .raw sql => "(" ++ sql ++ ")"

end Dialect

def Value.render (dialect : Dialect) (value : Value) : String :=
  match value with
  | .text s => if isTrusted s.toList then s else dialect.escapeText s
  | other => dialect.escape other

end SqlComposer

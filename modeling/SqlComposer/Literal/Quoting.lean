import SqlComposer.Literal.Dialect
import SqlComposer.Text.Hex

/-!
Quoted literals. Under MySQL a backslash escapes quotes, backslashes and controls. Under
PostgreSQL a quote is doubled, and a text with backslashes takes the form that escapes them.
-/

namespace SqlComposer.Dialect

def quoteChar (dialect : Dialect) (c : Char) : List Char :=
  match dialect with
  | .mysql => match c with
    | '\x00' => ['\\', '0']
    | '\x08' => ['\\', 'b']
    | '\t' => ['\\', 't']
    | '\n' => ['\\', 'n']
    | '\r' => ['\\', 'r']
    | '\x1a' => ['\\', 'Z']
    | '"' => ['\\', '"']
    | '\'' => ['\\', '\'']
    | '\\' => ['\\', '\\']
    | c => [c]
  | .postgres => match c with
    | '\'' => ['\'', '\'']
    | '\\' => ['\\', '\\']
    | c => [c]

/-- Only a PostgreSQL text with backslashes has a mark before its quote. -/
def quoteMark (dialect : Dialect) (content : List Char) : List Char :=
  match dialect with
  | .mysql => []
  | .postgres => if '\\' ∈ content then ['E'] else []

def quote (dialect : Dialect) (content : List Char) : List Char :=
  dialect.quoteMark content ++
    '\'' :: (content.flatMap dialect.quoteChar ++ ['\''])

def quoteBytes (dialect : Dialect) (bytes : List UInt8) : List Char :=
  match dialect with
  | .mysql => 'X' :: '\'' :: (Text.hexBytes bytes ++ ['\''])
  | .postgres =>
    '\'' :: '\\' :: 'x' :: (Text.hexBytes bytes ++ "'::bytea".toList)

end SqlComposer.Dialect

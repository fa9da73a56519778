import SqlComposer.Literal.Rendering
import SqlComposer.Proofs.Literal.Spelled
import SqlComposer.Proofs.Reading.Reader

/-!
Literals as a database reads them, and that the rendered form of every value that is data is read
as the value it stands for.
-/

namespace SqlComposer.Reading

inductive Literal where
  | null
  | bool (b : Bool)
  | number (n : Int)
  | text (content : String)
  | bytes (content : List UInt8)
deriving DecidableEq, Repr

def readBytea : List Char → Option (List UInt8)
  | '\\' :: 'x' :: digits => Text.bytesOfHex? digits
  | _ => none

def readLiteral : Reader Literal
  | .number n :: rest => some (.number n, rest)
  | .mark .minus :: .number n :: rest => some (.number (-n), rest)
  | .bytes content :: rest => some (.bytes content, rest)
  | .text content :: .mark .cast :: type :: rest =>
    if type.isKeyword "BYTEA" then (readBytea content).map fun bytes => (.bytes bytes, rest)
    else none
  | .text content :: rest => some (.text (String.ofList content), rest)
  | token :: rest =>
    if token.isKeyword "NULL" then some (.null, rest)
    else if token.isKeyword "TRUE" then some (.bool true, rest)
    else if token.isKeyword "FALSE" then some (.bool false, rest)
    else none
  | [] => none

abbrev ReadsLiteral (dialect : Dialect) (text : List Char) (literal : Literal) : Prop :=
  Reads dialect readLiteral (Token.isMark .cast) text literal

end Reading

open Reading

namespace Value

/-- Whether a value is data: neither an expression nor trusted text, and not a real number, whose
literal is a decimal numeral. -/
def isData : Value → Bool
  | .raw _ => false
  | .float _ => false
  | .text s => !isTrusted s.toList
  | _ => true

/-- The data that a value stands for in a statement. Days, times, identifiers and documents are
texts there. What is not data stands for nothing. -/
def literal : Value → Literal
  | .null => .null
  | .bool b => .bool b
  | .int n => .number n.toInt
  | .uint n => .number n.toNat
  | .text s => .text s
  | .bytes content => .bytes content
  | .dateTime moment => .text (String.ofList moment.spelled)
  | .date day => .text (String.ofList day.spelled)
  | .uuid id => .text (String.ofList id.spelled)
  | .json document => .text document.compact
  | .float _ => .null
  | .raw _ => .null

end Value

namespace Reading

variable {dialect : Dialect}

theorem reads_quote (dialect : Dialect) (content : List Char) :
    ReadsLiteral dialect (dialect.quote content) (.text (String.ofList content)) := by
  refine ⟨[.text content], Spells.quote dialect content, ?_⟩
  intro rest stops
  cases rest with
  | nil => rfl
  | cons token rest =>
      have other : token ≠ .mark .cast := by simpa [Token.isMark] using stops token rfl
      simp [readLiteral, other]

theorem reads_quoteBytes (dialect : Dialect) (bytes : List UInt8) :
    ReadsLiteral dialect (dialect.quoteBytes bytes) (.bytes bytes) := by
  refine ⟨bytesTokens dialect bytes, Spells.quoteBytes dialect bytes, ?_⟩
  intro rest _
  cases dialect with
  | mysql => rfl
  | postgres =>
      have type : (Token.word ['b', 'y', 't', 'e', 'a']).isKeyword "BYTEA" = true := by decide
      simp [bytesTokens, readLiteral, type, readBytea, Text.bytesOfHex?_hexBytes]

theorem reads_integer (dialect : Dialect) (n : Int) :
    ReadsLiteral dialect n.repr.toList (.number n) := by
  rw [Int.repr_eq_if]
  split
  · rename_i positive
    have same : (n.toNat : Int) = n := Int.toNat_of_nonneg positive
    refine ⟨[.number n.toNat], by simpa using Spells.number n.toNat, ?_⟩
    intro rest _
    simp [readLiteral, same]
  · rename_i negative
    have same : -((-n).toNat : Int) = n := by omega
    refine ⟨[.mark .minus, .number (-n).toNat], ?_, ?_⟩
    · intro rest bounded
      have read : readToken dialect ('-' :: (Nat.toDigits 10 (-n).toNat ++ rest)) =
          some (.mark .minus, Nat.toDigits 10 (-n).toNat ++ rest) := rfl
      have whole := tokenize_of_readToken read
      rw [Spells.number (-n).toNat rest bounded, Option.map_map] at whole
      simpa [Function.comp_def] using whole
    · intro rest _
      simp only [List.cons_append, List.nil_append, readLiteral, same]

theorem reads_constant {dialect : Dialect} {letters : List Char} {thing : Literal}
    (word : isWord letters = true)
    (named : ∀ rest, readLiteral (.word letters :: rest) = some (thing, rest)) :
    ReadsLiteral dialect letters thing :=
  ⟨[.word letters], Spells.word word, fun rest _ => named rest⟩

theorem reads_null (dialect : Dialect) : ReadsLiteral dialect "NULL".toList .null :=
  reads_constant (by decide) fun _ => rfl

theorem reads_bool (dialect : Dialect) (b : Bool) :
    ReadsLiteral dialect (dialect.boolText b).toList (.bool b) := by
  cases dialect <;> cases b <;> exact reads_constant (by decide) fun _ => rfl

theorem reads_render {dialect : Dialect} {value : Value} (data : value.isData = true) :
    ReadsLiteral dialect (value.render dialect).toList value.literal := by
  cases value with
  | null => exact reads_null dialect
  | bool b => exact reads_bool dialect b
  | int n => exact reads_integer dialect n.toInt
  | uint n => exact reads_integer dialect n.toNat
  | float x => simp [Value.isData] at data
  | text s =>
      have untrusted : isTrusted s.toList = false := by simpa [Value.isData] using data
      simpa [Value.render, untrusted, Dialect.escapeText, Value.literal] using
        reads_quote dialect s.toList
  | bytes content =>
      simpa [Value.render, Dialect.escape, Value.literal] using reads_quoteBytes dialect content
  | dateTime moment =>
      simpa [Value.render, Dialect.escape, Value.literal, moment.millisecondText_eq_spelled] using
        reads_quote dialect moment.spelled
  | date day =>
      simpa [Value.render, Dialect.escape, Value.literal, day.text_eq_spelled] using
        reads_quote dialect day.spelled
  | uuid id =>
      simpa [Value.render, Dialect.escape, Value.literal, id.text_eq_spelled] using
        reads_quote dialect id.spelled
  | json document =>
      simpa [Value.render, Dialect.escape, Value.literal, Json.compact] using
        reads_quote dialect document.write
  | raw sql => simp [Value.isData] at data

end Reading

end SqlComposer

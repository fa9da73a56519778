/-!
Faults of a JSON text and the place they are reported at, as a line and a column in bytes.
-/

namespace SqlComposer.Json

inductive FaultKind where
  | endInValue
  | endInText
  | endInArray
  | endInObject
  | noColon
  | noArraySeparator
  | noObjectSeparator
  | noWord
  | noValue
  | noMemberName
  | badEscape
  | badNumber
  | numberTooLarge
  | controlCharacter
  | loneSurrogate
  | unfinishedPair
  | trailingComma
  | trailingCharacters
  | tooDeep
deriving DecidableEq, Repr

def FaultKind.message : FaultKind → String
  | .endInValue => "EOF while parsing a value"
  | .endInText => "EOF while parsing a string"
  | .endInArray => "EOF while parsing a list"
  | .endInObject => "EOF while parsing an object"
  | .noColon => "expected `:`"
  | .noArraySeparator => "expected `,` or `]`"
  | .noObjectSeparator => "expected `,` or `\x7d`"
  | .noWord => "expected ident"
  | .noValue => "expected value"
  | .noMemberName => "key must be a string"
  | .badEscape => "invalid escape"
  | .badNumber => "invalid number"
  | .numberTooLarge => "number out of range"
  | .controlCharacter => "control character (\\u0000-\\u001F) found while parsing a string"
  | .loneSurrogate => "lone leading surrogate in hex escape"
  | .unfinishedPair => "unexpected end of hex escape"
  | .trailingComma => "trailing comma"
  | .trailingCharacters => "trailing characters"
  | .tooDeep => "recursion limit exceeded"

/-- Where reading stopped: before `rest`, of which the first `ahead` bytes are looked at. -/
structure Stop where
  kind : FaultKind
  rest : List Char
  ahead : Nat
deriving DecidableEq, Repr

structure Fault where
  kind : FaultKind
  line : Nat
  column : Nat
deriving DecidableEq, Repr

def Fault.message (fault : Fault) : String :=
  fault.kind.message ++ " at line " ++ fault.line.repr ++ " column " ++ fault.column.repr

def lineFeed : UInt8 := 10

/-- The place after all bytes read: lines count from one, columns are the bytes of a line. -/
def Stop.toFault (text : List Char) (stop : Stop) : Fault :=
  let read := text.take (text.length - stop.rest.length)
  let bytes := read.flatMap String.utf8EncodeChar ++
    (stop.rest.flatMap String.utf8EncodeChar).take stop.ahead
  { kind := stop.kind
    line := 1 + bytes.count lineFeed
    column := (bytes.reverse.takeWhile (· != lineFeed)).length }

def Stop.next (kind : FaultKind) (rest : List Char) : Stop :=
  ⟨kind, rest, 1⟩

def Stop.here (kind : FaultKind) (rest : List Char) : Stop :=
  ⟨kind, rest, 0⟩

end SqlComposer.Json

import SqlComposer.Json.Numeral
import SqlComposer.Text.Hex

/-!
Reading a JSON document from text. `parse` keeps every member of an object, also under a repeated
name; `read` settles them.
-/

namespace SqlComposer.Json

def isSpace (c : Char) : Bool :=
  c == ' ' || c == '\n' || c == '\t' || c == '\r'

def skipSpace (text : List Char) : List Char :=
  text.dropWhile isSpace

/-- Documents may nest to one less than this depth. -/
def depthLimit : Nat := 128

def readUnit (text : List Char) : Except Stop (Nat × List Char) :=
  match text with
  | a :: b :: c :: d :: rest =>
    match Text.hexNumber? 0 [a, b, c, d] with
    | some unit => .ok (unit, rest)
    | none => .error ⟨.badEscape, text, 4⟩
  | short =>
    if (short.flatMap String.utf8EncodeChar).length < 4 then .error (.here .endInText [])
    else .error ⟨.badEscape, text, 4⟩

def isLeading (unit : Nat) : Bool :=
  0xd800 ≤ unit && unit ≤ 0xdbff

def isTrailing (unit : Nat) : Bool :=
  0xdc00 ≤ unit && unit ≤ 0xdfff

def readUnicode (text : List Char) : Except Stop (Char × List Char) := do
  let (unit, rest) ← readUnit text
  if isTrailing unit then throw (.here .loneSurrogate rest)
  if isLeading unit then
    match rest with
    | [] => throw (.here .endInText [])
    | '\\' :: [] => throw (.here .endInText [])
    | '\\' :: 'u' :: rest =>
      let (second, rest) ← readUnit rest
      if isTrailing second then
        return (Char.ofNat (0x10000 + (unit - 0xd800) * 0x400 + (second - 0xdc00)), rest)
      else throw (.here .loneSurrogate rest)
    | '\\' :: rest => throw (.next .unfinishedPair rest)
    | rest => throw (.next .unfinishedPair rest)
  else return (Char.ofNat unit, rest)

def readEscape (text : List Char) : Except Stop (Char × List Char) :=
  match text with
  | [] => .error (.here .endInText [])
  | '"' :: rest => .ok ('"', rest)
  | '\\' :: rest => .ok ('\\', rest)
  | '/' :: rest => .ok ('/', rest)
  | 'b' :: rest => .ok ('\x08', rest)
  | 'f' :: rest => .ok ('\x0c', rest)
  | 'n' :: rest => .ok ('\n', rest)
  | 'r' :: rest => .ok ('\r', rest)
  | 't' :: rest => .ok ('\t', rest)
  | 'u' :: rest => readUnicode rest
  | other => .error (.next .badEscape other)

def readTextWithin : (fuel : Nat) → List Char → Except Stop (List Char × List Char)
  | 0, _ => .error (.here .endInText [])
  | fuel + 1, text => match text with
    | [] => .error (.here .endInText [])
    | '"' :: rest => .ok ([], rest)
    | '\\' :: rest => do
      let (c, rest) ← readEscape rest
      let (content, rest) ← readTextWithin fuel rest
      return (c :: content, rest)
    | c :: rest =>
      if c.toNat < 0x20 then .error (.next .controlCharacter text)
      else do
        let (content, rest) ← readTextWithin fuel rest
        return (c :: content, rest)

def readText (text : List Char) : Except Stop (String × List Char) := do
  let (content, rest) ← readTextWithin (text.length + 1) text
  return (String.ofList content, rest)

def readWord : (letters : List Char) → List Char → Except Stop (List Char)
  | [], text => .ok text
  | _ :: _, [] => .error (.here .endInValue [])
  | letter :: letters, c :: rest =>
    if c = letter then readWord letters rest else .error (.next .noWord (c :: rest))

mutual

/-- Reads a value; `depth` levels of nesting are left, and fewer than `fuel` characters. -/
def readValue : (fuel depth : Nat) → List Char → Except Stop (Json × List Char)
  | 0, _, text => .error (.here .tooDeep text)
  | fuel + 1, depth, text => match skipSpace text with
    | [] => .error (.here .endInValue [])
    | 'n' :: rest => (readWord ['u', 'l', 'l'] rest).map (Json.null, ·)
    | 't' :: rest => (readWord ['r', 'u', 'e'] rest).map (Json.bool true, ·)
    | 'f' :: rest => (readWord ['a', 'l', 's', 'e'] rest).map (Json.bool false, ·)
    | '"' :: rest => do
      let (content, rest) ← readText rest
      return (.string content, rest)
    | '-' :: rest => do
      let (numeral, rest) ← readNumeral true rest
      return (.number numeral, rest)
    | '[' :: rest =>
      if depth ≤ 1 then .error (.next .tooDeep ('[' :: rest))
      else do
        let (items, rest) ← readItems fuel (depth - 1) true rest
        return (.array items, rest)
    | '\x7b' :: rest =>
      if depth ≤ 1 then .error (.next .tooDeep ('\x7b' :: rest))
      else do
        let (members, rest) ← readMembers fuel (depth - 1) true rest
        return (.object members, rest)
    | c :: rest =>
      if c.isDigit then do
        let (numeral, rest) ← readNumeral false (c :: rest)
        return (.number numeral, rest)
      else .error (.next .noValue (c :: rest))

def readItems : (fuel depth : Nat) → (first : Bool) → List Char →
    Except Stop (List Json × List Char)
  | 0, _, _, text => .error (.here .tooDeep text)
  | fuel + 1, depth, first, text => match skipSpace text with
    | [] => .error (.here .endInArray [])
    | ']' :: rest => .ok ([], rest)
    | c :: rest => do
      let start ←
        if first then pure (c :: rest)
        else if c = ',' then match skipSpace rest with
          | [] => throw (.here .endInValue [])
          | ']' :: after => throw (.next .trailingComma (']' :: after))
          | start => pure start
        else throw (.next .noArraySeparator (c :: rest))
      let (item, rest) ← readValue fuel depth start
      let (items, rest) ← readItems fuel depth false rest
      return (item :: items, rest)

def readMembers : (fuel depth : Nat) → (first : Bool) → List Char →
    Except Stop (List (String × Json) × List Char)
  | 0, _, _, text => .error (.here .tooDeep text)
  | fuel + 1, depth, first, text => match skipSpace text with
    | [] => .error (.here .endInObject [])
    | '\x7d' :: rest => .ok ([], rest)
    | c :: rest => do
      let start ←
        if first then pure (c :: rest)
        else if c = ',' then match skipSpace rest with
          | [] => throw (.here .endInValue [])
          | '\x7d' :: after => throw (.next .trailingComma ('\x7d' :: after))
          | start => pure start
        else throw (.next .noObjectSeparator (c :: rest))
      match start with
      | '"' :: rest =>
        let (name, rest) ← readText rest
        match skipSpace rest with
        | [] => throw (.here .endInObject [])
        | ':' :: rest =>
          let (value, rest) ← readValue fuel depth rest
          let (members, rest) ← readMembers fuel depth false rest
          return ((name, value) :: members, rest)
        | other => throw (.next .noColon other)
      | other => throw (.next .noMemberName other)

end

def parse (text : String) : Except Fault Json :=
  let characters := text.toList
  let document := do
    let (document, rest) ← readValue (2 * characters.length + 2) depthLimit characters
    match skipSpace rest with
    | [] => pure document
    | other => throw (Stop.next .trailingCharacters other)
  document.mapError (Stop.toFault characters)

/-- Reads a whole text as one document; a repeated member keeps its place and its last value. -/
def read (text : String) : Except Fault Json :=
  (parse text).map settle

end SqlComposer.Json

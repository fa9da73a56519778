import SqlComposer.Json.Basic
import SqlComposer.Number.Layout
import SqlComposer.Text.Hex

/-!
The compact text of a JSON document: no blanks, members in order, and only those characters
escaped that have to be.
-/

namespace SqlComposer

def JsonNumber.write : JsonNumber → String
  | .integer n _ => n.repr
  | .real x _ => x.write .json

namespace Json

def writeChar (c : Char) : List Char :=
  match c with
  | '"' => ['\\', '"']
  | '\\' => ['\\', '\\']
  | '\x08' => ['\\', 'b']
  | '\t' => ['\\', 't']
  | '\n' => ['\\', 'n']
  | '\x0c' => ['\\', 'f']
  | '\r' => ['\\', 'r']
  | c =>
    if c.toNat < 0x20 then '\\' :: 'u' :: Text.hexPadded 4 c.toNat else [c]

def writeText (s : String) : List Char :=
  '"' :: (s.toList.flatMap writeChar ++ ['"'])

mutual

def write : Json → List Char
  | .null => ['n', 'u', 'l', 'l']
  | .bool true => ['t', 'r', 'u', 'e']
  | .bool false => ['f', 'a', 'l', 's', 'e']
  | .number n => n.write.toList
  | .string s => writeText s
  | .array items => '[' :: (writeItems items ++ [']'])
  | .object members => '\x7b' :: (writeMembers members ++ ['\x7d'])

def writeItems : List Json → List Char
  | [] => []
  | [item] => write item
  | item :: items => write item ++ ',' :: writeItems items

def writeMembers : List (String × Json) → List Char
  | [] => []
  | [(name, value)] => writeText name ++ ':' :: write value
  | (name, value) :: members =>
    writeText name ++ ':' :: (write value ++ ',' :: writeMembers members)

end

def compact (document : Json) : String :=
  String.ofList document.write

end Json

end SqlComposer

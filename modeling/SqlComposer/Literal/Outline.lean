import SqlComposer.Json.Writing
import SqlComposer.Literal.Value
import SqlComposer.Text.Outline

/-!
Outlines of documents and values, as they stand in messages about them.
-/

namespace SqlComposer

namespace Json

mutual

def outline : Json → String
  | .null => "Null"
  | .bool b => Outline.variant "Bool" [toString b]
  | .number n => Outline.variant "Number" [n.write]
  | .string s => Outline.variant "String" [Outline.text s]
  | .array items => "Array " ++ Outline.list (outlineItems items)
  | .object members => "Object \x7b" ++ ", ".intercalate (outlineMembers members) ++ "\x7d"

def outlineItems : List Json → List String
  | [] => []
  | item :: items => outline item :: outlineItems items

def outlineMembers : List (String × Json) → List String
  | [] => []
  | (name, value) :: members =>
    (Outline.text name ++ ": " ++ outline value) :: outlineMembers members

end

end Json

def Value.outline : Value → String
  | .null => "Null"
  | .bool b => Outline.variant "Bool" [toString b]
  | .int n => Outline.variant "Int" [n.toInt.repr]
  | .uint n => Outline.variant "UInt" [n.toNat.repr]
  | .float x => Outline.variant "Float" [x.write .outline]
  | .text s => Outline.variant "Text" [Outline.text s]
  | .bytes content => Outline.variant "Bytes" [Outline.list (content.map fun byte => byte.toNat.repr)]
  | .dateTime moment => Outline.variant "DateTime" [String.ofList moment.text]
  | .date day => Outline.variant "Date" [String.ofList day.text]
  | .uuid id => Outline.variant "Uuid" [String.ofList id.text]
  | .json document => Outline.variant "Json" [document.outline]
  | .raw sql => Outline.variant "Raw" [Outline.text sql]

end SqlComposer

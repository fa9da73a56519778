import SqlComposer.Text.Visible

/-!
Outlines: one-line texts that show how a value is built, as they stand in messages. Text is
quoted, a record shows its fields by name and a variant its arguments.
-/

namespace SqlComposer.Text

def outlineChar (c : Char) : List Char :=
  match c with
  | '"' => ['\\', '"']
  | '\\' => ['\\', '\\']
  | '\n' => ['\\', 'n']
  | '\r' => ['\\', 'r']
  | '\t' => ['\\', 't']
  | '\x00' => ['\\', '0']
  | c =>
    if isVisible c then [c]
    else '\\' :: 'u' :: '\x7b' :: (Nat.toDigits 16 c.toNat ++ ['\x7d'])

end SqlComposer.Text

namespace SqlComposer.Outline

def text (content : String) : String :=
  String.ofList ('"' :: (content.toList.flatMap Text.outlineChar ++ ['"']))

def list (items : List String) : String :=
  "[" ++ ", ".intercalate items ++ "]"

/-- `Name(a, b)`, or `(a, b)` for a tuple, whose name is empty. -/
def variant (name : String) (arguments : List String) : String :=
  name ++ "(" ++ ", ".intercalate arguments ++ ")"

def field (entry : String × String) : String :=
  entry.1 ++ ": " ++ entry.2

def record (name : String) (fields : List (String × String)) : String :=
  name ++ " \x7b " ++ ", ".intercalate (fields.map field) ++ " \x7d"

def openRecord (name : String) (fields : List (String × String)) : String :=
  name ++ " \x7b " ++ ", ".intercalate (fields.map field ++ [".."]) ++ " \x7d"

def optional {α : Type} (outline : α → String) : Option α → String
  | none => "None"
  | some value => variant "Some" [outline value]

end SqlComposer.Outline

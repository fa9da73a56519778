import SqlComposer.Json.Reading

/-!
Taking a text apart without reading it: the members of an object and the items of an array, each
with the text of its value. A value is passed over by its form alone: a number may be of any size,
an escape may be half of a pair, and values may nest to any depth.
-/

namespace SqlComposer.Json

def skipText : List Char → Option (List Char)
  | [] => none
  | '"' :: rest => some rest
  | '\\' :: 'u' :: a :: b :: c :: d :: rest =>
    if (Text.hexNumber? 0 [a, b, c, d]).isSome then skipText rest else none
  | '\\' :: c :: rest =>
    if c ∈ ['"', '\\', '/', 'b', 'f', 'n', 'r', 't'] then skipText rest else none
  | c :: rest => if c.toNat < 0x20 then none else skipText rest

def skipDigits (text : List Char) : Option (List Char) :=
  if startsWithDigit text then some (text.dropWhile Char.isDigit) else none

def skipExponent (text : List Char) : Option (List Char) :=
  match text with
  | 'e' :: '+' :: rest | 'e' :: '-' :: rest | 'E' :: '+' :: rest | 'E' :: '-' :: rest
  | 'e' :: rest | 'E' :: rest => skipDigits rest
  | rest => some rest

def skipNumeral (text : List Char) : Option (List Char) := do
  let rest ← match text with
    | '0' :: rest => if startsWithDigit rest then none else some rest
    | digits => skipDigits digits
  match rest with
  | '.' :: rest => skipExponent (← skipDigits rest)
  | rest => skipExponent rest

mutual

/-- What follows a value; no more than half of `fuel` characters are left. -/
def skipValue : (fuel : Nat) → List Char → Option (List Char)
  | 0, _ => none
  | fuel + 1, text => match skipSpace text with
    | [] => none
    | 'n' :: 'u' :: 'l' :: 'l' :: rest => some rest
    | 't' :: 'r' :: 'u' :: 'e' :: rest => some rest
    | 'f' :: 'a' :: 'l' :: 's' :: 'e' :: rest => some rest
    | '"' :: rest => skipText rest
    | '-' :: rest => skipNumeral rest
    | '[' :: rest => match skipSpace rest with
      | ']' :: rest => some rest
      | items => skipItems fuel items
    | '\x7b' :: rest => match skipSpace rest with
      | '\x7d' :: rest => some rest
      | members => skipMembers fuel members
    | c :: rest => if c.isDigit then skipNumeral (c :: rest) else none

def skipItems : (fuel : Nat) → List Char → Option (List Char)
  | 0, _ => none
  | fuel + 1, text => do
    match skipSpace (← skipValue fuel text) with
    | ',' :: rest => skipItems fuel rest
    | ']' :: rest => some rest
    | _ => none

def skipMembers : (fuel : Nat) → List Char → Option (List Char)
  | 0, _ => none
  | fuel + 1, text => match skipSpace text with
    | '"' :: rest => do
      match skipSpace (← skipText rest) with
      | ':' :: rest =>
        match skipSpace (← skipValue fuel rest) with
        | ',' :: rest => skipMembers fuel rest
        | '\x7d' :: rest => some rest
        | _ => none
      | _ => none
    | _ => none

end

def piece? (text : List Char) : Option (List Char × List Char) := do
  let rest ← skipValue (2 * text.length + 2) text
  return (text.take (text.length - rest.length), rest)

def itemPieces? : (fuel : Nat) → List Char → Option (List (List Char) × List Char)
  | 0, _ => none
  | fuel + 1, text => do
    let (piece, rest) ← piece? text
    match skipSpace rest with
    | ',' :: rest =>
      let (pieces, rest) ← itemPieces? fuel rest
      return (piece :: pieces, rest)
    | ']' :: rest => return ([piece], rest)
    | _ => none

/-- The pieces of an object with one member or more to come, and what follows it. Names are read. -/
def memberPieces? : (fuel : Nat) → List Char → Option (List (String × List Char) × List Char)
  | 0, _ => none
  | fuel + 1, text => match skipSpace text with
    | '"' :: rest => do
      let (name, rest) ← (readText rest).toOption
      match skipSpace rest with
      | ':' :: rest =>
        let (piece, rest) ← piece? rest
        match skipSpace rest with
        | ',' :: rest =>
          let (pieces, rest) ← memberPieces? fuel rest
          return ((name, piece) :: pieces, rest)
        | '\x7d' :: rest => return ([(name, piece)], rest)
        | _ => none
      | _ => none
    | _ => none

inductive Pieces where
  | items (pieces : List (List Char))
  | members (pieces : List (String × List Char))
deriving DecidableEq, Repr

def pieces? (text : String) : Option Pieces := do
  let characters := text.toList
  let (pieces, rest) ← match skipSpace characters with
    | '[' :: rest => match skipSpace rest with
      | ']' :: rest => some (.items [], rest)
      | items => (itemPieces? items.length items).map fun (pieces, rest) => (.items pieces, rest)
    | '\x7b' :: rest => match skipSpace rest with
      | '\x7d' :: rest => some (.members [], rest)
      | members =>
        (memberPieces? members.length members).map fun (pieces, rest) => (.members pieces, rest)
    | _ => none
  if (skipSpace rest).isEmpty then some pieces else none

end SqlComposer.Json

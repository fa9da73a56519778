import SqlComposer.Number.Shortest

/-!
The text of a binary word: its shortest decimal, laid out in positional or in exponent notation.
-/

namespace SqlComposer

/-- The decisions that a written number leaves open. The orders of magnitude from `plainFrom` up to
but not including `plainBelow` are written positionally, whole numbers with `.0` if the layout
`keepsPoint`. -/
structure Layout where
  tie : Tie
  keepsPoint : Bool
  plainFrom : Option Int
  plainBelow : Option Int
  signsExponent : Bool

namespace Layout

def plain : Layout := ⟨.away, false, none, none, false⟩

def outline : Layout := ⟨.away, true, some (-4), some 16, false⟩

def json : Layout := ⟨.even, true, some (-5), some 16, true⟩

def jsonSingle : Layout := ⟨.even, true, some (-6), some 13, true⟩

def isPositional (layout : Layout) (order : Int) : Bool :=
  layout.plainFrom.all (fun least => decide (least ≤ order)) &&
    layout.plainBelow.all (fun bound => decide (order < bound))

def positional (keepsPoint : Bool) (digits : List Char) (exponent : Int) : List Char :=
  let point := (digits.length : Int) + exponent
  if 0 ≤ exponent then
    digits ++ List.replicate exponent.toNat '0' ++ (if keepsPoint then ['.', '0'] else [])
  else if 0 < point then
    digits.take point.toNat ++ '.' :: digits.drop point.toNat
  else
    '0' :: '.' :: (List.replicate (-point).toNat '0' ++ digits)

def scientific (signsExponent : Bool) (digits : List Char) (order : Int) : List Char :=
  let mantissa := match digits with
    | first :: second :: rest => first :: '.' :: second :: rest
    | short => short
  let sign := if signsExponent && decide (0 ≤ order) then ['+'] else []
  mantissa ++ 'e' :: sign ++ order.repr.toList

def decimal (layout : Layout) (number : Decimal) : List Char :=
  let digits := Nat.toDigits 10 number.digits
  let order := (digits.length : Int) + number.exponent - 1
  if number.digits = 0 || layout.isPositional order then
    positional layout.keepsPoint digits number.exponent
  else
    scientific layout.signsExponent digits order

end Layout

def Binary.write {format : Format} (layout : Layout) (x : Binary format) : String :=
  if x.isNaN then "NaN"
  else
    let sign := if x.isNegative then ['-'] else []
    if x.isFinite then
      String.ofList (sign ++ layout.decimal (Decimal.shortest layout.tie x))
    else
      String.ofList (sign ++ ['i', 'n', 'f'])

end SqlComposer

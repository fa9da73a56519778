import SqlComposer.Json.Basic
import SqlComposer.Json.Fault

/-!
Numerals in a JSON text. An integer of 64 bits is exact. Any other numeral becomes a real: its
leading digits are gathered into a significand of 64 bits, which is then scaled by a rounded
power of ten, so the result may be a unit in the last place away from the nearest word.
-/

namespace SqlComposer.Json

def gatherDigits (value count : Nat) : List Char → Nat × Nat × List Char
  | [] => (value, count, [])
  | c :: rest =>
    let next := 10 * value + (c.toNat - '0'.toNat)
    if c.isDigit ∧ next < 2 ^ 64 then gatherDigits next (count + 1) rest
    else (value, count, c :: rest)

def startsWithDigit (text : List Char) : Bool :=
  text.head?.any Char.isDigit

def powerOfTen (exponent : Nat) : Binary64 :=
  .ofQuotient false (10 ^ exponent) 1

/--
Scales a word by a power of ten in one rounded step, or in several where the power itself has
no word; `none` if the result is too large.
-/
def scaleByTen? : (steps : Nat) → Binary64 → Int → Option Binary64
  | 0, x, _ => some x
  | steps + 1, x, exponent =>
    if 308 < exponent then
      if x.isZero then some x else none
    else if 0 ≤ exponent then
      let scaled := x.product (powerOfTen exponent.toNat)
      if scaled.isFinite then some scaled else none
    else if -308 ≤ exponent then some (x.quotient (powerOfTen (-exponent).toNat))
    else if x.isZero then some x
    else scaleByTen? steps (x.quotient (powerOfTen 308)) (exponent + 308)

/-- The real that a significand and an exponent give. Three steps take any significand to zero. -/
def realNumber (negative : Bool) (significand : Nat) (exponent : Int) (rest : List Char) :
    Except Stop (JsonNumber × List Char) :=
  match scaleByTen? 4 (.ofQuotient false significand 1) exponent with
  | none => .error (.here .numberTooLarge rest)
  | some size =>
    let x := if negative then size.negate else size
    if finite : x.isFinite = true then .ok (.real x finite, rest)
    else .error (.here .numberTooLarge rest)

def gatherExponent (value : Nat) : List Char → Nat × List Char × Bool
  | [] => (value, [], true)
  | c :: rest =>
    if c.isDigit then
      let next := 10 * value + (c.toNat - '0'.toNat)
      if next < 2 ^ 31 then gatherExponent next rest else (value, rest, false)
    else (value, c :: rest, true)

def readExponentPart (negative : Bool) (significand : Nat) (start : Int) (text : List Char) :
    Except Stop (JsonNumber × List Char) :=
  let (below, digits) := match text with
    | '+' :: digits => (false, digits)
    | '-' :: digits => (true, digits)
    | digits => (false, digits)
  match digits with
  | [] => .error (.here .endInValue [])
  | c :: _ =>
    if c.isDigit then
      let (size, rest, fits) := gatherExponent 0 digits
      if fits then
        realNumber negative significand (if below then start - size else start + size) rest
      else if significand ≠ 0 ∧ ¬ below then .error (.here .numberTooLarge rest)
      else realNumber negative 0 0 (rest.dropWhile Char.isDigit)
    else .error (.next .badNumber digits)

def readEnding (negative : Bool) (significand : Nat) (exponent : Int) (text : List Char) :
    Except Stop (JsonNumber × List Char) :=
  match text with
  | 'e' :: rest | 'E' :: rest => readExponentPart negative significand exponent rest
  | rest => realNumber negative significand exponent rest

def readFraction (negative : Bool) (significand : Nat) (exponent : Int) (text : List Char) :
    Except Stop (JsonNumber × List Char) :=
  let (gathered, count, rest) := gatherDigits significand 0 text
  if startsWithDigit rest then
    readEnding negative gathered (exponent - count) (rest.dropWhile Char.isDigit)
  else if count = 0 then
    match rest with
    | [] => .error (.here .endInValue [])
    | _ :: _ => .error (.next .badNumber rest)
  else readEnding negative gathered (exponent - count) rest

def readAfterWhole (negative : Bool) (significand : Nat) (exponent : Int) (text : List Char) :
    Except Stop (JsonNumber × List Char) :=
  match text with
  | '.' :: rest => readFraction negative significand exponent rest
  | rest => readEnding negative significand exponent rest

/-- The number of a numeral without point and exponent. Minus zero is a real. -/
def wholeNumber (negative : Bool) (significand : Nat) (rest : List Char) :
    Except Stop (JsonNumber × List Char) :=
  let n : Int := if negative then -(significand : Int) else significand
  if range : (-2 ^ 63 ≤ n ∧ n < 2 ^ 64) ∧ ¬ (negative ∧ significand = 0) then
    .ok (.integer n range.1, rest)
  else realNumber negative significand 0 rest

def readNumeral (negative : Bool) (text : List Char) :
    Except Stop (JsonNumber × List Char) :=
  let afterWhole (significand : Nat) (rest : List Char) :=
    match rest with
    | '.' :: _ | 'e' :: _ | 'E' :: _ => readAfterWhole negative significand 0 rest
    | _ => wholeNumber negative significand rest
  match text with
  | [] => .error (.here .endInValue [])
  | '0' :: rest =>
    if startsWithDigit rest then .error (.next .badNumber rest) else afterWhole 0 rest
  | c :: _ =>
    if c.isDigit then
      let (significand, _, rest) := gatherDigits 0 0 text
      if startsWithDigit rest then
        let dropped := rest.takeWhile Char.isDigit
        readAfterWhole negative significand dropped.length (rest.dropWhile Char.isDigit)
      else afterWhole significand rest
    else .error (.next .badNumber text)

end SqlComposer.Json

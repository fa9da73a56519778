import SqlComposer.Proofs.Reading.Quoted

/-!
The tokens of a statement: words, numbers, quoted literals and marks, with blanks between them.
Quoted literals follow the rules of the dialect.
-/

namespace SqlComposer.Reading

inductive Mark where
  | leftParen
  | rightParen
  | comma
  | equals
  | less
  | atMost
  | greater
  | atLeast
  | minus
  | star
  | cast
deriving DecidableEq, Repr

inductive Token where
  | word (letters : List Char)
  | number (n : Nat)
  | text (content : List Char)
  | bytes (content : List UInt8)
  | mark (mark : Mark)
deriving DecidableEq, Repr

def startsName (c : Char) : Bool :=
  c.isAlpha || c == '_'

def continuesName (c : Char) : Bool :=
  c.isAlphanum || c == '_' || c == '.'

def readMark : List Char → Option (Mark × List Char)
  | '(' :: rest => some (.leftParen, rest)
  | ')' :: rest => some (.rightParen, rest)
  | ',' :: rest => some (.comma, rest)
  | '=' :: rest => some (.equals, rest)
  | '<' :: '=' :: rest => some (.atMost, rest)
  | '<' :: rest => some (.less, rest)
  | '>' :: '=' :: rest => some (.atLeast, rest)
  | '>' :: rest => some (.greater, rest)
  | '-' :: rest => some (.minus, rest)
  | '*' :: rest => some (.star, rest)
  | ':' :: ':' :: rest => some (.cast, rest)
  | _ => none

inductive Quotation where
  | standard
  | escaping
  | hexadecimal
deriving DecidableEq, Repr

namespace Quotation

def escapes : Quotation → Bool
  | .escaping => true
  | _ => false

def token? : Quotation → List Char → Option Token
  | .hexadecimal, digits => (Text.bytesOfHex? digits).map .bytes
  | _, content => some (.text content)

/--
Reads an opening quote and the letter in front of it. The letter makes backslashes escape under
PostgreSQL, where they do not otherwise, and makes the literal hexadecimal under MySQL.
-/
def opening? (dialect : Dialect) : List Char → Option (Quotation × List Char)
  | '\'' :: rest => some (if dialect = .mysql then .escaping else .standard, rest)
  | letter :: '\'' :: rest =>
    match dialect, letter with
    | .mysql, 'X' | .mysql, 'x' => some (.hexadecimal, rest)
    | .postgres, 'E' | .postgres, 'e' => some (.escaping, rest)
    | _, _ => none
  | _ => none

end Quotation

def readQuoted (dialect : Dialect) (text : List Char) : Option (Token × List Char) := do
  let (quotation, rest) ← Quotation.opening? dialect text
  let (content, rest) ← unquote dialect quotation.escapes rest
  return (← quotation.token? content, rest)

def readPlain : List Char → Option (Token × List Char)
  | [] => none
  | c :: rest =>
    if startsName c then
      some (.word (c :: rest.takeWhile continuesName), rest.dropWhile continuesName)
    else if c.isDigit then
      some (.number (Nat.ofDigitChars 10 (c :: rest.takeWhile Char.isDigit) 0),
        rest.dropWhile Char.isDigit)
    else none

def readToken (dialect : Dialect) (text : List Char) : Option (Token × List Char) :=
  match readMark text with
  | some (mark, rest) => some (.mark mark, rest)
  | none => (readQuoted dialect text).or (readPlain text)

theorem length_readMark_lt {text rest : List Char} {mark : Mark}
    (read : readMark text = some (mark, rest)) : rest.length < text.length := by
  unfold readMark at read
  split at read
  all_goals simp only [Option.some.injEq, Prod.mk.injEq, reduceCtorEq] at read
  all_goals rw [← read.2]
  all_goals simp only [List.length_cons]
  all_goals omega

theorem length_opening?_lt {dialect : Dialect} {text rest : List Char} {quotation : Quotation}
    (read : Quotation.opening? dialect text = some (quotation, rest)) :
    rest.length < text.length := by
  unfold Quotation.opening? at read
  split at read
  · simp only [Option.some.injEq, Prod.mk.injEq] at read
    simp [← read.2]
  · split at read
    all_goals simp only [Option.some.injEq, Prod.mk.injEq, reduceCtorEq] at read
    all_goals rw [← read.2]
    all_goals simp only [List.length_cons]
    all_goals omega
  · simp at read

theorem length_readQuoted_lt {dialect : Dialect} {text rest : List Char} {token : Token}
    (read : readQuoted dialect text = some (token, rest)) : rest.length < text.length := by
  simp only [readQuoted, Option.bind_eq_bind, Option.bind_eq_some_iff, Prod.exists,
    Option.pure_def, Option.some.injEq, Prod.mk.injEq] at read
  obtain ⟨quotation, opened, found, content, after, inner, _, _, _, rfl⟩ := read
  have outside := length_opening?_lt found
  have inside := length_unquote_lt inner
  omega

theorem length_readPlain_lt {text rest : List Char} {token : Token}
    (read : readPlain text = some (token, rest)) : rest.length < text.length := by
  cases text with
  | nil => simp [readPlain] at read
  | cons c text =>
      have names := (List.dropWhile_sublist continuesName (l := text)).length_le
      have digits := (List.dropWhile_sublist Char.isDigit (l := text)).length_le
      simp only [readPlain] at read
      split at read
      · simp only [Option.some.injEq, Prod.mk.injEq] at read
        simp only [← read.2, List.length_cons]
        omega
      · split at read
        · simp only [Option.some.injEq, Prod.mk.injEq] at read
          simp only [← read.2, List.length_cons]
          omega
        · simp at read

theorem length_readToken_lt {dialect : Dialect} {text rest : List Char} {token : Token}
    (read : readToken dialect text = some (token, rest)) : rest.length < text.length := by
  unfold readToken at read
  split at read
  · rename_i mark after marked
    simp only [Option.some.injEq, Prod.mk.injEq] at read
    rw [← read.2]
    exact length_readMark_lt marked
  · rcases Option.or_eq_some_iff.mp read with quoted | ⟨_, plain⟩
    · exact length_readQuoted_lt quoted
    · exact length_readPlain_lt plain

/-- All tokens of a text, or `none` if a part of it is no token. -/
def tokenize (dialect : Dialect) : List Char → Option (List Token)
  | [] => some []
  | c :: rest =>
    if c.isWhitespace then tokenize dialect rest
    else match read : readToken dialect (c :: rest) with
      | none => none
      | some (token, after) =>
        have : after.length < (c :: rest).length := length_readToken_lt read
        (tokenize dialect after).map (token :: ·)
termination_by text => text.length
decreasing_by
  · exact Nat.lt_succ_self rest.length
  · exact this

theorem tokenize_nil (dialect : Dialect) : tokenize dialect [] = some [] := by
  rw [tokenize]

theorem tokenize_blank (dialect : Dialect) {c : Char} (blank : c.isWhitespace = true)
    (rest : List Char) : tokenize dialect (c :: rest) = tokenize dialect rest := by
  rw [tokenize, if_pos blank]

theorem readToken_blank (dialect : Dialect) {c : Char} (blank : c.isWhitespace = true)
    (rest : List Char) : readToken dialect (c :: rest) = none := by
  simp only [Char.isWhitespace, Bool.or_eq_true, decide_eq_true_eq] at blank
  have plain : readPlain (c :: rest) = none := by
    rcases blank with ((rfl | rfl) | rfl) | rfl <;> rfl
  have marked : readMark (c :: rest) = none := by
    rcases blank with ((rfl | rfl) | rfl) | rfl <;> rfl
  have quoted : readQuoted dialect (c :: rest) = none := by
    have opened : Quotation.opening? dialect (c :: rest) = none := by
      cases rest with
      | nil => rcases blank with ((rfl | rfl) | rfl) | rfl <;> rfl
      | cons next rest =>
          by_cases quote : next = '\''
          · subst quote
            cases dialect <;> rcases blank with ((rfl | rfl) | rfl) | rfl <;> rfl
          · rcases blank with ((rfl | rfl) | rfl) | rfl <;> simp [Quotation.opening?, quote]
    simp [readQuoted, opened]
  simp [readToken, marked, quoted, plain]

theorem tokenize_of_readToken {dialect : Dialect} {text rest : List Char} {token : Token}
    (read : readToken dialect text = some (token, rest)) :
    tokenize dialect text = (tokenize dialect rest).map (token :: ·) := by
  cases text with
  | nil => exact absurd (length_readToken_lt read) (by simp)
  | cons c text =>
      have visible : ¬ c.isWhitespace = true := by
        intro blank
        rw [readToken_blank dialect blank] at read
        exact absurd read (by simp)
      rw [tokenize, if_neg visible]
      split
      · rename_i unread
        rw [read] at unread
        exact absurd unread (by simp)
      · rename_i found after again
        rw [read] at again
        cases again
        rfl

end SqlComposer.Reading

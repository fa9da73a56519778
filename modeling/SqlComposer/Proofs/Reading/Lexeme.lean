import SqlComposer.Literal.Dialect

/-!
SQL as a server takes it, one character after the other, under its default settings. In strings,
quoted names and comments a parenthesis is no parenthesis.
-/

namespace SqlComposer.Reading

inductive Quote where
  | single
  | double
  | back
deriving DecidableEq, Repr

def Quote.char : Quote → Char
  | .single => '\''
  | .double => '"'
  | .back => '`'

/-- What a reader has passed, as far as it decides how the next character is meant. -/
inductive Lexeme where
  /-- Nothing that matters. If it `resumes`, a PostgreSQL string with escapes goes on. -/
  | plain (resumes : Bool)
  | word
  /-- The letter `E` by itself: under PostgreSQL backslashes escape in a string behind it. -/
  | mark
  | quoted (quote : Quote) (escapes : Bool)
  | escaped (quote : Quote)
  /-- A quote in its own string: it ends the string unless another follows. -/
  | ended (quote : Quote) (escapes : Bool)
  | dash (resumes : Bool)
  | dashes
  | slash
  | line (resumes : Bool)
  | opened
  | block (level : Nat) (last : Char)
  | dollar (tag : List Char)
  | dollarQuoted (tag : List Char) (since : Option (List Char))
  /-- A comment that a server may run: what follows it is not settled. -/
  | unsettled
deriving DecidableEq, Repr

def isSpace (c : Char) : Bool :=
  [' ', '\t', '\n', '\r', '\x0b', '\x0c'].contains c

def continuesWord (c : Char) : Bool :=
  c.isAlphanum || c == '_' || c == '$' || decide (128 ≤ c.toNat)

def endsLine (dialect : Dialect) (c : Char) : Bool :=
  c == '\n' || match dialect with
    | .mysql => c == '\x00'
    | .postgres => c == '\r'

def isSolid (c : Char) : Bool :=
  !isSpace c && c != '\'' && c != '-'

def isBare (c : Char) : Bool :=
  !(['\'', '"', '`', '(', '#', '$', '-', '/'].contains c)

namespace Lexeme

def isInside : Lexeme → Bool
  | .quoted _ _ | .escaped _ | .line _ | .opened | .block _ _ | .dollarQuoted _ _
  | .unsettled => true
  | _ => false

def isInWord : Lexeme → Bool
  | .word | .mark => true
  | _ => false

/-- In PostgreSQL the next part of a string is read as the part before it. -/
def resumes (dialect : Dialect) : Lexeme → Bool
  | .plain resumes => resumes
  | .ended quote escapes => dialect = .postgres && quote = .single && escapes
  | _ => false

def nextOutside (dialect : Dialect) (before : Lexeme) (c : Char) : Lexeme :=
  if c = '\'' then
    .quoted .single (dialect = .mysql || before = .mark || before.resumes dialect)
  else if c = '"' then .quoted .double (dialect = .mysql)
  else if c = '`' ∧ dialect = .mysql then .quoted .back false
  else if c = '#' ∧ dialect = .mysql then .line false
  else if c = '-' then .dash (before.resumes dialect)
  else if c = '/' then .slash
  else if isSpace c then .plain (before.resumes dialect)
  else if continuesWord c then
    if before.isInWord then .word
    else if dialect = .mysql then .word
    else if c = '$' then .dollar []
    else if c = 'E' ∨ c = 'e' then .mark
    else .word
  else .plain false

def nextInBlock (dialect : Dialect) (level : Nat) (last c : Char) : Lexeme :=
  if last = '*' ∧ c = '/' then
    match level with
    | 0 => .plain false
    | level + 1 => .block level ' '
  else if dialect = .postgres ∧ last = '/' ∧ c = '*' then .block (level + 1) ' '
  else .block level c

def next (dialect : Dialect) : Lexeme → Char → Lexeme
  | .quoted quote escapes, c =>
    if c = quote.char then .ended quote escapes
    else if escapes && c = '\\' then .escaped quote
    else .quoted quote escapes
  | .escaped quote, _ => .quoted quote true
  | .ended quote escapes, c =>
    if c = quote.char then .quoted quote escapes
    else nextOutside dialect (.ended quote escapes) c
  | .dash resumes, c =>
    if c = '-' then match dialect with
      | .mysql => .dashes
      | .postgres => .line resumes
    else nextOutside dialect (.dash resumes) c
  -- two dashes begin a comment of MySQL only if a blank or a control follows
  | .dashes, c =>
    if c = '-' then .dashes
    else if c.toNat ≤ 32 ∨ c.toNat = 127 then
      if endsLine .mysql c then .plain false else .line false
    else nextOutside dialect .dashes c
  | .slash, c => if c = '*' then .opened else nextOutside dialect .slash c
  | .line resumes, c => if endsLine dialect c then .plain resumes else .line resumes
  | .opened, c =>
    if dialect = .mysql ∧ (c = '!' ∨ c = '+') then .unsettled
    else nextInBlock dialect 0 ' ' c
  | .block level last, c => nextInBlock dialect level last c
  | .dollar tag, c =>
    if c = '$' then .dollarQuoted tag none
    else if continuesWord c ∧ (tag = [] → c.isDigit = false) then .dollar (tag ++ [c])
    else nextOutside dialect .word c
  | .dollarQuoted tag since, c =>
    if c = '$' then if since = some tag then .plain false else .dollarQuoted tag (some [])
    else .dollarQuoted tag (since.map (· ++ [c]))
  | .unsettled, _ => .unsettled
  | before, c => nextOutside dialect before c

variable {dialect : Dialect} {lexeme : Lexeme}

theorem next_separator {c : Char} (separator : c = ',' ∨ c = ')')
    (outside : lexeme.isInside = false) : lexeme.next dialect c = .plain false := by
  cases lexeme with
  | quoted | escaped | line | opened | block | dollarQuoted | unsettled => cases outside
  | ended quote => rcases separator with rfl | rfl <;> cases quote <;> rfl
  | plain | word | mark | dash | dashes | slash | dollar =>
      rcases separator with rfl | rfl <;> rfl

theorem next_space (outside : lexeme.isInside = false) (whole : lexeme ≠ .dashes) :
    ∃ resumes, lexeme.next dialect ' ' = .plain resumes := by
  cases lexeme with
  | quoted | escaped | line | opened | block | dollarQuoted | unsettled => cases outside
  | dashes => exact absurd rfl whole
  | ended quote => cases quote <;> exact ⟨_, rfl⟩
  | plain | word | mark | dash | slash | dollar => exact ⟨_, rfl⟩

theorem next_plain_of_isSolid {c : Char} (solid : isSolid c = true) (resumes : Bool) :
    next dialect (.plain resumes) c = next dialect (.plain false) c := by
  simp only [isSolid, Bool.and_eq_true, Bool.not_eq_true', bne_iff_ne] at solid
  obtain ⟨⟨noSpace, noQuote⟩, noDash⟩ := solid
  simp [next, nextOutside, noSpace, noQuote, noDash, isInWord]

def isCalm : Lexeme → Bool
  | .plain resumes | .dash resumes => !resumes
  | .word | .mark => true
  | _ => false

theorem isInside_of_isCalm (calm : lexeme.isCalm = true) : lexeme.isInside = false := by
  cases lexeme with
  | plain | word | mark | dash => rfl
  | _ => cases calm

theorem ne_dashes_of_isCalm (calm : lexeme.isCalm = true) : lexeme ≠ .dashes := by
  rintro rfl
  cases calm

theorem resumes_of_isCalm (calm : lexeme.isCalm = true) : lexeme.resumes dialect = false := by
  cases lexeme with
  | plain resumes => simpa [isCalm, Lexeme.resumes] using calm
  | word | mark | dash => rfl
  | _ => cases calm

theorem isCalm_next {c : Char} (calm : lexeme.isCalm = true) (bare : isBare c = true) :
    (lexeme.next dialect c).isCalm = true := by
  simp only [isBare, List.contains_cons, List.contains_nil, Bool.or_false, Bool.not_eq_true',
    Bool.or_eq_false_iff, beq_eq_false_iff_ne] at bare
  obtain ⟨noQuote, noDouble, noBack, -, noHash, noDollar, noDash, noSlash⟩ := bare
  have outside : (nextOutside dialect lexeme c).isCalm = true := by
    simp only [nextOutside, noQuote, noDouble, noBack, noHash, noDollar, noDash, noSlash, if_false,
      false_and, resumes_of_isCalm calm]
    split
    · rfl
    · split
      · split
        · rfl
        · split
          · rfl
          · split <;> rfl
      · rfl
  cases lexeme with
  | plain | word | mark => exact outside
  | dash => simpa [next, noDash] using outside
  | _ => cases calm

def read (dialect : Dialect) (lexeme : Lexeme) (text : List Char) : Lexeme :=
  text.foldl (next dialect) lexeme

theorem isCalm_read (dialect : Dialect) {text : List Char} (calm : lexeme.isCalm = true)
    (bare : ∀ c ∈ text, isBare c = true) : (lexeme.read dialect text).isCalm = true := by
  induction text generalizing lexeme with
  | nil => exact calm
  | cons c text ih =>
      exact ih (isCalm_next calm (bare c List.mem_cons_self))
        fun other member => bare other (List.mem_cons_of_mem c member)

theorem next_space_of_isCalm (calm : lexeme.isCalm = true) :
    lexeme.next dialect ' ' = .plain false := by
  have outside : nextOutside dialect lexeme ' ' = .plain (lexeme.resumes dialect) := rfl
  rw [resumes_of_isCalm calm] at outside
  cases lexeme with
  | plain | word | mark | dash => exact outside
  | _ => cases calm

end Lexeme

end SqlComposer.Reading

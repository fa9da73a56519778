import SqlComposer.Proofs.Reading.Token

/-!
Which texts spell which tokens, whatever follows them. Texts are put together from parts with
glue between them, and the tokens of the whole are the tokens of the parts and of the glue.
-/

namespace SqlComposer.Reading

def isBoundary (c : Char) : Bool :=
  c == ' ' || c == ',' || c == ')'

def Bounded (rest : List Char) : Prop :=
  ∀ c, rest.head? = some c → isBoundary c = true

theorem bounded_nil : Bounded [] := by
  intro c head
  simp at head

theorem bounded_cons {c : Char} (boundary : isBoundary c = true) (rest : List Char) :
    Bounded (c :: rest) := by
  intro first head
  cases head
  exact boundary

theorem Bounded.head_ne {rest : List Char} (bounded : Bounded rest) {c : Char}
    (inside : isBoundary c = false) : rest.head? ≠ some c := by
  intro head
  have boundary := bounded c head
  rw [inside] at boundary
  exact absurd boundary (by simp)

theorem Bounded.takeWhile_append {rest inside : List Char} (bounded : Bounded rest)
    {within : Char → Bool} (all : ∀ c ∈ inside, within c = true)
    (apart : ∀ c, isBoundary c = true → within c = false) :
    (inside ++ rest).takeWhile within = inside ∧ (inside ++ rest).dropWhile within = rest := by
  rw [List.takeWhile_append_of_pos all, List.dropWhile_append_of_pos all]
  cases rest with
  | nil => simp
  | cons c rest => simp [apart c (bounded c rfl)]

/-- Whatever bounded text follows, the text is read as these tokens. -/
def Spells (dialect : Dialect) (text : List Char) (tokens : List Token) : Prop :=
  ∀ rest, Bounded rest →
    tokenize dialect (text ++ rest) = (tokenize dialect rest).map (tokens ++ ·)

/-- Text that ends what stands before it and needs no end of its own. -/
structure Glue (dialect : Dialect) (text : List Char) (tokens : List Token) : Prop where
  bounded : ∀ rest, Bounded (text ++ rest)
  spells : ∀ rest, tokenize dialect (text ++ rest) = (tokenize dialect rest).map (tokens ++ ·)

variable {dialect : Dialect}

theorem Spells.tokenize_eq {text : List Char} {tokens : List Token}
    (spells : Spells dialect text tokens) : tokenize dialect text = some tokens := by
  have whole := spells [] bounded_nil
  simpa [tokenize_nil] using whole

theorem Spells.nil : Spells dialect [] [] := by
  intro rest _
  simp

theorem Spells.glue {front back between : List Char} {frontTokens backTokens tokens : List Token}
    (first : Spells dialect front frontTokens) (glue : Glue dialect between tokens)
    (second : Spells dialect back backTokens) :
    Spells dialect (front ++ between ++ back) (frontTokens ++ tokens ++ backTokens) := by
  intro rest bounded
  rw [List.append_assoc, List.append_assoc, first _ (glue.bounded _), glue.spells,
    second rest bounded, Option.map_map, Option.map_map]
  simp [Function.comp_def]

theorem Spells.intercalate {ι : Type} {between : List Char} {tokens : List Token}
    (glue : Glue dialect between tokens) {text : ι → List Char} {tokensOf : ι → List Token}
    {items : List ι} (each : ∀ item ∈ items, Spells dialect (text item) (tokensOf item)) :
    Spells dialect (between.intercalate (items.map text))
      (tokens.intercalate (items.map tokensOf)) := by
  induction items with
  | nil => exact Spells.nil
  | cons item items ih =>
      have first := each item (by simp)
      have others := ih fun other member => each other (by simp [member])
      cases items with
      | nil => simpa using first
      | cons next items => simpa using first.glue glue others

theorem Glue.append {left right : List Char} {leftTokens rightTokens : List Token}
    (first : Glue dialect left leftTokens) (second : Glue dialect right rightTokens) :
    Glue dialect (left ++ right) (leftTokens ++ rightTokens) := by
  constructor
  · intro rest
    rw [List.append_assoc]
    exact first.bounded _
  · intro rest
    rw [List.append_assoc, first.spells, second.spells, Option.map_map]
    simp [Function.comp_def]

theorem Glue.space (dialect : Dialect) : Glue dialect [' '] [] := by
  constructor
  · intro rest
    exact bounded_cons (by decide) rest
  · intro rest
    have skipped := tokenize_blank dialect (by decide : Char.isWhitespace ' ' = true) rest
    simpa using skipped

theorem Glue.comma (dialect : Dialect) : Glue dialect [','] [.mark .comma] := by
  constructor
  · intro rest
    exact bounded_cons (by decide) rest
  · intro rest
    have read : readToken dialect (',' :: rest) = some (.mark .comma, rest) := rfl
    simpa using tokenize_of_readToken read

theorem Spells.toGlue {text : List Char} {tokens : List Token}
    (spells : Spells dialect text tokens) : Glue dialect (' ' :: (text ++ [' '])) tokens := by
  constructor
  · intro rest
    exact bounded_cons (by decide) _
  · intro rest
    have blank : Char.isWhitespace ' ' = true := by decide
    have inner := spells (' ' :: rest) (bounded_cons (by decide) rest)
    rw [tokenize_blank dialect blank] at inner
    simpa [tokenize_blank dialect blank] using inner

theorem Spells.space {front back : List Char} {frontTokens backTokens : List Token}
    (first : Spells dialect front frontTokens) (second : Spells dialect back backTokens) :
    Spells dialect (front ++ ' ' :: back) (frontTokens ++ backTokens) := by
  simpa using first.glue (Glue.space dialect) second

theorem Spells.paren {text : List Char} {tokens : List Token}
    (spells : Spells dialect text tokens) :
    Spells dialect ('(' :: (text ++ [')']))
      (.mark .leftParen :: (tokens ++ [.mark .rightParen])) := by
  intro rest bounded
  have opened : readToken dialect ('(' :: (text ++ ')' :: rest)) =
      some (.mark .leftParen, text ++ ')' :: rest) := rfl
  have closed : readToken dialect (')' :: rest) = some (.mark .rightParen, rest) := rfl
  have inner := spells (')' :: rest) (bounded_cons (by decide) rest)
  rw [tokenize_of_readToken closed, Option.map_map] at inner
  have whole := tokenize_of_readToken opened
  rw [inner, Option.map_map] at whole
  simpa [Function.comp_def] using whole

def isWord : List Char → Bool
  | [] => false
  | c :: rest => startsName c && rest.all continuesName

theorem readMark_eq_none {c : Char} (plain : startsName c = true ∨ c.isDigit = true)
    (rest : List Char) : readMark (c :: rest) = none := by
  unfold readMark
  split
  case h_12 => rfl
  all_goals
    rename_i front
    cases front
    exact absurd plain (by decide)

theorem opening?_eq_none {c : Char} (plain : startsName c = true ∨ c.isDigit = true)
    {rest : List Char} (apart : rest.head? ≠ some '\'') :
    Quotation.opening? dialect (c :: rest) = none := by
  unfold Quotation.opening?
  split
  · rename_i front
    cases front
    exact absurd plain (by decide)
  · rename_i front
    cases front
    exact absurd rfl apart
  · rfl

theorem readToken_eq_readPlain {c : Char} (plain : startsName c = true ∨ c.isDigit = true)
    {rest : List Char} (apart : rest.head? ≠ some '\'') :
    readToken dialect (c :: rest) = readPlain (c :: rest) := by
  simp [readToken, readMark_eq_none plain, readQuoted, opening?_eq_none plain apart]

theorem head?_append_ne {inside rest : List Char} {c : Char} (bounded : Bounded rest)
    (first : inside.head? ≠ some c) (apart : isBoundary c = false) :
    (inside ++ rest).head? ≠ some c := by
  cases inside with
  | nil => exact bounded.head_ne apart
  | cons other inside => simpa using first

theorem not_continuesName_of_isBoundary {c : Char} (boundary : isBoundary c = true) :
    continuesName c = false := by
  simp only [isBoundary, Bool.or_eq_true, beq_iff_eq] at boundary
  rcases boundary with (rfl | rfl) | rfl <;> decide

theorem not_isDigit_of_isBoundary {c : Char} (boundary : isBoundary c = true) :
    c.isDigit = false := by
  simp only [isBoundary, Bool.or_eq_true, beq_iff_eq] at boundary
  rcases boundary with (rfl | rfl) | rfl <;> decide

/-- A word in front of the text ends there, and the text is no quote that the word marks. -/
def EndsWord (rest : List Char) : Prop :=
  ∀ c, rest.head? = some c → continuesName c = false ∧ c ≠ '\''

theorem Bounded.endsWord {rest : List Char} (bounded : Bounded rest) : EndsWord rest := by
  intro c head
  refine ⟨not_continuesName_of_isBoundary (bounded c head), ?_⟩
  rintro rfl
  exact bounded.head_ne (by decide) head

theorem tokenize_word {letters : List Char} (word : isWord letters = true) {rest : List Char}
    (ends : EndsWord rest) :
    tokenize dialect (letters ++ rest) = (tokenize dialect rest).map (.word letters :: ·) := by
  cases letters with
  | nil => simp [isWord] at word
  | cons c letters =>
      simp only [isWord, Bool.and_eq_true, List.all_eq_true] at word
      obtain ⟨starts, continues⟩ := word
      have noQuote : (letters ++ rest).head? ≠ some '\'' := by
        intro head
        cases letters with
        | nil => exact (ends '\'' head).2 rfl
        | cons next letters =>
            cases head
            exact absurd (continues '\'' (by simp)) (by decide)
      have parts : (letters ++ rest).takeWhile continuesName = letters ∧
          (letters ++ rest).dropWhile continuesName = rest := by
        rw [List.takeWhile_append_of_pos continues, List.dropWhile_append_of_pos continues]
        cases rest with
        | nil => simp
        | cons next rest => simp [(ends next rfl).1]
      have read : readToken dialect (c :: (letters ++ rest)) =
          some (.word (c :: letters), rest) := by
        rw [readToken_eq_readPlain (.inl starts) noQuote]
        simp only [readPlain, starts, if_true, parts.1, parts.2]
      exact tokenize_of_readToken read

theorem Spells.word {letters : List Char} (word : isWord letters = true) :
    Spells dialect letters [.word letters] := by
  intro rest bounded
  exact tokenize_word word bounded.endsWord

theorem code_of_startsName {c : Char} (starts : startsName c = true) :
    65 ≤ c.toNat ∧ c.toNat ≤ 122 := by
  have letters : ((decide ('A'.val ≤ c.val ∧ c.val ≤ 'Z'.val) ||
      (decide ('a'.val ≤ c.val) && decide (c.val ≤ 'z'.val))) || c == '_') = true := starts
  simp only [Bool.or_eq_true, Bool.and_eq_true, decide_eq_true_eq, beq_iff_eq,
    UInt32.le_iff_toNat_le] at letters
  rcases letters with (⟨lower, upper⟩ | ⟨lower, upper⟩) | rfl
  · exact ⟨lower, Nat.le_trans upper (by decide)⟩
  · exact ⟨Nat.le_trans (by decide) lower, upper⟩
  · decide

theorem not_startsName_of_isDigit {c : Char} (digit : c.isDigit = true) :
    startsName c = false := by
  cases starts : startsName c with
  | false => rfl
  | true =>
      have letter := code_of_startsName starts
      have bound : c.toNat ≤ 57 := by
        simp only [Char.isDigit, Bool.and_eq_true, decide_eq_true_eq,
          UInt32.le_iff_toNat_le] at digit
        exact digit.2
      omega

theorem Spells.number (n : Nat) : Spells dialect (Nat.toDigits 10 n) [.number n] := by
  intro rest bounded
  have all : ∀ c ∈ Nat.toDigits 10 n, c.isDigit = true := fun c member =>
    Nat.isDigit_of_mem_toDigits (by decide) (by decide) member
  have value : Nat.ofDigitChars 10 (Nat.toDigits 10 n) 0 = n := Nat.ofDigitChars_ten_toDigits
  cases digits : Nat.toDigits 10 n with
  | nil => exact absurd digits Nat.toDigits_ne_nil
  | cons c others =>
      rw [digits] at all value
      have digit := all c (by simp)
      have continues : ∀ c ∈ others, c.isDigit = true := fun c member => all c (by simp [member])
      have noQuote : others.head? ≠ some '\'' := by
        intro head
        exact absurd (continues '\'' (List.mem_of_head? head)) (by decide)
      have parts := bounded.takeWhile_append continues fun c => not_isDigit_of_isBoundary
      have read : readToken dialect (c :: (others ++ rest)) = some (.number n, rest) := by
        rw [readToken_eq_readPlain (.inr digit) (head?_append_ne bounded noQuote (by decide))]
        simp only [readPlain, not_startsName_of_isDigit digit, digit, Bool.false_eq_true, if_false,
          if_true, parts.1, parts.2, value]
      simpa using tokenize_of_readToken read

theorem opening?_quote (dialect : Dialect) (content rest : List Char) :
    ∃ quotation, Quotation.opening? dialect (dialect.quote content ++ rest) =
        some (quotation, content.flatMap dialect.quoteChar ++ '\'' :: rest) ∧
      quotation ≠ .hexadecimal ∧
      (quotation.escapes = true ∨ dialect = .postgres ∧ '\\' ∉ content) := by
  cases dialect with
  | mysql =>
      refine ⟨.escaping, ?_, by decide, .inl rfl⟩
      simp [Dialect.quote, Dialect.quoteMark, Quotation.opening?]
  | postgres =>
      by_cases backslash : '\\' ∈ content
      · refine ⟨.escaping, ?_, by decide, .inl rfl⟩
        simp [Dialect.quote, Dialect.quoteMark, backslash, Quotation.opening?]
      · refine ⟨.standard, ?_, by decide, .inr ⟨rfl, backslash⟩⟩
        simp [Dialect.quote, Dialect.quoteMark, backslash, Quotation.opening?]

theorem readQuoted_quote (dialect : Dialect) (content : List Char) {rest : List Char}
    (ends : rest.head? ≠ some '\'') :
    readQuoted dialect (dialect.quote content ++ rest) = some (.text content, rest) := by
  obtain ⟨quotation, opened, textual, suits⟩ := opening?_quote dialect content rest
  have named : quotation.token? content = some (.text content) := by
    cases quotation <;> simp_all [Quotation.token?]
  simp [readQuoted, opened, unquote_flatMap_quoteChar suits ends, named]

theorem readMark_of_opening? {text rest : List Char} {quotation : Quotation}
    (found : Quotation.opening? dialect text = some (quotation, rest)) : readMark text = none := by
  unfold Quotation.opening? at found
  split at found
  · rfl
  · split at found
    · rfl
    · rfl
    · rfl
    · rfl
    · simp at found
  · simp at found

theorem readToken_of_readQuoted {text rest : List Char} {token : Token}
    (read : readQuoted dialect text = some (token, rest)) :
    readToken dialect text = some (token, rest) := by
  have quoted := read
  simp only [readQuoted, Option.bind_eq_bind, Option.bind_eq_some_iff] at quoted
  obtain ⟨⟨quotation, after⟩, opened, _⟩ := quoted
  simp [readToken, readMark_of_opening? opened, read]

theorem Spells.quote (dialect : Dialect) (content : List Char) :
    Spells dialect (dialect.quote content) [.text content] := by
  intro rest bounded
  have read := readQuoted_quote dialect content (bounded.head_ne (by decide))
  exact tokenize_of_readToken (readToken_of_readQuoted read)

def bytesTokens (dialect : Dialect) (bytes : List UInt8) : List Token :=
  match dialect with
  | .mysql => [.bytes bytes]
  | .postgres =>
    [.text ('\\' :: 'x' :: Text.hexBytes bytes), .mark .cast, .word "bytea".toList]

theorem readQuoted_hexadecimal (bytes : List UInt8) {rest : List Char}
    (ends : rest.head? ≠ some '\'') :
    readQuoted .mysql (Dialect.mysql.quoteBytes bytes ++ rest) = some (.bytes bytes, rest) := by
  have digits : unquote .mysql false (Text.hexBytes bytes ++ '\'' :: rest) =
      some (Text.hexBytes bytes, rest) :=
    unquote_plain (Text.quote_notMem_hexBytes bytes) ends
  simp [Dialect.quoteBytes, readQuoted, Quotation.opening?, Quotation.escapes, digits,
    Quotation.token?, Text.bytesOfHex?_hexBytes]

theorem readQuoted_bytea (bytes : List UInt8) (rest : List Char) :
    readQuoted .postgres (Dialect.postgres.quoteBytes bytes ++ rest) =
      some (.text ('\\' :: 'x' :: Text.hexBytes bytes), "::bytea".toList ++ rest) := by
  have inside : '\'' ∉ '\\' :: 'x' :: Text.hexBytes bytes := by
    simp [Text.quote_notMem_hexBytes bytes]
  have opened : Quotation.opening? .postgres (Dialect.postgres.quoteBytes bytes ++ rest) =
      some (.standard, ('\\' :: 'x' :: Text.hexBytes bytes) ++
        '\'' :: ("::bytea".toList ++ rest)) := by
    simp [Dialect.quoteBytes, Quotation.opening?]
  have content : unquote .postgres false (('\\' :: 'x' :: Text.hexBytes bytes) ++
      '\'' :: ("::bytea".toList ++ rest)) =
        some ('\\' :: 'x' :: Text.hexBytes bytes, "::bytea".toList ++ rest) :=
    unquote_plain inside (by simp)
  simp only [readQuoted, opened, Quotation.escapes, content, Quotation.token?,
    Option.bind_eq_bind, Option.bind_some, Option.pure_def]

theorem Spells.quoteBytes (dialect : Dialect) (bytes : List UInt8) :
    Spells dialect (dialect.quoteBytes bytes) (bytesTokens dialect bytes) := by
  intro rest bounded
  cases dialect with
  | mysql =>
      have read := readQuoted_hexadecimal bytes (bounded.head_ne (by decide))
      exact tokenize_of_readToken (readToken_of_readQuoted read)
  | postgres =>
      let type := "bytea".toList
      have casts : readToken .postgres ("::bytea".toList ++ rest) =
          some (.mark .cast, type ++ rest) := rfl
      have named : Spells .postgres type [.word type] := Spells.word (by decide)
      have whole := tokenize_of_readToken (readToken_of_readQuoted (readQuoted_bytea bytes rest))
      rw [tokenize_of_readToken casts, named rest bounded, Option.map_map, Option.map_map] at whole
      simpa [bytesTokens, type, Function.comp_def] using whole

end SqlComposer.Reading

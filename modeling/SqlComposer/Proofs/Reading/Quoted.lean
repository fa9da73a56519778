import SqlComposer.Literal.Quoting

/-!
How a database reads a quoted literal, and that it reads from the quoted form of a text or of
bytes the very text or bytes, and stops at the closing quote.
-/

namespace SqlComposer

namespace Text

theorem hexValue?_digitChar {digit : Nat} (small : digit < 16) :
    hexValue? (Nat.digitChar digit) = some digit := by
  have all : ∀ digit : Fin 16, hexValue? (Nat.digitChar digit) = some digit.val := by decide
  exact all ⟨digit, small⟩

theorem hexNumber?_hexByte (byte : UInt8) : hexNumber? 0 (hexByte byte) = some byte.toNat := by
  have bound := byte.toNat_lt
  have high : byte.toNat / 16 < 16 := by omega
  have low : byte.toNat % 16 < 16 := by omega
  simp only [hexByte, hexNumber?, hexValue?_digitChar high, hexValue?_digitChar low,
    Option.bind_eq_bind, Option.bind_some, Option.some.injEq]
  omega

theorem bytesOfHex?_hexBytes (bytes : List UInt8) : bytesOfHex? (hexBytes bytes) = some bytes := by
  induction bytes with
  | nil => rfl
  | cons byte bytes ih =>
      have first := hexNumber?_hexByte byte
      simp only [hexByte] at first
      simp only [hexBytes] at ih
      simp only [hexBytes, List.flatMap_cons, hexByte, List.cons_append, List.nil_append,
        bytesOfHex?, first, ih]
      simp

theorem notMem_hexBytes {c : Char} (other : ∀ digit : Fin 16, Nat.digitChar digit ≠ c)
    (bytes : List UInt8) : c ∉ hexBytes bytes := by
  intro member
  obtain ⟨byte, _, member⟩ := List.mem_flatMap.mp member
  have bound := byte.toNat_lt
  simp only [hexByte, List.mem_cons, List.not_mem_nil, or_false] at member
  rcases member with high | low
  · exact other ⟨byte.toNat / 16, by omega⟩ high.symm
  · exact other ⟨byte.toNat % 16, by omega⟩ low.symm

theorem quote_notMem_hexBytes (bytes : List UInt8) : '\'' ∉ hexBytes bytes :=
  notMem_hexBytes (by decide) bytes

end Text

namespace Reading

/-- The character that a backslash and another character stand for. PostgreSQL also has escapes
that give a character by its number; they are not read. -/
def escaped? (dialect : Dialect) (c : Char) : Option Char :=
  match dialect with
  | .mysql => match c with
    | '0' => some '\x00'
    | 'b' => some '\x08'
    | 't' => some '\t'
    | 'n' => some '\n'
    | 'r' => some '\r'
    | 'Z' => some '\x1a'
    | c => some c
  | .postgres => match c with
    | 'b' => some '\x08'
    | 't' => some '\t'
    | 'n' => some '\n'
    | 'f' => some '\x0c'
    | 'r' => some '\r'
    | c => if c.isDigit || c == 'x' || c == 'u' || c == 'U' then none else some c

def withChar (c : Char) (read : Option (List Char × List Char)) :
    Option (List Char × List Char) :=
  read.map fun (content, rest) => (c :: content, rest)

theorem withChar_eq_some {c : Char} {read : Option (List Char × List Char)}
    {content rest : List Char} (found : withChar c read = some (content, rest)) :
    ∃ others, read = some (others, rest) := by
  obtain ⟨⟨others, after⟩, first, same⟩ := Option.map_eq_some_iff.mp found
  cases same
  exact ⟨others, first⟩

/--
Reads a quoted literal after its opening quote: its text, and what follows its closing quote.
Two quotes are one in the text. Backslashes escape only where the literal has them escape.
-/
def unquote (dialect : Dialect) (escapes : Bool) : List Char → Option (List Char × List Char)
  | [] => none
  | '\'' :: '\'' :: rest => withChar '\'' (unquote dialect escapes rest)
  | '\'' :: rest => some ([], rest)
  | '\\' :: c :: rest =>
    if escapes then
      (escaped? dialect c).bind fun stood => withChar stood (unquote dialect escapes rest)
    else withChar '\\' (unquote dialect escapes (c :: rest))
  | c :: rest => withChar c (unquote dialect escapes rest)

theorem length_unquote_lt {dialect : Dialect} {escapes : Bool} {text content rest : List Char}
    (read : unquote dialect escapes text = some (content, rest)) : rest.length < text.length := by
  fun_induction unquote dialect escapes text generalizing content rest with
  | case1 => simp at read
  | case2 after ih =>
      obtain ⟨others, inner⟩ := withChar_eq_some read
      have shorter := ih inner
      simp only [List.length_cons]
      omega
  | case3 after _ =>
      simp only [Option.some.injEq, Prod.mk.injEq] at read
      simp [← read.2]
  | case4 c after _ ih =>
      obtain ⟨stood, _, found⟩ := Option.bind_eq_some_iff.mp read
      obtain ⟨others, inner⟩ := withChar_eq_some found
      have shorter := ih inner
      simp only [List.length_cons]
      omega
  | case5 c after _ ih =>
      obtain ⟨others, inner⟩ := withChar_eq_some read
      have shorter := ih inner
      simp only [List.length_cons] at shorter ⊢
      omega
  | case6 c after _ _ _ ih =>
      obtain ⟨others, inner⟩ := withChar_eq_some read
      have shorter := ih inner
      simp only [List.length_cons]
      omega

theorem unquote_closing {dialect : Dialect} {escapes : Bool} {rest : List Char}
    (ends : rest.head? ≠ some '\'') :
    unquote dialect escapes ('\'' :: rest) = some ([], rest) := by
  cases rest with
  | nil => simp [unquote]
  | cons c rest =>
      have other : c ≠ '\'' := by simpa using ends
      simp [unquote, other]

theorem unquote_ordinary {dialect : Dialect} {escapes : Bool} {c : Char} {rest : List Char}
    (noQuote : c ≠ '\'') (noEscape : escapes = true → c ≠ '\\') :
    unquote dialect escapes (c :: rest) = withChar c (unquote dialect escapes rest) := by
  by_cases backslash : c = '\\'
  · subst backslash
    have plain : escapes = false := by simpa using noEscape
    cases rest with
    | nil => simp [unquote]
    | cons next rest => simp [unquote, plain]
  · simp [unquote, noQuote, backslash]

theorem unquote_plain {dialect : Dialect} {content rest : List Char} (noQuote : '\'' ∉ content)
    (ends : rest.head? ≠ some '\'') :
    unquote dialect false (content ++ '\'' :: rest) = some (content, rest) := by
  induction content with
  | nil => exact unquote_closing ends
  | cons c content ih =>
      simp only [List.mem_cons, not_or] at noQuote
      rw [List.cons_append, unquote_ordinary (Ne.symm noQuote.1) (by simp), ih noQuote.2]
      rfl

theorem unquote_quoteChar {dialect : Dialect} {escapes : Bool} {c : Char}
    (suits : escapes = true ∨ dialect = .postgres ∧ c ≠ '\\') (rest : List Char) :
    unquote dialect escapes (dialect.quoteChar c ++ rest) =
      withChar c (unquote dialect escapes rest) := by
  cases dialect with
  | mysql =>
      have escaping : escapes = true := by simpa using suits
      subst escaping
      simp only [Dialect.quoteChar]
      split
      case h_10 _ _ _ _ _ _ _ noQuote noBackslash =>
        exact unquote_ordinary noQuote fun _ => noBackslash
      all_goals rfl
  | postgres =>
      simp only [Dialect.quoteChar]
      split
      · rfl
      · have escaping : escapes = true := by simpa using suits
        subst escaping
        rfl
      · rename_i noQuote noBackslash
        exact unquote_ordinary noQuote fun _ => noBackslash

theorem unquote_flatMap_quoteChar {dialect : Dialect} {escapes : Bool} {content rest : List Char}
    (suits : escapes = true ∨ dialect = .postgres ∧ '\\' ∉ content)
    (ends : rest.head? ≠ some '\'') :
    unquote dialect escapes (content.flatMap dialect.quoteChar ++ '\'' :: rest) =
      some (content, rest) := by
  induction content with
  | nil => exact unquote_closing ends
  | cons c content ih =>
      have first : escapes = true ∨ dialect = .postgres ∧ c ≠ '\\' :=
        suits.imp_right fun plain => ⟨plain.1, fun same => plain.2 (by simp [same])⟩
      have others : escapes = true ∨ dialect = .postgres ∧ '\\' ∉ content :=
        suits.imp_right fun plain => ⟨plain.1, fun member => plain.2 (by simp [member])⟩
      rw [List.flatMap_cons, List.append_assoc, unquote_quoteChar first, ih others]
      rfl

end Reading

end SqlComposer

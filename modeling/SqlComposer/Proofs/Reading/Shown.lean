import SqlComposer.Proofs.Reading.Nesting
import SqlComposer.Proofs.Reading.Quoted

/-!
What a reader is shown of a text in which every subquery is one operand. Literals are shown as
they are, whatever stands in their strings, and texts that are put together are shown as the parts
are.
-/

namespace SqlComposer

namespace Reading

variable {dialect : Dialect}

/-- What may stand behind a literal: nothing, a comma, a parenthesis, or a space and a word. -/
def Ends (rest : List Char) : Prop :=
  ∀ c, rest.head? = some c →
    (c = ',' ∨ c = ')') ∨ c = ' ' ∧ ∀ d, rest.tail.head? = some d → isSolid d = true

theorem ends_nil : Ends [] :=
  nofun

theorem ends_separator {c : Char} (separator : c = ',' ∨ c = ')') (rest : List Char) :
    Ends (c :: rest) := by
  intro first head
  cases head
  exact .inl separator

theorem ends_space {c : Char} (solid : isSolid c = true) (rest : List Char) :
    Ends (' ' :: c :: rest) := by
  intro first head
  cases head
  refine .inr ⟨rfl, ?_⟩
  intro d second
  cases second
  exact solid

theorem hide_plain {rest : List Char} (solid : ∀ c, rest.head? = some c → isSolid c = true)
    (resumes : Bool) : hide dialect ⟨0, .plain resumes⟩ rest = hide dialect .outside rest := by
  cases rest with
  | nil => rfl
  | cons c rest =>
      rw [Place.outside, hide, hide, Lexeme.next_plain_of_isSolid (solid c rfl) resumes]
      rfl

theorem hide_ends {lexeme : Lexeme} {rest : List Char} (outside : lexeme.isInside = false)
    (whole : lexeme ≠ .dashes) (ends : Ends rest) :
    hide dialect ⟨0, lexeme⟩ rest = hide dialect .outside rest := by
  cases rest with
  | nil => rfl
  | cons c rest =>
      rcases ends c rfl with separator | ⟨rfl, solid⟩
      · have other : c ≠ '(' := by rcases separator with rfl | rfl <;> decide
        have shown := opensSubquery_cons_of_ne other rest
        rw [Place.outside, hide_shown (.inl shown), hide_shown (.inl shown),
          Lexeme.next_separator separator outside, Lexeme.next_separator separator rfl]
      · have shown := opensSubquery_cons_of_ne (by decide : ' ' ≠ '(') rest
        obtain ⟨resumes, space⟩ := Lexeme.next_space outside whole
        rw [Place.outside, hide_shown (.inl shown), hide_shown (.inl shown), space]
        exact congrArg (' ' :: ·) (hide_plain solid resumes)

/-- Before its end, a text is shown as another. -/
def Shows (dialect : Dialect) (text shown : List Char) : Prop :=
  ∀ rest, Ends rest → hide dialect .outside (text ++ rest) = shown ++ hide dialect .outside rest

/-- A text that a server takes by itself, as it stands. It ends outside strings, quoted names and
comments, and no subquery begins in it. -/
def StandsAlone (dialect : Dialect) (text : List Char) : Prop :=
  Shows dialect text text

structure Seam (dialect : Dialect) (text : List Char) : Prop where
  ends : ∀ rest, Ends (text ++ rest)
  shows : ∀ rest,
    hide dialect .outside (text ++ rest) = text ++ hide dialect .outside rest

def Bare (text : List Char) : Prop :=
  ∀ c ∈ text, isBare c = true

instance (text : List Char) : Decidable (Bare text) :=
  List.decidableBAll (fun c => isBare c = true) text

theorem hide_bare (lexeme : Lexeme) {text : List Char} (bare : Bare text) (rest : List Char) :
    hide dialect ⟨0, lexeme⟩ (text ++ rest) =
      text ++ hide dialect ⟨0, lexeme.read dialect text⟩ rest := by
  induction text generalizing lexeme with
  | nil => rfl
  | cons c text ih =>
      have noParenthesis : c ≠ '(' := by
        rintro rfl
        exact absurd (bare '(' List.mem_cons_self) (by decide)
      have others := ih (lexeme.next dialect c)
        fun other member => bare other (List.mem_cons_of_mem c member)
      rw [List.cons_append, hide_shown (.inl (opensSubquery_cons_of_ne noParenthesis _)), others]
      rfl

theorem hide_bare_ends {lexeme : Lexeme} {text rest : List Char} (calm : lexeme.isCalm = true)
    (bare : Bare text) (ends : Ends rest) :
    hide dialect ⟨0, lexeme⟩ (text ++ rest) = text ++ hide dialect .outside rest := by
  have calmAfter := Lexeme.isCalm_read dialect calm bare
  rw [hide_bare lexeme bare, hide_ends (Lexeme.isInside_of_isCalm calmAfter)
    (Lexeme.ne_dashes_of_isCalm calmAfter) ends]

theorem standsAlone_of_bare {text : List Char} (bare : Bare text) : StandsAlone dialect text :=
  fun _ ends => hide_bare_ends rfl bare ends

theorem Shows.seam {front back between frontShown backShown : List Char}
    (first : Shows dialect front frontShown) (seam : Seam dialect between)
    (second : Shows dialect back backShown) :
    Shows dialect (front ++ between ++ back) (frontShown ++ between ++ backShown) := by
  intro rest ends
  rw [List.append_assoc, List.append_assoc, first _ (seam.ends _), seam.shows,
    second rest ends, List.append_assoc, List.append_assoc]

theorem Shows.intercalate {ι : Type} {between : List Char} (seam : Seam dialect between)
    {text shown : ι → List Char} {items : List ι}
    (each : ∀ item ∈ items, Shows dialect (text item) (shown item)) :
    Shows dialect (between.intercalate (items.map text))
      (between.intercalate (items.map shown)) := by
  induction items with
  | nil => exact standsAlone_of_bare (by simp [Bare])
  | cons item items ih =>
      have first := each item List.mem_cons_self
      cases items with
      | nil => simpa using first
      | cons next items =>
          have others := ih fun other member => each other (List.mem_cons_of_mem item member)
          simpa [List.append_assoc] using first.seam seam others

def IsConnector (word : List Char) : Prop :=
  Bare word ∧ word.head?.any isSolid = true

instance (word : List Char) : Decidable (IsConnector word) :=
  instDecidableAnd

theorem seam_space {word : List Char} (connector : IsConnector word) :
    Seam dialect (' ' :: (word ++ [' '])) := by
  obtain ⟨bare, solid⟩ := connector
  have spaced : Bare (' ' :: word) := List.forall_mem_cons.mpr ⟨by decide, bare⟩
  constructor
  · intro rest
    cases word with
    | nil => cases solid
    | cons c word => exact ends_space solid _
  · intro rest
    have calm := Lexeme.isCalm_read dialect (rfl : (Lexeme.plain false).isCalm = true) spaced
    have behind : hide dialect ⟨0, Lexeme.read dialect (.plain false) (' ' :: word)⟩
        (' ' :: rest) = ' ' :: hide dialect .outside rest := by
      rw [hide_shown (.inl (opensSubquery_cons_of_ne (by decide) rest)),
        Lexeme.next_space_of_isCalm calm, Place.outside]
    have whole : hide dialect .outside (' ' :: word ++ ' ' :: rest) = _ :=
      hide_bare (.plain false) spaced (' ' :: rest)
    rw [behind] at whole
    simpa using whole

theorem seam_comma : Seam dialect [','] :=
  ⟨fun _ => ends_separator (.inl rfl) _, fun _ => by cases dialect <;> rfl⟩

theorem seam_comma_space : Seam dialect [',', ' '] :=
  ⟨fun _ => ends_separator (.inl rfl) _, fun _ => by cases dialect <;> rfl⟩

theorem Shows.paren {inside shown : List Char} (shows : Shows dialect inside shown)
    (apart : ∀ rest, opensSubquery ('(' :: (inside ++ ')' :: rest)) = false) :
    Shows dialect ('(' :: (inside ++ [')'])) ('(' :: (shown ++ [')'])) := by
  intro rest _
  have opened : hide dialect .outside ('(' :: (inside ++ ')' :: rest)) =
      '(' :: hide dialect .outside (inside ++ ')' :: rest) := by
    rw [Place.outside, hide_shown (.inl (apart _))]
    rfl
  have closed : hide dialect .outside (')' :: rest) = ')' :: hide dialect .outside rest := by
    rw [Place.outside, hide_shown (.inl (opensSubquery_cons_of_ne (by decide) rest))]
    rfl
  have inner := shows (')' :: rest) (ends_separator (.inr rfl) rest)
  simp [opened, inner, closed]

section Strings

theorem hide_in_string {escapes : Bool} {c : Char} (noQuote : c ≠ '\'')
    (noEscape : escapes = true → c ≠ '\\') (rest : List Char) :
    hide dialect ⟨0, .quoted .single escapes⟩ (c :: rest) =
      c :: hide dialect ⟨0, .quoted .single escapes⟩ rest := by
  have stays : Lexeme.next dialect (.quoted .single escapes) c = .quoted .single escapes := by
    cases escapes with
    | false => simp [Lexeme.next, Quote.char, noQuote]
    | true => simp [Lexeme.next, Quote.char, noQuote, noEscape]
  rw [hide_shown (.inr rfl), stays]

theorem hide_quoteChar {escapes : Bool} {c : Char}
    (suits : escapes = true ∨ dialect = .postgres ∧ c ≠ '\\') (rest : List Char) :
    hide dialect ⟨0, .quoted .single escapes⟩ (dialect.quoteChar c ++ rest) =
      dialect.quoteChar c ++ hide dialect ⟨0, .quoted .single escapes⟩ rest := by
  cases dialect with
  | mysql =>
      have escaping : escapes = true := by simpa using suits
      subst escaping
      simp only [Dialect.quoteChar]
      split
      case h_10 _ _ _ _ _ _ _ noQuote noBackslash =>
        exact hide_in_string noQuote (fun _ => noBackslash) rest
      all_goals rfl
  | postgres =>
      simp only [Dialect.quoteChar]
      split
      · rfl
      · have escaping : escapes = true := by simpa using suits
        subst escaping
        rfl
      · rename_i noQuote noBackslash
        exact hide_in_string noQuote (fun _ => noBackslash) rest

theorem hide_flatMap_quoteChar {escapes : Bool} {content : List Char}
    (suits : escapes = true ∨ dialect = .postgres ∧ '\\' ∉ content) (rest : List Char) :
    hide dialect ⟨0, .quoted .single escapes⟩ (content.flatMap dialect.quoteChar ++ rest) =
      content.flatMap dialect.quoteChar ++
        hide dialect ⟨0, .quoted .single escapes⟩ rest := by
  induction content with
  | nil => rfl
  | cons c content ih =>
      have first : escapes = true ∨ dialect = .postgres ∧ c ≠ '\\' :=
        suits.imp_right fun plain => ⟨plain.1, fun same => plain.2 (by simp [same])⟩
      have others : escapes = true ∨ dialect = .postgres ∧ '\\' ∉ content :=
        suits.imp_right fun plain => ⟨plain.1, fun member => plain.2 (by simp [member])⟩
      rw [List.flatMap_cons, List.append_assoc, hide_quoteChar first, ih others,
        List.append_assoc]

theorem hide_closing {escapes : Bool} {rest : List Char} (ends : Ends rest) :
    hide dialect ⟨0, .quoted .single escapes⟩ ('\'' :: rest) =
      '\'' :: hide dialect .outside rest := by
  have ended : hide dialect ⟨0, .ended .single escapes⟩ rest = hide dialect .outside rest :=
    hide_ends rfl (by simp) ends
  rw [hide_shown (.inr rfl), ← ended]
  rfl

theorem standsAlone_quote (dialect : Dialect) (content : List Char) :
    StandsAlone dialect (dialect.quote content) := by
  intro rest ends
  have string {escapes : Bool} (suits : escapes = true ∨ dialect = .postgres ∧ '\\' ∉ content) :
      hide dialect ⟨0, .quoted .single escapes⟩
        (content.flatMap dialect.quoteChar ++ '\'' :: rest) =
      content.flatMap dialect.quoteChar ++ '\'' :: hide dialect .outside rest := by
    rw [hide_flatMap_quoteChar suits, hide_closing ends]
  cases dialect with
  | mysql =>
      have opened (text : List Char) : hide .mysql .outside ('\'' :: text) =
        '\'' :: hide .mysql ⟨0, .quoted .single true⟩ text := rfl
      simp [Dialect.quote, Dialect.quoteMark, opened, string]
  | postgres =>
      by_cases backslash : '\\' ∈ content
      · have opened (text : List Char) : hide .postgres .outside ('E' :: '\'' :: text) =
          'E' :: '\'' :: hide .postgres ⟨0, .quoted .single true⟩ text := rfl
        simp [Dialect.quote, Dialect.quoteMark, backslash, opened, string]
      · have opened (text : List Char) : hide .postgres .outside ('\'' :: text) =
          '\'' :: hide .postgres ⟨0, .quoted .single false⟩ text := rfl
        simp [Dialect.quote, Dialect.quoteMark, backslash, opened, string]

theorem hide_plain_in_string {escapes : Bool} {content : List Char} (noQuote : '\'' ∉ content)
    (noEscape : '\\' ∉ content) (rest : List Char) :
    hide dialect ⟨0, .quoted .single escapes⟩ (content ++ rest) =
      content ++ hide dialect ⟨0, .quoted .single escapes⟩ rest := by
  induction content with
  | nil => rfl
  | cons c content ih =>
      simp only [List.mem_cons, not_or] at noQuote noEscape
      rw [List.cons_append, hide_in_string (Ne.symm noQuote.1) (fun _ => Ne.symm noEscape.1),
        ih noQuote.2 noEscape.2, List.cons_append]

theorem standsAlone_quoteBytes (dialect : Dialect) (bytes : List UInt8) :
    StandsAlone dialect (dialect.quoteBytes bytes) := by
  intro rest ends
  have noQuote := Text.quote_notMem_hexBytes bytes
  have noEscape : '\\' ∉ Text.hexBytes bytes := Text.notMem_hexBytes (by decide) bytes
  cases dialect with
  | mysql =>
      have opened (text : List Char) : hide .mysql .outside ('X' :: '\'' :: text) =
        'X' :: '\'' :: hide .mysql ⟨0, .quoted .single true⟩ text := rfl
      simp [Dialect.quoteBytes, opened, hide_plain_in_string noQuote noEscape,
        hide_closing ends]
  | postgres =>
      have opened (text : List Char) : hide .postgres .outside ('\'' :: '\\' :: 'x' :: text) =
        '\'' :: '\\' :: 'x' :: hide .postgres ⟨0, .quoted .single false⟩ text := rfl
      have bare : Bare ":bytea".toList := by decide
      have closing : hide .postgres ⟨0, .quoted .single false⟩ ("'::bytea".toList ++ rest) =
          "'::bytea".toList ++ hide .postgres .outside rest :=
        congrArg ('\'' :: ':' :: ·) (hide_bare_ends rfl bare ends)
      rw [Dialect.quoteBytes, List.cons_append, List.cons_append, List.cons_append,
        List.append_assoc, opened, hide_plain_in_string noQuote noEscape, closing,
        List.cons_append, List.cons_append, List.cons_append, List.append_assoc]

end Strings

def isNumeric (c : Char) : Bool :=
  c.isDigit || c == '.'

theorem bare_of_isNumeric {text : List Char} (numeric : ∀ c ∈ text, isNumeric c = true) :
    Bare text := by
  intro c member
  have all := numeric c member
  rw [isBare, Bool.not_eq_true', List.contains_eq_mem, decide_eq_false_iff_not]
  intro special
  simp only [List.mem_cons, List.not_mem_nil, or_false] at special
  rcases special with rfl | rfl | rfl | rfl | rfl | rfl | rfl | rfl <;> exact absurd all (by decide)

theorem foldsTo_of_isNumeric {c : Char} (numeric : isNumeric c = true) :
    foldsTo 'S' c = false := by
  rw [← Bool.not_eq_true, foldsTo_s_iff]
  intro letter
  simp only [List.mem_cons, List.not_mem_nil, or_false] at letter
  rcases letter with rfl | rfl | rfl <;> exact absurd numeric (by decide)

theorem isNumeric_toDigits {n : Nat} {c : Char} (member : c ∈ Nat.toDigits 10 n) :
    isNumeric c = true := by
  have digit : c.isDigit = true := Nat.isDigit_of_mem_toDigits (by decide) (by decide) member
  simp [isNumeric, digit]

theorem decimal_plain (number : Decimal) :
    Layout.plain.decimal number =
      Layout.positional false (Nat.toDigits 10 number.digits) number.exponent := by
  rw [Layout.decimal, if_pos (by simp [Layout.plain, Layout.isPositional])]
  rfl

theorem plain_ne_nil (number : Decimal) : Layout.plain.decimal number ≠ [] := by
  rw [decimal_plain, Layout.positional]
  split
  · simp
  · split <;> simp

theorem isNumeric_plain {number : Decimal} {c : Char} (member : c ∈ Layout.plain.decimal number) :
    isNumeric c = true := by
  rw [decimal_plain, Layout.positional] at member
  split at member
  · simp only [Bool.false_eq_true, if_false, List.append_nil, List.mem_append,
      List.mem_replicate] at member
    rcases member with digit | ⟨_, rfl⟩
    · exact isNumeric_toDigits digit
    · rfl
  · split at member
    · simp only [List.mem_append, List.mem_cons] at member
      rcases member with digit | rfl | digit
      · exact isNumeric_toDigits (List.mem_of_mem_take digit)
      · rfl
      · exact isNumeric_toDigits (List.mem_of_mem_drop digit)
    · simp only [List.mem_cons, List.mem_append, List.mem_replicate] at member
      rcases member with rfl | rfl | ⟨_, rfl⟩ | digit
      · rfl
      · rfl
      · rfl
      · exact isNumeric_toDigits digit

def BeginsApart (text : List Char) : Prop :=
  ∃ c rest, text = c :: rest ∧ foldsTo 'S' c = false

theorem BeginsApart.append {text : List Char} (apart : BeginsApart text) (rest : List Char) :
    BeginsApart (text ++ rest) := by
  obtain ⟨c, others, rfl, other⟩ := apart
  exact ⟨c, others ++ rest, rfl, other⟩

theorem BeginsApart.opensSubquery {text : List Char} (apart : BeginsApart text) :
    opensSubquery ('(' :: text) = false := by
  obtain ⟨c, others, rfl, other⟩ := apart
  simp [Reading.opensSubquery, afterWord?, other]

structure IsLiteral (dialect : Dialect) (text : List Char) : Prop where
  alone : StandsAlone dialect text
  apart : BeginsApart text

theorem isLiteral_of_isNumeric {text : List Char} (numeric : ∀ c ∈ text, isNumeric c = true)
    (nonempty : text ≠ []) : IsLiteral dialect text := by
  refine ⟨standsAlone_of_bare (bare_of_isNumeric numeric), ?_⟩
  cases text with
  | nil => exact absurd rfl nonempty
  | cons c rest => exact ⟨c, rest, rfl, foldsTo_of_isNumeric (numeric c List.mem_cons_self)⟩

theorem isLiteral_negative {text : List Char} (numeric : ∀ c ∈ text, isNumeric c = true) :
    IsLiteral dialect ('-' :: text) := by
  refine ⟨?_, '-', text, rfl, by decide⟩
  intro rest ends
  have digits : hide dialect ⟨0, .dash false⟩ (text ++ rest) = text ++ hide dialect .outside rest :=
    hide_bare_ends rfl (bare_of_isNumeric numeric) ends
  rw [List.cons_append, Place.outside,
    hide_shown (.inl (opensSubquery_cons_of_ne (by decide) (text ++ rest)))]
  exact congrArg ('-' :: ·) digits

theorem isLiteral_int (n : Int) : IsLiteral dialect n.repr.toList := by
  rw [Int.repr_eq_if]
  split
  · refine isLiteral_of_isNumeric ?_ (by simp)
    intro c member
    exact isNumeric_toDigits (by simpa using member)
  · have negative : IsLiteral dialect ('-' :: Nat.toDigits 10 (-n).toNat) :=
      isLiteral_negative fun c => isNumeric_toDigits
    simpa using negative

theorem isLiteral_quote (dialect : Dialect) (content : List Char) :
    IsLiteral dialect (dialect.quote content) := by
  refine ⟨standsAlone_quote dialect content, ?_⟩
  cases dialect with
  | mysql => exact ⟨'\'', _, rfl, by decide⟩
  | postgres =>
      by_cases backslash : '\\' ∈ content
      · exact ⟨'E', _, by rw [Dialect.quote, Dialect.quoteMark.eq_def]; simp [backslash]; rfl,
          by decide⟩
      · exact ⟨'\'', _, by rw [Dialect.quote, Dialect.quoteMark.eq_def]; simp [backslash]; rfl,
          by decide⟩

theorem isLiteral_quoteBytes (dialect : Dialect) (bytes : List UInt8) :
    IsLiteral dialect (dialect.quoteBytes bytes) := by
  refine ⟨standsAlone_quoteBytes dialect bytes, ?_⟩
  cases dialect with
  | mysql => exact ⟨'X', _, rfl, by decide⟩
  | postgres => exact ⟨'\'', _, rfl, by decide⟩

theorem isLiteral_null (dialect : Dialect) : IsLiteral dialect "NULL".toList :=
  ⟨standsAlone_of_bare (by decide), 'N', _, rfl, by decide⟩

theorem isLiteral_bool (dialect : Dialect) (b : Bool) :
    IsLiteral dialect (dialect.boolText b).toList := by
  cases dialect <;> cases b
  · exact ⟨standsAlone_of_bare (by decide), 'f', _, rfl, by decide⟩
  · exact ⟨standsAlone_of_bare (by decide), 't', _, rfl, by decide⟩
  · exact ⟨standsAlone_of_bare (by decide), 'F', _, rfl, by decide⟩
  · exact ⟨standsAlone_of_bare (by decide), 'T', _, rfl, by decide⟩

theorem isLiteral_float (dialect : Dialect) (x : Binary64) :
    IsLiteral dialect (dialect.escape (.float x)).toList := by
  rw [Dialect.escape]
  by_cases finite : x.isFinite = true
  · have defined : ¬ x.isNaN = true := by simp [Binary.isNaN, finite]
    rw [if_pos finite, Binary.write, if_neg defined]
    dsimp only
    rw [if_pos finite, String.toList_ofList]
    split
    · exact isLiteral_negative fun c => isNumeric_plain
    · exact isLiteral_of_isNumeric (fun c => isNumeric_plain) (plain_ne_nil _)
  · rw [if_neg finite]
    exact isLiteral_null dialect

theorem isLiteral_escape {value : Value} (data : ∀ sql, value ≠ .raw sql) :
    IsLiteral dialect (dialect.escape value).toList := by
  cases value with
  | null => exact isLiteral_null dialect
  | bool b => exact isLiteral_bool dialect b
  | int n => exact isLiteral_int n.toInt
  | uint n =>
      have numeric : ∀ c ∈ n.toNat.repr.toList, isNumeric c = true := by
        intro c member
        exact isNumeric_toDigits (by simpa using member)
      have nonempty : n.toNat.repr.toList ≠ [] := by simp
      exact isLiteral_of_isNumeric numeric nonempty
  | float x => exact isLiteral_float dialect x
  | text s => simpa [Dialect.escape, Dialect.escapeText] using isLiteral_quote dialect s.toList
  | bytes content => simpa [Dialect.escape] using isLiteral_quoteBytes dialect content
  | dateTime moment =>
      simpa [Dialect.escape] using isLiteral_quote dialect moment.millisecondText
  | date day => simpa [Dialect.escape] using isLiteral_quote dialect day.text
  | uuid id => simpa [Dialect.escape] using isLiteral_quote dialect id.text
  | json document => simpa [Dialect.escape] using isLiteral_quote dialect document.write
  | raw sql => exact absurd rfl (data sql)

/-- SQL with each subquery outside its strings shown as `NULL`. -/
def hideSubqueries (dialect : Dialect) (sql : String) : String :=
  String.ofList (hide dialect .outside sql.toList)

theorem Shows.hideSubqueries {sql shown : String} (shows : Shows dialect sql.toList shown.toList) :
    hideSubqueries dialect sql = shown := by
  have whole := shows [] ends_nil
  rw [List.append_nil] at whole
  rw [Reading.hideSubqueries, whole, hide, List.append_nil, String.ofList_toList]

end Reading

end SqlComposer

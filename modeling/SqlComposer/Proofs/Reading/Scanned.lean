import SqlComposer.Proofs.Json.Compact
import SqlComposer.Proofs.Reading.Literal

/-!
A database scans one literal from the front of a statement. From a quoted text or byte string it
scans the content that was quoted, and it goes on right behind the literal.
-/

namespace SqlComposer.Reading

def scanText (dialect : Dialect) (text : List Char) : Option (String × List Char) :=
  match readQuoted dialect text with
  | some (.text content, rest) => some (String.ofList content, rest)
  | _ => none

def expectBytea : List Char → Option (List Char)
  | ':' :: ':' :: 'b' :: 'y' :: 't' :: 'e' :: 'a' :: rest => some rest
  | _ => none

def scanBytes (dialect : Dialect) (text : List Char) : Option (List UInt8 × List Char) :=
  match dialect, readQuoted dialect text with
  | .mysql, some (.bytes content, rest) => some (content, rest)
  | .postgres, some (.text content, rest) => do
    let after ← expectBytea rest
    return (← readBytea content, after)
  | _, _ => none

variable {dialect : Dialect} {rest : List Char}

theorem scanText_quote (content : List Char) (ends : rest.head? ≠ some '\'') :
    scanText dialect (dialect.quote content ++ rest) = some (String.ofList content, rest) := by
  rw [scanText, readQuoted_quote dialect content ends]

theorem scanBytes_quoteBytes (bytes : List UInt8) (ends : rest.head? ≠ some '\'') :
    scanBytes dialect (dialect.quoteBytes bytes ++ rest) = some (bytes, rest) := by
  cases dialect with
  | mysql => simp only [scanBytes, readQuoted_hexadecimal bytes ends]
  | postgres =>
      have type : expectBytea ("::bytea".toList ++ rest) = some rest := rfl
      have digits : readBytea ('\\' :: 'x' :: Text.hexBytes bytes) = some bytes :=
        Text.bytesOfHex?_hexBytes bytes
      simp only [scanBytes, readQuoted_bytea, type, digits, Option.bind_eq_bind, Option.bind_some,
        Option.pure_def]

end SqlComposer.Reading

namespace SqlComposer

open Reading

theorem Value.escape_eq_quote {dialect : Dialect} {value : Value} {content : String}
    (quoted : value.literal = .text content) :
    (dialect.escape value).toList = dialect.quote content.toList := by
  cases value with
  | text s =>
      cases quoted
      simp [Dialect.escape, Dialect.escapeText]
  | dateTime moment =>
      cases quoted
      simp [Dialect.escape, moment.millisecondText_eq_spelled]
  | date day =>
      cases quoted
      simp [Dialect.escape, day.text_eq_spelled]
  | uuid id =>
      cases quoted
      simp [Dialect.escape, id.text_eq_spelled]
  | json document =>
      cases quoted
      simp [Dialect.escape, Json.compact]
  | null | bool | int | uint | float | bytes | raw => cases quoted

/--
Whatever follows a literal, if it is no quote, a quoted text is scanned as that text and what
follows is left, and so is the text of a document, an identifier, a day or a time. The text of a
document reads back as the document. A byte string is scanned as its bytes. Hence two texts with
one literal are one text.
-/
theorem literals_scan_back (dialect : Dialect) {rest : List Char}
    (ends : rest.head? ≠ some '\'') :
    (∀ s, scanText dialect ((dialect.escapeText s).toList ++ rest) = some (s, rest)) ∧
    (∀ value content, value.literal = .text content →
      scanText dialect ((dialect.escape value).toList ++ rest) = some (content, rest)) ∧
    (∀ document : Json, document.RealFree → document.Settled → document.depth < Json.depthLimit →
      ∃ content, scanText dialect ((dialect.escape (.json document)).toList ++ rest) =
        some (content, rest) ∧ Json.read content = .ok document) ∧
    (∀ bytes, scanBytes dialect ((dialect.escape (.bytes bytes)).toList ++ rest) =
      some (bytes, rest)) ∧
    ∀ s t, dialect.escapeText s = dialect.escapeText t → s = t := by
  have texts : ∀ s, scanText dialect ((dialect.escapeText s).toList ++ rest) = some (s, rest) := by
    intro s
    rw [Dialect.escapeText, String.toList_ofList, scanText_quote s.toList ends,
      String.ofList_toList]
  have values : ∀ value content, value.literal = .text content →
      scanText dialect ((dialect.escape value).toList ++ rest) = some (content, rest) := by
    intro value content quoted
    rw [Value.escape_eq_quote quoted, scanText_quote content.toList ends, String.ofList_toList]
  refine ⟨texts, values, ?_, ?_, ?_⟩
  · intro document whole settled shallow
    exact ⟨document.compact, values (.json document) document.compact rfl,
      (Json.read_compact_iff whole settled).mpr shallow⟩
  · intro bytes
    rw [Dialect.escape, String.toList_ofList, scanBytes_quoteBytes bytes ends]
  · intro s t same
    have scanned := texts s
    rw [same, texts t] at scanned
    cases scanned
    rfl

theorem literals_scan_back_trailing :
    let rest := ", 'x'".toList
    rest.head? ≠ some '\'' ∧
    scanText .mysql "'it\\'s a \\\\', 'x'".toList = some ("it's a \\", rest) ∧
    scanText .postgres "E'it''s a \\\\', 'x'".toList = some ("it's a \\", rest) ∧
    scanText .postgres "'2024-02-29', 'x'".toList = some ("2024-02-29", rest) ∧
    (∃ content, scanText .postgres "'[\"it''s\",-1]', 'x'".toList = some (content, rest) ∧
      Json.read content = .ok (.array [.string "it's", .ofInt64 (-1)])) ∧
    scanBytes .postgres "'\\x00ff'::bytea, 'x'".toList = some ([0, 255], rest) := by
  intro rest
  have ends : rest.head? ≠ some '\'' := by decide
  let leapDay : Date := ⟨2024, 2, 29, by decide, by decide⟩
  let document : Json := .array [.string "it's", .ofInt64 (-1)]
  have mysql : "'it\\'s a \\\\', 'x'".toList =
      (Dialect.mysql.escapeText "it's a \\").toList ++ rest := by decide
  have postgres : "E'it''s a \\\\', 'x'".toList =
      (Dialect.postgres.escapeText "it's a \\").toList ++ rest := by decide
  have day : "'2024-02-29', 'x'".toList =
      (Dialect.postgres.escape (.date leapDay)).toList ++ rest := by decide +kernel
  have items : "'[\"it''s\",-1]', 'x'".toList =
      (Dialect.postgres.escape (.json document)).toList ++ rest := by decide +kernel
  have bytes : "'\\x00ff'::bytea, 'x'".toList =
      (Dialect.postgres.escape (.bytes [0, 255])).toList ++ rest := by decide
  refine ⟨ends, ?_, ?_, ?_, ?_, ?_⟩
  · rw [mysql]
    exact (literals_scan_back .mysql ends).1 "it's a \\"
  · rw [postgres]
    exact (literals_scan_back .postgres ends).1 "it's a \\"
  · rw [day]
    exact (literals_scan_back .postgres ends).2.1 (.date leapDay) "2024-02-29"
      (by decide +kernel)
  · rw [items]
    exact (literals_scan_back .postgres ends).2.2.1 document ⟨trivial, trivial, trivial⟩
      ⟨trivial, trivial, trivial⟩ (by decide)
  · rw [bytes]
    exact (literals_scan_back .postgres ends).2.2.2.1 [0, 255]

end SqlComposer

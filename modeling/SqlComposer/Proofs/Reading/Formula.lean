import SqlComposer.Filter.Compile
import SqlComposer.Proofs.Reading.Literal

/-!
The predicates of a WHERE clause as a database reads them: tests of single fields, joined by `AND`
and, more loosely, by `OR`, with parentheses to group them.
-/

namespace SqlComposer.Reading

inductive Comparison where
  | equal
  | like
  | less
  | atMost
  | greater
  | atLeast
deriving DecidableEq, Repr

namespace Comparison

def text : Comparison → String
  | .equal => "="
  | .like => "LIKE"
  | .less => "<"
  | .atMost => "<="
  | .greater => ">"
  | .atLeast => ">="

def token : Comparison → Token
  | .equal => .mark .equals
  | .like => .word "LIKE".toList
  | .less => .mark .less
  | .atMost => .mark .atMost
  | .greater => .mark .greater
  | .atLeast => .mark .atLeast

end Comparison

inductive Formula where
  | compare (field : String) (comparison : Comparison) (value : Literal)
  | oneOf (field : String) (values : List Literal)
  | between (field : String) (low high : Literal)
  | joined (connective : Connective) (terms : List Formula)

def Formula.join (connective : Connective) : List Formula → Formula
  | [formula] => formula
  | formulas => .joined connective formulas

def keyword : Connective → String
  | .and => "AND"
  | .or => "OR"

def keywords : List String := [
  "SELECT", "FROM", "WHERE", "ORDER", "BY", "ASC", "DESC", "LIMIT", "OFFSET", "LEFT", "RIGHT",
  "INNER", "OUTER", "CROSS", "JOIN", "ON", "AS", "GROUP", "HAVING", "UNION", "DISTINCT", "INSERT",
  "INTO", "VALUES", "RETURNING", "UPDATE", "SET", "DELETE", "AND", "OR", "NOT", "IN", "IS", "LIKE",
  "BETWEEN", "EXISTS", "CASE", "NULL", "TRUE", "FALSE"]

def isKeyword (letters : List Char) : Bool :=
  keywords.any fun keyword => (Token.word letters).isKeyword keyword

def isName (name : String) : Bool :=
  isWord name.toList && !isKeyword name.toList

def readName : Reader String
  | .word letters :: rest =>
    if isKeyword letters then none else some (String.ofList letters, rest)
  | _ => none

def readComparison : Reader Comparison
  | .mark .equals :: rest => some (.equal, rest)
  | .mark .less :: rest => some (.less, rest)
  | .mark .atMost :: rest => some (.atMost, rest)
  | .mark .greater :: rest => some (.greater, rest)
  | .mark .atLeast :: rest => some (.atLeast, rest)
  | token :: rest => if token.isKeyword "LIKE" then some (.like, rest) else none
  | [] => none

def readLiterals : Reader (List Literal)
  | .mark .rightParen :: rest => some ([], .mark .rightParen :: rest)
  | tokens => readSeparated (Token.isMark .comma) readLiteral tokens

def readTest : Reader Formula := fun tokens => do
  let (field, rest) ← readName tokens
  match expect (Token.isKeyword "IN") rest, expect (Token.isKeyword "BETWEEN") rest with
  | some rest, _ =>
    let (values, rest) ← readParenthesized readLiterals rest
    return (.oneOf field values, rest)
  | none, some rest =>
    let (low, rest) ← readLiteral rest
    let rest ← expect (Token.isKeyword "AND") rest
    let (high, rest) ← readLiteral rest
    return (.between field low high, rest)
  | none, none =>
    let (comparison, rest) ← readComparison rest
    let (value, rest) ← readLiteral rest
    return (.compare field comparison value, rest)

def readTerm (readInner : Reader Formula) : Reader Formula
  | .mark .leftParen :: rest => readParenthesized readInner (.mark .leftParen :: rest)
  | tokens => readTest tokens

def readJoined (connective : Connective) (read : Reader Formula) : Reader Formula :=
  fun tokens => do
    let (terms, rest) ← readSeparated (Token.isKeyword (keyword connective)) read tokens
    return (Formula.join connective terms, rest)

def readFormula : (depth : Nat) → Reader Formula
  | 0 => fun _ => none
  | depth + 1 => readJoined .or (readJoined .and (readTerm (readFormula depth)))

/-- Reads a text as a formula. No text has deeper parentheses than it has characters. -/
def Formula.ofSql? (dialect : Dialect) (sql : String) : Option Formula :=
  readWhole dialect (readFormula (sql.toList.length + 1)) sql

variable {dialect : Dialect}

theorem readName_word {name : String} (named : isName name = true) (rest : List Token) :
    readName (.word name.toList :: rest) = some (name, rest) := by
  simp only [isName, Bool.and_eq_true, Bool.not_eq_true'] at named
  simp [readName, named.2]

theorem Spells.name {name : String} (named : isName name = true) :
    Spells dialect name.toList [.word name.toList] := by
  simp only [isName, Bool.and_eq_true] at named
  exact Spells.word named.1

theorem readMark_order {rest : List Char} (apart : rest.head? ≠ some '=') :
    readMark ('<' :: rest) = some (.less, rest) ∧
      readMark ('>' :: rest) = some (.greater, rest) := by
  cases rest with
  | nil => exact ⟨rfl, rfl⟩
  | cons c rest =>
      have other : c ≠ '=' := by simpa using apart
      simp [readMark, other]

theorem Spells.comparison (comparison : Comparison) :
    Spells dialect comparison.text.toList [comparison.token] := by
  have marked : ∀ {text : List Char} {mark : Mark},
      (∀ rest, Bounded rest → readMark (text ++ rest) = some (mark, rest)) →
      Spells dialect text [.mark mark] := by
    intro text mark read rest bounded
    exact tokenize_of_readToken (by simp [readToken, read rest bounded])
  cases comparison with
  | equal => exact marked fun rest _ => rfl
  | like => exact Spells.word (by decide)
  | less => exact marked fun rest bounded => (readMark_order (bounded.head_ne (by decide))).1
  | atMost => exact marked fun rest _ => rfl
  | greater => exact marked fun rest bounded => (readMark_order (bounded.head_ne (by decide))).2
  | atLeast => exact marked fun rest _ => rfl

theorem readComparison_token (comparison : Comparison) (rest : List Token) :
    readComparison (comparison.token :: rest) = some (comparison, rest) := by
  cases comparison <;> rfl

theorem token_not_isKeyword (comparison : Comparison) :
    comparison.token.isKeyword "IN" = false ∧ comparison.token.isKeyword "BETWEEN" = false := by
  cases comparison <;> decide

abbrev ReadsTest (dialect : Dialect) (text : List Char) (formula : Formula) : Prop :=
  Reads dialect readTest (Token.isMark .cast) text formula

theorem reads_compare {field : String} (named : isName field = true) (comparison : Comparison)
    {text : List Char} {value : Literal} (literal : ReadsLiteral dialect text value) :
    ReadsTest dialect (field.toList ++ ' ' :: (comparison.text.toList ++ ' ' :: text))
      (.compare field comparison value) := by
  obtain ⟨tokens, spells, read⟩ := literal
  refine ⟨_, (Spells.name named).space ((Spells.comparison comparison).space spells), ?_⟩
  intro rest stops
  have other := token_not_isKeyword comparison
  simp [readTest, readName_word named, expect, other, readComparison_token, read rest stops]

theorem reads_between {field : String} (named : isName field = true) {low high : List Char}
    {least greatest : Literal} (first : ReadsLiteral dialect low least)
    (second : ReadsLiteral dialect high greatest) :
    ReadsTest dialect (field.toList ++
        ' ' :: ("BETWEEN".toList ++ ' ' :: (low ++ ' ' :: ("AND".toList ++ ' ' :: high))))
      (.between field least greatest) := by
  obtain ⟨lowTokens, lowSpells, lowRead⟩ := first
  obtain ⟨highTokens, highSpells, highRead⟩ := second
  have between : Spells dialect "BETWEEN".toList [.word "BETWEEN".toList] :=
    Spells.word (by decide)
  have and : Spells dialect "AND".toList [.word "AND".toList] := Spells.word (by decide)
  refine ⟨_, (Spells.name named).space (between.space (lowSpells.space (and.space highSpells))), ?_⟩
  intro rest stops
  have kind : Token.isKeyword "IN" (.word "BETWEEN".toList) = false ∧
      Token.isKeyword "BETWEEN" (.word "BETWEEN".toList) = true := by decide
  have connects : Token.isKeyword "AND" (.word "AND".toList) = true := by decide
  have lowEnds := lowRead (.word "AND".toList :: (highTokens ++ rest)) (stops_cons (by decide) _)
  simp only [List.cons_append, List.nil_append, List.append_assoc, readTest,
    readName_word named, Option.bind_eq_bind, Option.bind_some, expect, kind, if_true,
    Bool.false_eq_true, if_false, lowEnds, connects, highRead rest stops, Option.pure_def]

theorem readLiterals_of_readSeparated {tokens rest : List Token} {values : List Literal}
    (read : readSeparated (Token.isMark .comma) readLiteral tokens = some (values, rest)) :
    readLiterals tokens = some (values, rest) := by
  unfold readLiterals
  split
  · rename_i after
    have unread : readLiteral (.mark .rightParen :: after) = none := rfl
    simp [readSeparated, readChain, unread] at read
  · exact read

theorem reads_literals {ι : Type} {text : ι → List Char} {value : ι → Literal} {items : List ι}
    (each : ∀ item ∈ items, ReadsLiteral dialect (text item) (value item))
    (anything : Token → Bool) :
    Reads dialect (readParenthesized readLiterals) anything
      ('(' :: ([','].intercalate (items.map text) ++ [')'])) (items.map value) := by
  by_cases nonempty : items = []
  · subst nonempty
    exact ⟨_, Spells.nil.paren, fun rest _ => rfl⟩
  · have separating : Token.isMark .comma (.mark .comma) = true := by decide
    obtain ⟨tokens, spells, read⟩ :=
      Reads.separated (Glue.comma dialect) separating (by decide) nonempty each
    exact Reads.parenthesized
      ⟨tokens, spells, fun rest stops => readLiterals_of_readSeparated (read rest stops)⟩
      (by decide) anything

theorem reads_oneOf {field : String} (named : isName field = true) {ι : Type}
    {text : ι → List Char} {value : ι → Literal} {items : List ι}
    (each : ∀ item ∈ items, ReadsLiteral dialect (text item) (value item)) :
    ReadsTest dialect (field.toList ++
        ' ' :: ("IN".toList ++ ' ' :: '(' :: ([','].intercalate (items.map text) ++ [')'])))
      (.oneOf field (items.map value)) := by
  obtain ⟨tokens, spells, read⟩ := reads_literals each (Token.isMark .cast)
  have member : Spells dialect "IN".toList [.word "IN".toList] := Spells.word (by decide)
  refine ⟨_, (Spells.name named).space (member.space spells), ?_⟩
  intro rest stops
  have kind : Token.isKeyword "IN" (.word "IN".toList) = true := by decide
  simp only [List.cons_append, List.nil_append, readTest, readName_word named,
    Option.bind_eq_bind, Option.bind_some, expect, kind, if_true, read rest stops, Option.pure_def]

theorem readTerm_of_readTest {readInner : Reader Formula} {tokens : List Token}
    {found : Formula × List Token} (read : readTest tokens = some found) :
    readTerm readInner tokens = some found := by
  unfold readTerm
  split
  · simp [readTest, readName] at read
  · exact read

theorem reads_test {readInner : Reader Formula} {text : List Char} {formula : Formula}
    (test : ReadsTest dialect text formula) :
    Reads dialect (readTerm readInner) (Token.isMark .cast) text formula := by
  obtain ⟨tokens, spells, read⟩ := test
  exact ⟨tokens, spells, fun rest stops => readTerm_of_readTest (read rest stops)⟩

theorem readTerm_of_readParenthesized {readInner : Reader Formula} {tokens : List Token}
    {found : Formula × List Token} (read : readParenthesized readInner tokens = some found) :
    readTerm readInner tokens = some found := by
  unfold readTerm
  split
  · exact read
  · rename_i other
    cases tokens with
    | nil => simp [readParenthesized, expect] at read
    | cons token rest =>
        have unopened : token.isMark .leftParen = false := by
          simpa [Token.isMark] using other rest
        simp [readParenthesized, expect, unopened] at read

theorem reads_group {readInner : Reader Formula} {goesOn : Token → Bool} {text : List Char}
    {formula : Formula} (inner : Reads dialect readInner goesOn text formula)
    (closes : goesOn (.mark .rightParen) = false) :
    Reads dialect (readTerm readInner) (Token.isMark .cast) ('(' :: (text ++ [')'])) formula := by
  obtain ⟨tokens, spells, read⟩ := inner.parenthesized closes (Token.isMark .cast)
  exact ⟨tokens, spells, fun rest stops => readTerm_of_readParenthesized (read rest stops)⟩

theorem Glue.connective (dialect : Dialect) (connective : Connective) :
    Glue dialect connective.separator.toList [.word (keyword connective).toList] := by
  cases connective with
  | and => exact (Spells.word (by decide : isWord "AND".toList = true)).toGlue
  | or => exact (Spells.word (by decide : isWord "OR".toList = true)).toGlue

theorem Reads.joined {read : Reader Formula} {goesOn : Token → Bool} {connective : Connective}
    (apart : goesOn (.word (keyword connective).toList) = false) {ι : Type}
    {text : ι → List Char} {formula : ι → Formula} {items : List ι} (nonempty : items ≠ [])
    (each : ∀ item ∈ items, Reads dialect read goesOn (text item) (formula item)) :
    Reads dialect (readJoined connective read)
      (fun token => goesOn token || token.isKeyword (keyword connective))
      (connective.separator.toList.intercalate (items.map text))
      (Formula.join connective (items.map formula)) := by
  have separating : Token.isKeyword (keyword connective) (.word (keyword connective).toList) =
      true := by
    cases connective <;> decide
  obtain ⟨tokens, spells, read⟩ :=
    Reads.separated (Glue.connective dialect connective) separating apart nonempty each
  refine ⟨tokens, spells, ?_⟩
  intro rest stops
  simp [readJoined, read rest stops]

theorem Reads.alone {read : Reader Formula} {goesOn : Token → Bool} {connective : Connective}
    (apart : goesOn (.word (keyword connective).toList) = false) {text : List Char}
    {formula : Formula} (single : Reads dialect read goesOn text formula) :
    Reads dialect (readJoined connective read)
      (fun token => goesOn token || token.isKeyword (keyword connective)) text formula := by
  have joined := Reads.joined apart (List.cons_ne_nil () []) fun _ _ => single
  simpa [Formula.join] using joined

def goesOnFormula (token : Token) : Bool :=
  (token.isMark .cast || token.isKeyword "AND") || token.isKeyword "OR"

/-- The text is read as a formula by every reader that looks deep enough into it. -/
def ReadsFormula (dialect : Dialect) (text : List Char) (formula : Formula) : Prop :=
  ∀ depth, text.length < depth → Reads dialect (readFormula depth) goesOnFormula text formula

theorem ReadsFormula.ofSql? {sql : String} {formula : Formula}
    (reads : ReadsFormula dialect sql.toList formula) :
    Formula.ofSql? dialect sql = some formula :=
  (reads (sql.toList.length + 1) (by omega)).readWhole

theorem readsFormula_joined {connective : Connective} {ι : Type} {text : ι → List Char}
    {formula : ι → Formula} {items : List ι} (nonempty : items ≠ [])
    (each : ∀ item ∈ items, ∀ depth,
      (connective.separator.toList.intercalate (items.map text)).length ≤ depth →
        Reads dialect (readTerm (readFormula depth)) (Token.isMark .cast) (text item)
          (formula item)) :
    ReadsFormula dialect (connective.separator.toList.intercalate (items.map text))
      (Formula.join connective (items.map formula)) := by
  intro depth deep
  obtain ⟨depth, rfl⟩ : ∃ less, depth = less + 1 :=
    Nat.exists_eq_succ_of_ne_zero (by omega)
  cases connective with
  | and =>
      have apart : Token.isMark .cast (.word (keyword .and).toList) = false := by decide
      have conjunction := Reads.joined apart nonempty
        fun item member => each item member depth (by omega)
      exact Reads.alone (by decide) conjunction
  | or =>
      exact Reads.joined (by decide) nonempty fun item member =>
        Reads.alone (by decide) (each item member depth (by omega))

theorem length_le_length_intercalate_of_mem {α : Type} (separator : List α) {part : List α}
    {parts : List (List α)} (member : part ∈ parts) :
    part.length ≤ (separator.intercalate parts).length := by
  induction parts with
  | nil => cases member
  | cons first parts ih =>
      cases parts with
      | nil =>
          rw [List.mem_singleton] at member
          simp [member]
      | cons next parts =>
          rw [List.intercalate_cons_cons, List.length_append, List.length_append]
          rcases List.mem_cons.mp member with rfl | later
          · omega
          · have shorter := ih later
            omega

theorem readsFormula_groups (connective : Connective) {ι : Type} {text : ι → List Char}
    {formula : ι → Formula} {items : List ι} (nonempty : items ≠ [])
    (each : ∀ item ∈ items, ReadsFormula dialect (text item) (formula item)) :
    ReadsFormula dialect
      (connective.separator.toList.intercalate
        (items.map fun item => '(' :: (text item ++ [')'])))
      (Formula.join connective (items.map formula)) := by
  refine readsFormula_joined nonempty ?_
  intro item member depth deep
  have part := length_le_length_intercalate_of_mem connective.separator.toList
    (List.mem_map_of_mem (f := fun item => '(' :: (text item ++ [')'])) member)
  have shorter : (text item).length < depth := by
    simp only [List.length_cons, List.length_append, List.length_nil] at part
    omega
  exact reads_group (each item member depth shorter) (by decide)

end SqlComposer.Reading

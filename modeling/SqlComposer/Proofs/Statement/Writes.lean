import SqlComposer.Proofs.Reading.Literal
import SqlComposer.Proofs.Statement.Compiled

/-!
Insertions and updates as a database reads them: whatever its values, a document is written as
one literal for each of its columns.
-/

namespace SqlComposer

namespace Reading

structure Insertion where
  table : String
  columns : List String
  values : List Literal
  returning : Bool
deriving DecidableEq, Repr

structure Update where
  table : String
  assignments : List (String × Literal)
deriving DecidableEq, Repr

def readWord : Reader String
  | .word letters :: rest => some (String.ofList letters, rest)
  | _ => none

def readAssignment : Reader (String × Literal) := fun tokens => do
  let (column, rest) ← readWord tokens
  let rest ← expect (Token.isMark .equals) rest
  let (value, rest) ← readLiteral rest
  return ((column, value), rest)

def readReturning : Reader Bool
  | [] => some (false, [])
  | token :: rest =>
    if token.isKeyword "RETURNING" then (expect (Token.isMark .star) rest).map (true, ·)
    else some (false, token :: rest)

def readList {α : Type} (read : Reader α) : Reader (List α) :=
  readParenthesized (readSeparated (Token.isMark .comma) read)

def readInsertion : Reader Insertion := fun tokens => do
  let rest ← expect (Token.isKeyword "INSERT") tokens
  let rest ← expect (Token.isKeyword "INTO") rest
  let (table, rest) ← readWord rest
  let (columns, rest) ← readList readWord rest
  let rest ← expect (Token.isKeyword "VALUES") rest
  let (values, rest) ← readList readLiteral rest
  let (returning, rest) ← readReturning rest
  return (⟨table, columns, values, returning⟩, rest)

def readUpdate : Reader Update := fun tokens => do
  let rest ← expect (Token.isKeyword "UPDATE") tokens
  let (table, rest) ← readWord rest
  let rest ← expect (Token.isKeyword "SET") rest
  let (assignments, rest) ← readSeparated (Token.isMark .comma) readAssignment rest
  return (⟨table, assignments⟩, rest)

variable {dialect : Dialect}

theorem readWord_word (name : String) (rest : List Token) :
    readWord (.word name.toList :: rest) = some (name, rest) := by
  simp [readWord]

theorem reads_word {name : String} (word : isWord name.toList = true)
    (anything : Token → Bool) : Reads dialect readWord anything name.toList name :=
  ⟨_, Spells.word word, fun rest _ => readWord_word name rest⟩

theorem reads_list {α ι : Type} {read : Reader α} {goesOn : Token → Bool}
    {text : ι → List Char} {thing : ι → α} {items : List ι} (nonempty : items ≠ [])
    (apart : goesOn (.mark .comma) = false) (closes : goesOn (.mark .rightParen) = false)
    (each : ∀ item ∈ items, Reads dialect read goesOn (text item) (thing item))
    (anything : Token → Bool) :
    Reads dialect (readList read) anything
      ('(' :: ([','].intercalate (items.map text) ++ [')'])) (items.map thing) := by
  have separating : Token.isMark .comma (.mark .comma) = true := by decide
  have separated := Reads.separated (Glue.comma dialect) separating apart nonempty each
  have ends : Token.isMark .comma (.mark .rightParen) = false := by decide
  exact separated.parenthesized (by rw [closes, ends]; rfl) anything

theorem reads_assignment {column : String} (word : isWord column.toList = true)
    {text : List Char} {value : Literal} (literal : ReadsLiteral dialect text value) :
    Reads dialect readAssignment (Token.isMark .cast)
      (column.toList ++ ' ' :: ("=".toList ++ ' ' :: text)) (column, value) := by
  obtain ⟨tokens, spells, read⟩ := literal
  have equals : Spells dialect "=".toList [.mark .equals] := by
    intro rest _
    exact tokenize_of_readToken rfl
  refine ⟨_, (Spells.word word).space (equals.space spells), ?_⟩
  intro rest stops
  have kind : Token.isMark .equals (.mark .equals) = true := by decide
  simp [readAssignment, readWord_word, expect, kind, read rest stops]

theorem spells_insertion {table : String} (word : isWord table.toList = true)
    {columnText valueText : List Char} {columns : List String} {values : List Literal}
    (columnList : Reads dialect (readList readWord) (fun _ => false) columnText columns)
    (valueList : Reads dialect (readList readLiteral) (fun _ => false) valueText values) :
    ∃ tokens, Spells dialect ("INSERT".toList ++ ' ' :: ("INTO".toList ++ ' ' :: (table.toList ++
        ' ' :: (columnText ++ ' ' :: ("VALUES".toList ++ ' ' :: valueText))))) tokens ∧
      ∀ rest, readInsertion (tokens ++ rest) =
        (readReturning rest).map fun (returning, rest) =>
          (⟨table, columns, values, returning⟩, rest) := by
  obtain ⟨columnTokens, columnSpells, columnRead⟩ := columnList
  obtain ⟨valueTokens, valueSpells, valueRead⟩ := valueList
  have keyword : ∀ {letters : String}, isWord letters.toList = true →
      Spells dialect letters.toList [.word letters.toList] := Spells.word
  refine ⟨_, (keyword (by decide)).space ((keyword (by decide)).space ((keyword word).space
    (columnSpells.space ((keyword (by decide)).space valueSpells)))), ?_⟩
  intro rest
  have insert : Token.isKeyword "INSERT" (.word "INSERT".toList) = true := by decide
  have into : Token.isKeyword "INTO" (.word "INTO".toList) = true := by decide
  have list : Token.isKeyword "VALUES" (.word "VALUES".toList) = true := by decide
  have columnEnds := columnRead (.word "VALUES".toList :: (valueTokens ++ rest))
    (stops_cons rfl _)
  have valueEnds := valueRead rest fun _ _ => rfl
  simp only [List.cons_append, List.nil_append, List.append_assoc, readInsertion, expect, insert,
    into, list, if_true, readWord_word, Option.bind_eq_bind, Option.bind_some, columnEnds,
    valueEnds, Option.pure_def, Option.map_eq_bind]
  rfl

theorem readReturning_of_stops {rest : List Token}
    (stops : Stops (Token.isKeyword "RETURNING") rest) :
    readReturning rest = some (false, rest) := by
  cases rest with
  | nil => rfl
  | cons token rest => simp [readReturning, stops token rfl]

end Reading

open Reading

theorem not_isBlank_of_startsName {c : Char} (starts : startsName c = true) :
    Text.isBlank c = false := by
  have letter := code_of_startsName starts
  simp only [Text.isBlank, Bool.or_eq_false_iff, Bool.and_eq_false_iff, decide_eq_false_iff_not,
    beq_eq_false_iff_ne]
  omega

theorem allBlank_of_isWord {name : String} (word : isWord name.toList = true) :
    Text.allBlank name = false := by
  rw [Text.allBlank]
  cases letters : name.toList with
  | nil => simp [letters, isWord] at word
  | cons c rest =>
      simp only [letters, isWord, Bool.and_eq_true] at word
      rw [List.all_cons, not_isBlank_of_startsName word.1, Bool.false_and]

namespace Query

variable {query : Query} {document : Document} {dialect : Dialect}

theorem reads_insertion (tabled : isWord query.table.toList = true)
    (filled : document.entries ≠ [])
    (data : ∀ entry ∈ document.entries, isWord entry.1.toList = true ∧ entry.2.isData = true)
    (dialect : Dialect) :
    ∃ tokens, Spells dialect (query.insertion document dialect).toList tokens ∧
      ∀ rest, readInsertion (tokens ++ rest) =
        (readReturning rest).map fun (returning, rest) =>
          (⟨query.table, document.names, document.entries.map fun entry => entry.2.literal,
            returning⟩, rest) := by
  have columnList : Reads dialect (readList readWord) (fun _ => false)
      ('(' :: ([','].intercalate (document.entries.map fun entry => entry.1.toList) ++ [')']))
      (document.entries.map Prod.fst) :=
    reads_list filled rfl rfl (fun entry member => reads_word (data entry member).1 fun _ => false)
      fun _ => false
  have valueList : Reads dialect (readList readLiteral) (fun _ => false)
      ('(' :: ([','].intercalate
        (document.entries.map fun entry => (entry.2.render dialect).toList) ++ [')']))
      (document.entries.map fun entry => entry.2.literal) :=
    reads_list filled rfl rfl (fun entry member => reads_render (data entry member).2)
      fun _ => false
  have text : (query.insertion document dialect).toList =
      "INSERT".toList ++ ' ' :: ("INTO".toList ++ ' ' :: (query.table.toList ++ ' ' ::
        ('(' :: ([','].intercalate (document.entries.map fun entry => entry.1.toList) ++ [')']) ++
          ' ' :: ("VALUES".toList ++ ' ' :: '(' :: ([','].intercalate
            (document.entries.map fun entry => (entry.2.render dialect).toList) ++ [')']))))) := by
    unfold insertion renderList OrderedMap.names
    simp only [String.toList_append, String.toList_intercalate, List.map_map, Function.comp_def,
      List.append_assoc, List.cons_append]
    rfl
  rw [text]
  exact spells_insertion tabled columnList valueList

theorem reads_insertSql (tabled : isWord query.table.toList = true)
    (filled : document.entries ≠ [])
    (data : ∀ entry ∈ document.entries, isWord entry.1.toList = true ∧ entry.2.isData = true) :
    Reads dialect readInsertion (Token.isKeyword "RETURNING")
      (query.insertion document dialect ++ suffix dialect.returning?).toList
      ⟨query.table, document.names, document.entries.map fun entry => entry.2.literal,
        decide (dialect = .postgres)⟩ := by
  obtain ⟨tokens, spells, read⟩ := reads_insertion tabled filled data dialect
  cases dialect with
  | mysql =>
      refine ⟨tokens, by simpa [Dialect.returning?, suffix] using spells, ?_⟩
      intro rest stops
      rw [read, readReturning_of_stops stops]
      rfl
  | postgres =>
      have star : Spells .postgres "*".toList [.mark .star] := by
        intro rest _
        exact tokenize_of_readToken rfl
      have returning : Spells .postgres "RETURNING".toList [.word "RETURNING".toList] :=
        Spells.word (by decide)
      have text : (query.insertion document .postgres ++
          suffix Dialect.postgres.returning?).toList =
            (query.insertion document .postgres).toList ++
              ' ' :: ("RETURNING".toList ++ ' ' :: "*".toList) := by
        simp [Dialect.returning?, suffix]
      rw [text]
      refine ⟨_, spells.space (returning.space star), ?_⟩
      intro rest _
      rw [List.append_assoc, read]
      rfl

theorem reads_update (tabled : isWord query.table.toList = true)
    (filled : document.entries ≠ [])
    (data : ∀ entry ∈ document.entries, isWord entry.1.toList = true ∧ entry.2.isData = true) :
    Reads dialect readUpdate (fun token => token.isMark .cast || token.isMark .comma)
      (query.update document dialect).toList
      ⟨query.table, document.entries.map fun entry => (entry.1, entry.2.literal)⟩ := by
  have glue := (Glue.comma dialect).append (Glue.space dialect)
  have separating : Token.isMark .comma (.mark .comma) = true := by decide
  obtain ⟨tokens, spells, read⟩ := Reads.separated glue separating (by decide) filled
    fun entry member => reads_assignment (data entry member).1 (reads_render (data entry member).2)
  have update : Spells dialect "UPDATE".toList [.word "UPDATE".toList] := Spells.word (by decide)
  have set : Spells dialect "SET".toList [.word "SET".toList] := Spells.word (by decide)
  have text : (query.update document dialect).toList =
      "UPDATE".toList ++ ' ' :: (query.table.toList ++ ' ' :: ("SET".toList ++ ' ' ::
        ([','] ++ [' ']).intercalate (document.entries.map fun entry =>
          entry.1.toList ++ ' ' :: ("=".toList ++ ' ' :: (entry.2.render dialect).toList)))) := by
    simp only [Query.update, assignments, String.toList_append, String.toList_intercalate,
      List.map_map, Function.comp_def, List.append_assoc]
    rfl
  rw [text]
  refine ⟨_, update.space ((Spells.word tabled).space (set.space spells)), ?_⟩
  intro rest stops
  have first : Token.isKeyword "UPDATE" (.word "UPDATE".toList) = true := by decide
  have second : Token.isKeyword "SET" (.word "SET".toList) = true := by decide
  simp only [List.cons_append, List.nil_append, readUpdate, expect, first,
    second, if_true, readWord_word, Option.bind_eq_bind, Option.bind_some, read rest stops,
    Option.pure_def]

/--
An insertion lists the columns of the document and as many literals, each of them the value of
its column; an update without a filter assigns to each column the literal of its value. Whatever
the values are, nothing else is in these statements.
-/
theorem writes_read_back (tabled : isWord query.table.toList = true)
    (filled : document.entries ≠ [])
    (data : ∀ entry ∈ document.entries, isWord entry.1.toList = true ∧ entry.2.isData = true)
    (dialect : Dialect) :
    (∃ sql, query.insertSql document dialect = .ok sql ∧
      readWhole dialect readInsertion sql = some ⟨query.table, document.names,
        document.entries.map fun entry => entry.2.literal, decide (dialect = .postgres)⟩) ∧
    (query.filter = none → ∃ sql, query.updateSql document dialect = .ok sql ∧
      readWhole dialect readUpdate sql = some ⟨query.table,
        document.entries.map fun entry => (entry.1, entry.2.literal)⟩) := by
  have named := allBlank_of_isWord tabled
  constructor
  · exact ⟨_, insertSql_eq named filled, (reads_insertSql tabled filled data).readWhole⟩
  · intro unfiltered
    refine ⟨query.update document dialect, ?_, (reads_update tabled filled data).readWhole⟩
    rw [updateSql_eq named filled, unfiltered]
    simp [whereClause, Except.map, suffix]

def hostile : Document :=
  .ofList [("name", .text "x'), (1) -- \\"), ("age", .int (-3)), ("key", .bytes [39, 255])]

theorem writes_read_back_hostile :
    isWord (ofTable "users").table.toList = true ∧ hostile.entries ≠ [] ∧
    (∀ entry ∈ hostile.entries, isWord entry.1.toList = true ∧ entry.2.isData = true) ∧
    (ofTable "users").filter = none ∧
    (∃ sql, (ofTable "users").insertSql hostile .postgres = .ok sql ∧
      readWhole .postgres readInsertion sql = some ⟨"users", ["name", "age", "key"],
        [.text "x'), (1) -- \\", .number (-3), .bytes [39, 255]], true⟩) ∧
    ∃ sql, (ofTable "users").updateSql hostile .postgres = .ok sql ∧
      readWhole .postgres readUpdate sql = some ⟨"users",
        [("name", .text "x'), (1) -- \\"), ("age", .number (-3)),
          ("key", .bytes [39, 255])]⟩ := by
  have tabled : isWord (ofTable "users").table.toList = true := by decide
  have filled : hostile.entries ≠ [] := nofun
  have data : ∀ entry ∈ hostile.entries, isWord entry.1.toList = true ∧ entry.2.isData = true := by
    decide
  have unfiltered : (ofTable "users").filter = none := rfl
  have both := writes_read_back tabled filled data .postgres
  exact ⟨tabled, filled, data, unfiltered, both.1, both.2 unfiltered⟩

end Query

end SqlComposer

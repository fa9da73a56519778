import SqlComposer.Proofs.Reading.Clause
import SqlComposer.Proofs.Reading.Formula
import SqlComposer.Statement.Clause

/-!
Selections as a database reads them, clause by clause, and how each clause that is written is
read.
-/

namespace SqlComposer.Reading

structure Joined where
  table : String
  left : String
  right : String
deriving DecidableEq, Repr

structure Selection where
  fields : List String
  table : String
  leftJoins : List Joined
  rightJoins : List Joined
  joins : List Joined
  condition : Option Formula
  sort : List SortKey
  window : Option (Option UInt64 × UInt64)

def readField : Reader String
  | .mark .star :: rest => some ("*", rest)
  | tokens => readName tokens

def readJoin : Reader Joined := fun tokens => do
  let (table, rest) ← readName tokens
  let rest ← expect (Token.isKeyword "ON") rest
  let (left, rest) ← readName rest
  let rest ← expect (Token.isMark .equals) rest
  let (right, rest) ← readName rest
  return (⟨table, left, right⟩, rest)

def readOrder : Reader SortOrder
  | [] => none
  | token :: rest =>
    if token.isKeyword "ASC" then some (.ascending, rest)
    else if token.isKeyword "DESC" then some (.descending, rest)
    else none

def readSortKey : Reader SortKey := fun tokens => do
  let (name, rest) ← readName tokens
  let (order, rest) ← readOrder rest
  return ((name, order), rest)

def readCount : Reader UInt64
  | .number n :: rest => if n < 2 ^ 64 then some (UInt64.ofNat n, rest) else none
  | _ => none

/-- Reads a count of rows and the offset of the first one, which stands before it under MySQL. -/
def readWindow (dialect : Dialect) : Reader (Option UInt64 × UInt64) := fun tokens => do
  let (first, rest) ← readCount tokens
  match dialect with
  | .mysql => match expect (Token.isMark .comma) rest with
    | none => return ((none, first), rest)
    | some rest =>
      let (count, rest) ← readCount rest
      return ((some first, count), rest)
  | .postgres => match expect (Token.isKeyword "OFFSET") rest with
    | none => return ((none, first), rest)
    | some rest =>
      let (offset, rest) ← readCount rest
      return ((some offset, first), rest)

def joinWords : JoinKind → List String
  | .left => ["LEFT", "JOIN"]
  | .right => ["RIGHT", "JOIN"]
  | .inner => ["JOIN"]

def readSelection (dialect : Dialect) (depth : Nat) : Reader Selection := fun tokens => do
  let rest ← expect (Token.isKeyword "SELECT") tokens
  let (fields, rest) ← readSeparated (Token.isMark .comma) readField rest
  let rest ← expect (Token.isKeyword "FROM") rest
  let (table, rest) ← readName rest
  let (leftJoins, rest) ← readClauses (joinWords .left) readJoin rest
  let (rightJoins, rest) ← readClauses (joinWords .right) readJoin rest
  let (joins, rest) ← readClauses (joinWords .inner) readJoin rest
  let (condition, rest) ← readClause ["WHERE"] (readFormula depth) rest
  let (sort, rest) ←
    readClause ["ORDER", "BY"] (readSeparated (Token.isMark .comma) readSortKey) rest
  let (window, rest) ← readClause ["LIMIT"] (readWindow dialect) rest
  return (⟨fields, table, leftJoins, rightJoins, joins, condition, sort.getD [], window⟩, rest)

/-- Reads a text as a selection. No text has deeper parentheses than it has characters. -/
def Selection.ofSql? (dialect : Dialect) (sql : String) : Option Selection :=
  readWhole dialect (readSelection dialect (sql.toList.length + 1)) sql

def strip (text : List Char) : List Char :=
  ((text.dropWhile Char.isWhitespace).reverse.dropWhile Char.isWhitespace).reverse

def sides (equation : String) : String × String :=
  (String.ofList (strip (equation.toList.takeWhile (· != '='))),
    String.ofList (strip ((equation.toList.dropWhile (· != '=')).drop 1)))

def isEquation (text : String) : Bool :=
  isName (sides text).1 && isName (sides text).2

variable {dialect : Dialect}

section Equations

def AllWhitespace (text : List Char) : Prop :=
  ∀ c ∈ text, c.isWhitespace = true

theorem allWhitespace_takeWhile (text : List Char) :
    AllWhitespace (text.takeWhile Char.isWhitespace) :=
  List.all_eq_true.mp List.all_takeWhile

theorem exists_strip_eq (text : List Char) :
    ∃ before after, AllWhitespace before ∧ AllWhitespace after ∧
      text = before ++ (strip text ++ after) := by
  let start := text.dropWhile Char.isWhitespace
  refine ⟨text.takeWhile Char.isWhitespace,
    (start.reverse.takeWhile Char.isWhitespace).reverse, allWhitespace_takeWhile text, ?_, ?_⟩
  · intro c member
    exact allWhitespace_takeWhile _ c (List.mem_reverse.mp member)
  · have back : strip text ++ (start.reverse.takeWhile Char.isWhitespace).reverse = start := by
      rw [strip, ← List.reverse_append, List.takeWhile_append_dropWhile, List.reverse_reverse]
    rw [back, List.takeWhile_append_dropWhile]

theorem tokenize_whitespace {gap : List Char} (blank : AllWhitespace gap) (rest : List Char) :
    tokenize dialect (gap ++ rest) = tokenize dialect rest := by
  induction gap with
  | nil => rfl
  | cons c gap ih =>
      rw [List.cons_append, tokenize_blank dialect (blank c (by simp))]
      exact ih fun other member => blank other (by simp [member])

theorem EndsWord.behind {gap rest : List Char} (blank : AllWhitespace gap)
    (ends : EndsWord rest) : EndsWord (gap ++ rest) := by
  intro c head
  cases gap with
  | nil => exact ends c head
  | cons first gap =>
      cases head
      have white := blank c (by simp)
      simp only [Char.isWhitespace, Bool.or_eq_true, decide_eq_true_eq] at white
      rcases white with ((rfl | rfl) | rfl) | rfl <;> decide

theorem isWord_of_isName {name : String} (named : isName name = true) :
    isWord name.toList = true := by
  simp only [isName, Bool.and_eq_true] at named
  exact named.1

theorem tokenize_side (dialect : Dialect) {side : List Char}
    (word : isWord (strip side) = true) {rest : List Char} (ends : EndsWord rest) :
    tokenize dialect (side ++ rest) = (tokenize dialect rest).map (.word (strip side) :: ·) := by
  obtain ⟨before, after, blankBefore, blankAfter, same⟩ := exists_strip_eq side
  have shape : side ++ rest = before ++ (strip side ++ (after ++ rest)) := by
    rw [← List.append_assoc (strip side), ← List.append_assoc, ← same]
  rw [shape, tokenize_whitespace blankBefore, tokenize_word word (ends.behind blankAfter),
    tokenize_whitespace blankAfter]

theorem spells_equation {text : String} (equation : isEquation text = true) :
    Spells dialect text.toList
      [.word (sides text).1.toList, .mark .equals, .word (sides text).2.toList] := by
  intro rest bounded
  simp only [isEquation, Bool.and_eq_true] at equation
  have leftWord := isWord_of_isName equation.1
  have rightWord := isWord_of_isName equation.2
  simp only [sides, String.toList_ofList] at leftWord rightWord ⊢
  cases split : text.toList.dropWhile (· != '=') with
  | nil => simp [split, strip, isWord] at rightWord
  | cons c right =>
      have equals : c = '=' := by
        have stopped := List.head?_dropWhile_not (· != '=') text.toList
        simpa [split] using stopped
      subst equals
      have whole : text.toList ++ rest =
          text.toList.takeWhile (· != '=') ++ '=' :: (right ++ rest) := by
        rw [← List.cons_append, ← split, ← List.append_assoc, List.takeWhile_append_dropWhile]
      have marked : readToken dialect ('=' :: (right ++ rest)) =
          some (.mark .equals, right ++ rest) := rfl
      have apart : EndsWord ('=' :: (right ++ rest)) := by
        intro c head
        cases head
        decide
      rw [split, List.drop_one, List.tail_cons] at rightWord
      rw [List.drop_one, List.tail_cons]
      have back := tokenize_side dialect rightWord bounded.endsWord
      have middle := tokenize_of_readToken marked
      have front := tokenize_side dialect leftWord apart
      rw [back] at middle
      rw [middle, Option.map_map, Option.map_map] at front
      rw [whole, front]
      rfl

end Equations

section Clauses

theorem reads_join {join : Join} (named : isName join.table = true)
    (equation : isEquation join.on = true) :
    Reads dialect readJoin (fun _ => false)
      (join.table.toList ++ ' ' :: ("ON".toList ++ ' ' :: join.on.toList))
      ⟨join.table, (sides join.on).1, (sides join.on).2⟩ := by
  have on : Spells dialect "ON".toList [.word "ON".toList] := Spells.word (by decide)
  refine ⟨_, (Spells.name named).space (on.space (spells_equation equation)), ?_⟩
  intro rest _
  have joins : Token.isKeyword "ON" (.word "ON".toList) = true := by decide
  have equals : Token.isMark .equals (.mark .equals) = true := by decide
  simp only [isEquation, Bool.and_eq_true] at equation
  simp only [List.cons_append, List.nil_append, readJoin, readName_word named,
    readName_word equation.1, readName_word equation.2, Option.bind_eq_bind, Option.bind_some,
    expect, joins, equals, if_true, Option.pure_def]

theorem reads_field {field : String} (valid : field = "*" ∨ isName field = true) :
    Reads dialect readField (fun _ => false) field.toList field := by
  rcases valid with rfl | named
  · refine ⟨[.mark .star], ?_, fun rest _ => rfl⟩
    intro rest _
    exact tokenize_of_readToken rfl
  · exact ⟨_, Spells.name named, fun rest _ => readName_word named rest⟩

theorem reads_sortKey {key : SortKey} (named : isName key.1 = true) :
    Reads dialect readSortKey (fun _ => false) (key.1.toList ++ ' ' :: key.2.keyword.toList)
      key := by
  obtain ⟨name, order⟩ := key
  have directed : Spells dialect order.keyword.toList [.word order.keyword.toList] := by
    apply Spells.word
    cases order <;> decide
  have read : ∀ rest, readOrder (.word order.keyword.toList :: rest) = some (order, rest) := by
    intro rest
    cases order <;> rfl
  refine ⟨_, (Spells.name named).space directed, ?_⟩
  intro rest _
  simp [readSortKey, readName_word named, read]

def windowText (dialect : Dialect) : Option UInt64 × UInt64 → List Char
  | (none, count) => Nat.toDigits 10 count.toNat
  | (some offset, count) =>
    match dialect with
    | .mysql => Nat.toDigits 10 offset.toNat ++ [','] ++ Nat.toDigits 10 count.toNat
    | .postgres =>
      Nat.toDigits 10 count.toNat ++ ' ' :: ("OFFSET".toList ++ ' ' ::
        Nat.toDigits 10 offset.toNat)

theorem readCount_number (count : UInt64) (rest : List Token) :
    readCount (.number count.toNat :: rest) = some (count, rest) := by
  simp [readCount, count.toNat_lt]

theorem expect_of_stops {kind : Token → Bool} {rest : List Token} (stops : Stops kind rest) :
    expect kind rest = none := by
  cases rest with
  | nil => rfl
  | cons token rest => simp [expect, stops token rfl]

theorem reads_window (dialect : Dialect) (window : Option UInt64 × UInt64) :
    Reads dialect (readWindow dialect)
      (fun token => token.isMark .comma || token.isKeyword "OFFSET")
      (windowText dialect window) window := by
  have spells : ∀ count : UInt64, Spells dialect (Nat.toDigits 10 count.toNat)
      [.number count.toNat] := fun count => Spells.number count.toNat
  obtain ⟨offset, count⟩ := window
  cases offset with
  | none =>
      refine ⟨_, spells count, ?_⟩
      intro rest stops
      cases dialect with
      | mysql => simp [readWindow, readCount_number, expect_of_stops (stops_left stops)]
      | postgres => simp [readWindow, readCount_number, expect_of_stops (stops_right stops)]
  | some offset =>
      cases dialect with
      | mysql =>
          have comma : Token.isMark .comma (.mark .comma) = true := by decide
          refine ⟨_, (spells offset).glue (Glue.comma .mysql) (spells count), ?_⟩
          intro rest _
          simp [readWindow, readCount_number, expect, comma]
      | postgres =>
          have word : Spells .postgres "OFFSET".toList [.word "OFFSET".toList] :=
            Spells.word (by decide)
          have skips : Token.isKeyword "OFFSET" (.word "OFFSET".toList) = true := by decide
          refine ⟨_, (spells count).space (word.space (spells offset)), ?_⟩
          intro rest _
          simp only [List.cons_append, List.nil_append, readWindow, readCount_number,
            Option.bind_eq_bind, Option.bind_some, expect, skips, if_true, Option.pure_def]

structure ReadsClauses (dialect : Dialect) (depth : Nat)
    (fields left right inner condition sort window : List Char) (keys : Option (List SortKey))
    (selection : Selection) : Prop where
  fields : Reads dialect (readSeparated (Token.isMark .comma) readField)
    (fun token => false || token.isMark .comma) fields selection.fields
  table : isName selection.table = true
  left : ReadsBehind dialect (readClauses (joinWords .left) readJoin) "LEFT"
    (Token.isKeyword "LEFT") left selection.leftJoins
  right : ReadsBehind dialect (readClauses (joinWords .right) readJoin) "RIGHT"
    (Token.isKeyword "RIGHT") right selection.rightJoins
  inner : ReadsBehind dialect (readClauses (joinWords .inner) readJoin) "JOIN"
    (Token.isKeyword "JOIN") inner selection.joins
  condition : ReadsBehind dialect (readClause ["WHERE"] (readFormula depth)) "WHERE"
    (fun token => token.isKeyword "WHERE" || goesOnFormula token) condition selection.condition
  sort : ReadsBehind dialect
    (readClause ["ORDER", "BY"] (readSeparated (Token.isMark .comma) readSortKey)) "ORDER"
    (fun token => token.isKeyword "ORDER" || (false || token.isMark .comma)) sort keys
  keys : keys.getD [] = selection.sort
  window : ReadsBehind dialect (readClause ["LIMIT"] (readWindow dialect)) "LIMIT"
    (fun token => token.isKeyword "LIMIT" || (token.isMark .comma || token.isKeyword "OFFSET"))
    window selection.window

theorem ReadsClauses.reads {depth : Nat} {fields left right inner condition sort window : List Char}
    {keys : Option (List SortKey)} {selection : Selection}
    (clauses : ReadsClauses dialect depth fields left right inner condition sort window keys
      selection) :
    ∃ tokens, Spells dialect ("SELECT".toList ++ ' ' :: (fields ++ ' ' :: ("FROM".toList ++
        ' ' :: selection.table.toList)) ++
        (left ++ (right ++ (inner ++ (condition ++ (sort ++ window)))))) tokens ∧
      readSelection dialect depth tokens = some (selection, []) := by
  obtain ⟨fieldTokens, fieldSpells, fieldRead⟩ := clauses.fields
  obtain ⟨leftTokens, leftFollows, leftOpens, leftRead⟩ := clauses.left
  obtain ⟨rightTokens, rightFollows, rightOpens, rightRead⟩ := clauses.right
  obtain ⟨innerTokens, innerFollows, innerOpens, innerRead⟩ := clauses.inner
  obtain ⟨conditionTokens, conditionFollows, conditionOpens, conditionRead⟩ := clauses.condition
  obtain ⟨sortTokens, sortFollows, sortOpens, sortRead⟩ := clauses.sort
  obtain ⟨windowTokens, windowFollows, windowOpens, windowRead⟩ := clauses.window
  have select : Spells dialect "SELECT".toList [.word "SELECT".toList] := Spells.word (by decide)
  have source : Spells dialect "FROM".toList [.word "FROM".toList] := Spells.word (by decide)
  have head := select.space (fieldSpells.space (source.space (Spells.name clauses.table)))
  have behind := leftFollows.append (rightFollows.append (innerFollows.append
    (conditionFollows.append (sortFollows.append windowFollows))))
  refine ⟨_, head.append behind, ?_⟩
  have fromSort := sortOpens.append windowOpens
  have fromCondition := conditionOpens.append fromSort
  have fromInner := innerOpens.append fromCondition
  have fromRight := rightOpens.append fromInner
  have leftEnds := leftRead _ (fromRight.stops (by decide))
  have rightEnds := rightRead _ (fromInner.stops (by decide))
  have innerEnds := innerRead _ (fromCondition.stops (by decide))
  have conditionEnds := conditionRead _ (fromSort.stops (by decide))
  have sortEnds := sortRead _ (windowOpens.stops (by decide))
  have windowEnds := windowRead [] (stops_nil _)
  rw [List.append_nil] at windowEnds
  have selects : Token.isKeyword "SELECT" (.word "SELECT".toList) = true := by decide
  have fromTable : Token.isKeyword "FROM" (.word "FROM".toList) = true := by decide
  have fieldEnds := fieldRead (.word "FROM".toList :: .word selection.table.toList ::
    (leftTokens ++ (rightTokens ++ (innerTokens ++ (conditionTokens ++ (sortTokens ++
      windowTokens)))))) (stops_cons (by decide) _)
  simp only [List.cons_append, List.nil_append, List.append_assoc, readSelection, expect, selects,
    fromTable, if_true, Option.bind_eq_bind, Option.bind_some, fieldEnds,
    readName_word clauses.table, leftEnds, rightEnds, innerEnds, conditionEnds, sortEnds,
    windowEnds, clauses.keys, Option.pure_def]

end Clauses

end SqlComposer.Reading

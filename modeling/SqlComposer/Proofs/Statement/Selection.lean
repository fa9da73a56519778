import SqlComposer.Proofs.Filter.NormalForm
import SqlComposer.Proofs.Filter.Silence
import SqlComposer.Proofs.Reading.Selection
import SqlComposer.Proofs.Statement.Scope
import SqlComposer.Proofs.Statement.Writes

/-!
Selections as a database reads them: from the statement of a query all that the query asks for is
read back, whichever of its clauses there are.
-/

namespace SqlComposer

open Reading

def Join.joined (join : Join) : Joined :=
  ⟨join.table, (sides join.on).1, (sides join.on).2⟩

namespace Query

/-- Names stand wherever a name is asked for, and every join equates two names. -/
structure IsPlain (query : Query) : Prop where
  fields : ∀ field ∈ query.fields, field = "*" ∨ isName field = true
  table : isName query.table = true
  joins : ∀ join ∈ query.leftJoins ++ query.rightJoins ++ query.joins,
    isName join.table = true ∧ isEquation join.on = true
  sort : ∀ key ∈ query.sort, isName key.1 = true

def IsFiltered (query : Query) (dialect : Dialect) : Prop :=
  ∀ filter, query.filter = some filter →
    filter.isStructured = true ∧ ∃ predicate, filter.compile dialect = .ok predicate

def condition (query : Query) : Option Formula :=
  match query.filter with
  | none => none
  | some filter => if filter.saysNothing then none else some filter.normalForm

def selectedFields (query : Query) : List String :=
  if query.fields.isEmpty then ["*"] else query.fields

def selected (query : Query) : Selection where
  fields := query.selectedFields
  table := query.table
  leftJoins := query.leftJoins.map Join.joined
  rightJoins := query.rightJoins.map Join.joined
  joins := query.joins.map Join.joined
  condition := query.condition
  sort := query.sort
  window := query.paging.window?

variable {query : Query} {dialect : Dialect}

theorem selection_eq (query : Query) :
    query.selection = Clause.select query.fields ++ (" FROM " ++ query.table) ++
      (suffix (Clause.join .left query.leftJoins) ++
        (suffix (Clause.join .right query.rightJoins) ++
          suffix (Clause.join .inner query.joins))) := by
  have parts : query.sources = [Clause.select query.fields, "FROM " ++ query.table] ++
      ((Clause.join .left query.leftJoins).toList ++
        ((Clause.join .right query.rightJoins).toList ++
          (Clause.join .inner query.joins).toList)) := by
    simp [sources]
  have front : " ".intercalate [Clause.select query.fields, "FROM " ++ query.table] =
      Clause.select query.fields ++ (" FROM " ++ query.table) := by
    have word : " FROM " = " " ++ "FROM " := rfl
    rw [String.intercalate_cons_cons, String.intercalate_singleton, word, String.append_assoc,
      String.append_assoc]
  rw [selection, parts, intercalate_append_eq " " (by simp), front]
  simp [suffix]

theorem arrangement_eq (query : Query) (dialect : Dialect) :
    query.arrangement dialect =
      suffix (Clause.orderBy query.sort) ++ suffix (Clause.limit dialect query.paging) := by
  simp [arrangement, ordering, suffix]

theorem toList_suffix_some (clause : String) :
    (suffix (some clause)).toList = ' ' :: clause.toList := by
  simp [suffix]

theorem toList_suffix_join (kind : JoinKind) (joins : List Join) :
    (suffix (Clause.join kind joins)).toList = joins.flatMap fun join =>
      ' ' :: opened (joinWords kind)
        (join.table.toList ++ ' ' :: ("ON".toList ++ ' ' :: join.on.toList)) := by
  have single : ∀ join : Join,
      (" " ++ (kind.keyword ++ " " ++ join.table ++ " ON " ++ join.on)).toList =
        ' ' :: opened (joinWords kind)
          (join.table.toList ++ ' ' :: ("ON".toList ++ ' ' :: join.on.toList)) := by
    intro join
    cases kind <;> simp [JoinKind.keyword, joinWords, opened]
  cases joins with
  | nil => rfl
  | cons first others =>
      have joined := intercalate_append_eq " "
        (List.cons_ne_nil (kind.keyword ++ " " ++ first.table ++ " ON " ++ first.on) [])
        (others.map fun join => kind.keyword ++ " " ++ join.table ++ " ON " ++ join.on)
      simp only [List.singleton_append, String.intercalate_singleton] at joined
      simp only [suffix, Clause.join, List.isEmpty_cons, Bool.false_eq_true, if_false,
        List.map_cons, joined]
      simp only [List.flatMap_cons, ← single]
      simp [List.flatMap, Function.comp_def]

theorem toList_suffix_orderBy {keys : List SortKey} (nonempty : keys ≠ []) :
    (suffix (Clause.orderBy keys)).toList = ' ' :: opened ["ORDER", "BY"]
      (([','] ++ [' ']).intercalate
        (keys.map fun key => key.1.toList ++ ' ' :: key.2.keyword.toList)) := by
  have filled : keys.isEmpty = false := List.isEmpty_eq_false_iff.mpr nonempty
  simp [Clause.orderBy, filled, toList_suffix_some, opened, Function.comp_def]

theorem toList_limit (dialect : Dialect) (offset : Option UInt64) (count : UInt64) :
    (dialect.limit offset count).toList =
      opened ["LIMIT"] (windowText dialect (offset, count)) := by
  cases offset with
  | none => cases dialect <;> simp [Dialect.limit, windowText, opened]
  | some offset => cases dialect <;> simp [Dialect.limit, windowText, opened]

section Parts

theorem reads_fields (valid : ∀ field ∈ query.fields, field = "*" ∨ isName field = true) :
    Reads dialect (readSeparated (Token.isMark .comma) readField)
      (fun token => false || token.isMark .comma)
      ([','].intercalate (query.selectedFields.map String.toList)) query.selectedFields := by
  have separating : Token.isMark .comma (.mark .comma) = true := by decide
  have listed : ∀ fields : List String, fields ≠ [] →
      (∀ field ∈ fields, field = "*" ∨ isName field = true) →
      Reads dialect (readSeparated (Token.isMark .comma) readField)
        (fun token => false || token.isMark .comma)
        ([','].intercalate (fields.map String.toList)) fields := by
    intro fields nonempty valid
    have reads := Reads.separated (Glue.comma dialect) separating rfl nonempty
      fun field member => reads_field (valid field member)
    simpa using reads
  unfold selectedFields
  split
  · exact listed ["*"] (by simp) (by simp)
  · rename_i filled
    exact listed query.fields (by simpa using filled) valid

theorem reads_joins (kind : JoinKind) {joins : List Join}
    (equations : ∀ join ∈ joins, isName join.table = true ∧ isEquation join.on = true) :
    ReadsBehind dialect (readClauses (joinWords kind) readJoin) ((joinWords kind).headD "")
      (Token.isKeyword ((joinWords kind).headD "")) (suffix (Clause.join kind joins)).toList
      (joins.map Join.joined) := by
  rw [toList_suffix_join]
  have each : ∀ join ∈ joins, Reads dialect readJoin (fun _ => false)
      (join.table.toList ++ ' ' :: ("ON".toList ++ ' ' :: join.on.toList)) join.joined :=
    fun join member => reads_join (equations join member).1 (equations join member).2
  cases kind with
  | left => exact reads_each (by decide) each
  | right => exact reads_each (by decide) each
  | inner => exact reads_each (by decide) each

theorem reads_orderBy {keys : List SortKey} (named : ∀ key ∈ keys, isName key.1 = true) :
    ReadsBehind dialect
      (readClause ["ORDER", "BY"] (readSeparated (Token.isMark .comma) readSortKey)) "ORDER"
      (fun token => token.isKeyword "ORDER" || (false || token.isMark .comma))
      (suffix (Clause.orderBy keys)).toList (if keys.isEmpty then none else some keys) := by
  by_cases empty : keys = []
  · subst empty
    exact reads_absent "ORDER" ["BY"] _
  · have filled : keys.isEmpty = false := List.isEmpty_eq_false_iff.mpr empty
    have separating : Token.isMark .comma (.mark .comma) = true := by decide
    have reads := Reads.separated ((Glue.comma dialect).append (Glue.space dialect)) separating rfl
      empty fun key member => reads_sortKey (named key member)
    rw [toList_suffix_orderBy empty, filled]
    rw [List.map_id'] at reads
    exact reads_present (by decide) reads

theorem reads_limit (dialect : Dialect) (paging : Paging) :
    ReadsBehind dialect (readClause ["LIMIT"] (readWindow dialect)) "LIMIT"
      (fun token => token.isKeyword "LIMIT" || (token.isMark .comma || token.isKeyword "OFFSET"))
      (suffix (Clause.limit dialect paging)).toList paging.window? := by
  cases window : paging.window? with
  | none =>
      simp only [Clause.limit, window]
      exact reads_absent "LIMIT" [] _
  | some found =>
      obtain ⟨offset, count⟩ := found
      simp only [Clause.limit, window, Option.map_some, toList_suffix_some, toList_limit]
      exact reads_present (by decide) (reads_window dialect (offset, count))

theorem reads_condition (filtered : query.IsFiltered dialect) :
    ∃ clause, whereClause dialect query.filter = .ok clause ∧
      ∀ depth, (suffix clause).toList.length ≤ depth →
        ReadsBehind dialect (readClause ["WHERE"] (readFormula depth)) "WHERE"
          (fun token => token.isKeyword "WHERE" || goesOnFormula token) (suffix clause).toList
          query.condition := by
  unfold condition
  cases set : query.filter with
  | none => exact ⟨none, rfl, fun depth _ => reads_absent "WHERE" [] _⟩
  | some filter =>
      obtain ⟨structured, predicate, compiled⟩ := filtered filter set
      refine ⟨_, whereClause_of_ok compiled, ?_⟩
      intro depth deep
      cases silent : filter.saysNothing with
      | true =>
          simp only [silent, if_true]
          exact reads_absent "WHERE" [] _
      | false =>
          have filled : filter ≠ .fields .empty := by
            rintro rfl
            cases silent
          have formula := Filter.readsFormula_compile structured filled compiled
          simp only [silent, Bool.false_eq_true, if_false, toList_suffix_some] at deep ⊢
          have text : ("WHERE " ++ predicate).toList = opened ["WHERE"] predicate.toList := by
            simp [opened]
          have shorter : predicate.toList.length < depth := by
            simp only [text, opened, List.foldr_cons, List.foldr_nil, List.length_cons,
              List.length_append] at deep
            omega
          rw [text]
          exact reads_present (by decide) (formula depth shorter)

end Parts

theorem toList_select (query : Query) :
    (Clause.select query.fields).toList =
      "SELECT".toList ++ ' ' :: [','].intercalate (query.selectedFields.map String.toList) := by
  unfold Clause.select selectedFields
  split <;> simp

theorem reads_selectSql (plain : query.IsPlain) (filtered : query.IsFiltered dialect) :
    ∃ sql, query.selectSql none dialect = .ok sql ∧
      Selection.ofSql? dialect sql = some query.selected := by
  have named : Text.allBlank query.table = false :=
    allBlank_of_isWord (isWord_of_isName plain.table)
  have unfiltered : query.effectiveFilter none = query.filter := by simp [effectiveFilter]
  obtain ⟨clause, compiled, condition⟩ := reads_condition filtered
  let sql := query.selection ++ suffix clause ++ query.arrangement dialect
  have text : sql.toList = "SELECT".toList ++ ' ' ::
      ([','].intercalate (query.selectedFields.map String.toList) ++
        ' ' :: ("FROM".toList ++ ' ' :: query.table.toList)) ++
      ((suffix (Clause.join .left query.leftJoins)).toList ++
        ((suffix (Clause.join .right query.rightJoins)).toList ++
          ((suffix (Clause.join .inner query.joins)).toList ++ ((suffix clause).toList ++
            ((suffix (Clause.orderBy query.sort)).toList ++
              (suffix (Clause.limit dialect query.paging)).toList))))) := by
    simp only [sql, selection_eq, arrangement_eq, String.toList_append, toList_select]
    simp
  refine ⟨sql, ?_, ?_⟩
  · rw [selectSql_eq named, unfiltered, compiled]
    rfl
  · have joins : ∀ join ∈ query.leftJoins ++ query.rightJoins ++ query.joins,
        isName join.table = true ∧ isEquation join.on = true := plain.joins
    have short : (suffix clause).toList.length ≤ sql.toList.length + 1 := by
      rw [text]
      simp only [List.length_append]
      omega
    have clauses : ReadsClauses dialect (sql.toList.length + 1)
        ([','].intercalate (query.selectedFields.map String.toList))
        (suffix (Clause.join .left query.leftJoins)).toList
        (suffix (Clause.join .right query.rightJoins)).toList
        (suffix (Clause.join .inner query.joins)).toList (suffix clause).toList
        (suffix (Clause.orderBy query.sort)).toList
        (suffix (Clause.limit dialect query.paging)).toList
        (if query.sort.isEmpty then none else some query.sort) query.selected :=
      { fields := reads_fields plain.fields
        table := plain.table
        left := reads_joins .left fun join member => joins join (by simp [member])
        right := reads_joins .right fun join member => joins join (by simp [member])
        inner := reads_joins .inner fun join member => joins join (by simp [member])
        condition := condition _ short
        sort := reads_orderBy plain.sort
        keys := by cases sort : query.sort <;> simp [selected, sort]
        window := reads_limit dialect query.paging }
    obtain ⟨tokens, spells, read⟩ := clauses.reads
    rw [selected, ← text] at spells
    simp [Selection.ofSql?, readWhole, spells.tokenize_eq, read]

/--
A selection of plain names, under either dialect, is read back clause by clause and to its last
character as what the query asks for. So two queries with the same selection ask for the same.
-/
theorem selections_read_back (plain : query.IsPlain) (filtered : query.IsFiltered dialect) :
    (∃ sql, query.selectSql none dialect = .ok sql ∧
      Selection.ofSql? dialect sql = some query.selected) ∧
    ∀ other : Query, other.IsPlain → other.IsFiltered dialect →
      other.selectSql none dialect = query.selectSql none dialect →
      other.selected = query.selected := by
  obtain ⟨sql, compiled, read⟩ := reads_selectSql plain filtered
  refine ⟨⟨sql, compiled, read⟩, ?_⟩
  intro other otherPlain otherFiltered same
  obtain ⟨otherSql, otherCompiled, otherRead⟩ := reads_selectSql otherPlain otherFiltered
  rw [otherCompiled, compiled, Except.ok.injEq] at same
  rw [same, read] at otherRead
  exact (Option.some.inj otherRead).symm

def tangled : Query where
  table := "users"
  leftJoins := [⟨"roles", "users.role = roles.id"⟩, ⟨"teams", "users.team=teams.id "⟩]
  rightJoins := []
  joins := [⟨"orgs", "orgs.id = users.org"⟩]
  filter := some (.fields (.ofList [("name", .equals (.text "x' JOIN y ORDER BY id LIMIT 1"))]))
  fields := []
  sort := [("users.id", .descending), ("name", .ascending)]
  paging := ⟨some 40, some 20, none⟩
  idColumn := "id"

def tangledAgain : Query :=
  { tangled with fields := ["*"], paging := ⟨some 7, none, some (40, 20)⟩ }

theorem selections_read_back_tangled :
    tangled.IsPlain ∧ tangled.IsFiltered .postgres ∧
    (∃ sql, tangled.selectSql none .postgres = .ok sql ∧
      Selection.ofSql? .postgres sql = some
        { fields := ["*"]
          table := "users"
          leftJoins := [⟨"roles", "users.role", "roles.id"⟩, ⟨"teams", "users.team", "teams.id"⟩]
          rightJoins := []
          joins := [⟨"orgs", "orgs.id", "users.org"⟩]
          condition := some (.compare "name" .equal (.text "x' JOIN y ORDER BY id LIMIT 1"))
          sort := [("users.id", .descending), ("name", .ascending)]
          window := some (some 40, 20) }) ∧
    tangledAgain.IsPlain ∧ tangledAgain.IsFiltered .postgres ∧
    tangledAgain.selectSql none .postgres = tangled.selectSql none .postgres ∧
    tangledAgain.selected = tangled.selected := by
  have plain : tangled.IsPlain := ⟨by decide, by decide, by decide, by decide⟩
  have plainAgain : tangledAgain.IsPlain := ⟨by decide, by decide, by decide, by decide⟩
  have filtered : tangled.IsFiltered .postgres := by
    intro filter set
    cases set
    exact ⟨rfl, _, rfl⟩
  have same : tangledAgain.selectSql none .postgres = tangled.selectSql none .postgres := rfl
  have reads := selections_read_back plain filtered
  exact ⟨plain, filtered, reads.1, plainAgain, filtered, same,
    reads.2 tangledAgain plainAgain filtered same⟩

end Query

end SqlComposer

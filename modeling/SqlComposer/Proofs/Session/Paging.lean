import SqlComposer.Proofs.Session.Operation
import SqlComposer.Proofs.Statement.Paging

/-!
Which rows a query asks for after any settings: of each kind of setting the last one counts, and
both dialects ask for the same rows. Counting runs the selection without its LIMIT clause.
-/

namespace SqlComposer

namespace Query

inductive Setting where
  | joinLeft (tables : List Join)
  | joinRight (tables : List Join)
  | joinInner (tables : List Join)
  | filterBy (filter : Filter)
  | sortBy (keys : List SortKey)
  | skip (count : UInt64)
  | limit (count : UInt64)
  | slice (start stop : UInt64)
  | select (fields : List String)
  | identifyBy (column : String)

namespace Setting

def apply (query : Query) : Setting → Query
  | .joinLeft tables => query.joinLeft tables
  | .joinRight tables => query.joinRight tables
  | .joinInner tables => query.joinInner tables
  | .filterBy filter => query.filterBy filter
  | .sortBy keys => query.sortBy keys
  | .skip count => query.skip count
  | .limit count => query.limit count
  | .slice start stop => query.slice start stop
  | .select fields => query.select fields
  | .identifyBy column => query.identifyBy column

def skip? : Setting → Option UInt64
  | .skip count => some count
  | _ => none

def limit? : Setting → Option UInt64
  | .limit count => some count
  | _ => none

def slice? : Setting → Option (UInt64 × UInt64)
  | .slice start stop => some (start, stop)
  | _ => none

end Setting

def latest {α : Type} (kind : Setting → Option α) (settings : List Setting) : Option α :=
  (settings.filterMap kind).getLast?

theorem latest_cons {α : Type} (kind : Setting → Option α) (setting : Setting)
    (later : List Setting) :
    latest kind (setting :: later) = (latest kind later).or (kind setting) := by
  rw [latest, latest, List.filterMap_cons]
  cases kind setting with
  | none => simp
  | some said =>
      rw [List.getLast?_cons]
      cases (later.filterMap kind).getLast? <;> rfl

/--
The rows that settings ask for: those at the places of the last slice if there is one, or else as
many as the last limit allows behind those to skip. A limit of zero allows all.
-/
def rowsAsked {α : Type} (settings : List Setting) (rows : List α) : List α :=
  match latest Setting.slice? settings, latest Setting.limit? settings with
  | some (start, stop), _ => (rows.take stop.toNat).drop start.toNat
  | none, none => rows
  | none, some count =>
    if count = 0 then rows
    else (rows.drop ((latest Setting.skip? settings).getD 0).toNat).take count.toNat

variable {query : Query}

theorem paging_apply (query : Query) (setting : Setting) :
    (setting.apply query).paging =
      ⟨setting.skip?.or query.paging.skip, setting.limit?.or query.paging.size,
        (setting.slice?.map fun (start, stop) => Paging.sliceBetween start stop).or
          query.paging.slice⟩ := by
  cases setting <;> rfl

theorem paging_foldl_apply (query : Query) (settings : List Setting) :
    (settings.foldl Setting.apply query).paging =
      ⟨(latest Setting.skip? settings).or query.paging.skip,
        (latest Setting.limit? settings).or query.paging.size,
        ((latest Setting.slice? settings).map fun (start, stop) =>
          Paging.sliceBetween start stop).or query.paging.slice⟩ := by
  induction settings generalizing query with
  | nil => rfl
  | cons setting later ih =>
      simp only [List.foldl_cons, ih, paging_apply, latest_cons, Option.or_assoc, Option.map_or]

theorem keepRows_window? {α : Type} (settings : List Setting) (rows : List α) :
    keepRows (settings.foldl Setting.apply query.unpaged).paging.window? rows =
      rowsAsked settings rows := by
  have fresh : query.unpaged.paging = .all := rfl
  rw [paging_foldl_apply, fresh, rowsAsked, Paging.window?]
  simp only [Paging.all, Option.or_none]
  cases latest Setting.slice? settings with
  | some bounds =>
      obtain ⟨start, stop⟩ := bounds
      exact keepRows_sliceBetween start stop rows
  | none =>
      cases latest Setting.limit? settings with
      | none => rfl
      | some count =>
          simp only [Option.map_none]
          by_cases unlimited : count = 0
          · simp [unlimited, keepRows]
          · simp [unlimited, keepRows]

end Query

namespace TableQuery

open Query

/--
After any settings on a query without a window, the LIMIT clause of its selection is read as one
window in both dialects, and that keeps of any rows the ones asked for. For every query, the clause
stands behind the selection that a count runs instead, and the count is that of the rows of the
answer; if there is no selection, neither is there a count.
-/
theorem windows_kept (query : Query) (settings : List Setting) (target : TableQuery)
    (session : Session ScriptedPool) :
    let paged := settings.foldl Setting.apply query.unpaged
    let dialect := session.pool.dialect
    let counted := target.count.runIn session
    let fetched := target.all.runIn session
    (∃ window, (∀ dialect, windowOf? dialect (paged.limitClause dialect) = some window) ∧
      ∀ (α : Type) (rows : List α), keepRows window rows = rowsAsked settings rows) ∧
    (∀ dialect, target.query.selectSql none dialect =
      (target.query.unpaged.selectSql none dialect).map
        (· ++ target.query.limitClause dialect)) ∧
    (∀ fault, target.query.unpaged.selectSql none dialect = .error fault →
      (∃ message, counted = (.error (.validation message), session)) ∧
      ∃ message, fetched = (.error (.validation message), session)) ∧
    ∀ sql output, target.query.unpaged.selectSql none dialect = .ok sql →
      target.router.Reaches session.pool → target.router.answer session.pool = .ok output →
      counted.1 = .ok (UInt64.ofNat output.toRows.length) ∧
      let sent := session.pool.statements ++
        (target.router.database.map dialect.selectDatabase).toList
      counted.2.pool.statements = sent ++ [sql] ∧
      fetched.2.pool.statements = sent ++ [sql ++ target.query.limitClause dialect] := by
  intro paged dialect counted fetched
  have unpaged := target.query.selectSql_eq_unpaged none
  refine ⟨?_, unpaged, ?_, ?_⟩
  · refine ⟨paged.paging.window?, windowOf?_limitClause paged, ?_⟩
    intro α rows
    exact keepRows_window? settings rows
  · intro fault failed
    have uncounted : (Operation.count target).statement? dialect = none :=
      congrArg Except.toOption failed
    have unfetched : (Operation.all target).statement? dialect = none := by
      rw [Operation.statement?, unpaged, failed]
      rfl
    exact ⟨Operation.refuses_of_unmade uncounted, Operation.refuses_of_unmade unfetched⟩
  · intro sql output made reaches answered
    have count : (Operation.count target).statement? dialect = some sql :=
      congrArg Except.toOption made
    have fetch : (Operation.all target).statement? dialect =
        some (sql ++ target.query.limitClause dialect) := by
      rw [Operation.statement?, unpaged, made]
      rfl
    obtain ⟨number, countSent⟩ := Operation.ends_of_answered count reaches answered
    obtain ⟨_, fetchSent⟩ := Operation.ends_of_answered fetch reaches answered
    exact ⟨number, countSent, fetchSent⟩

def listing : TableQuery :=
  ⟨⟨.replicas, some "app"⟩, { ofTable "users" with paging := ⟨some 40, some 20, none⟩ }⟩

theorem windows_kept_sliced :
    let settings := [Setting.slice 9 1, .limit 20, .slice 2 4, .skip 40, .limit 0]
    let paged := settings.foldl Setting.apply (ofTable "users")
    let row := Row.ofCells [("id", .int 1)]
    let pool := ((ScriptedPool.ofDialect .postgres).reply (.ok (.done 0 none))).reply
      (.ok (.rows [row, row]))
    paged.limitClause .mysql = " LIMIT 2,2" ∧
    paged.limitClause .postgres = " LIMIT 2 OFFSET 2" ∧
    (∃ window, (∀ dialect, windowOf? dialect (paged.limitClause dialect) = some window) ∧
      keepRows window ["a", "b", "c", "d", "e"] = ["c", "d"]) ∧
    listing.query.limitClause .postgres = " LIMIT 20 OFFSET 40" ∧
    (listing.count.runIn ⟨pool, []⟩).1 = .ok 2 ∧
    (listing.count.runIn ⟨pool, []⟩).2.pool.statements =
      ["SET search_path TO app", "SELECT * FROM users"] := by
  intro settings paged row pool
  obtain ⟨⟨window, read, keeps⟩, _, _, counts⟩ :=
    windows_kept (ofTable "users") settings listing ⟨pool, []⟩
  have reaches : listing.router.Reaches pool := ⟨rfl, fun _ _ => ⟨_, rfl⟩⟩
  have counted := counts "SELECT * FROM users" (.rows [row, row]) rfl reaches rfl
  exact ⟨rfl, rfl, ⟨window, read, keeps String _⟩, rfl, counted.1, counted.2.1⟩

end TableQuery

end SqlComposer

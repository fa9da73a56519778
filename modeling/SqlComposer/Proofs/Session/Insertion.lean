import SqlComposer.Proofs.Record.Cells
import SqlComposer.Proofs.Record.Integers
import SqlComposer.Proofs.Session.Errors

/-!
What an insertion comes to. The identity of the new row is read when the row is already stored,
so an identity that cannot be read is an error of an insertion that took place.
-/

namespace SqlComposer

open IntegerType

theorem IntegerType.holds_uint64_iff {n : Int} :
    uint64.holds n = true ↔ ∃ identity : UInt64, n = identity.toNat := by
  rw [holds_iff]
  constructor
  · rintro ⟨lower, upper⟩
    have bounds : 0 ≤ n ∧ n < 2 ^ 64 := ⟨lower, Int.lt_of_le_sub_one upper⟩
    refine ⟨UInt64.ofNat n.toNat, ?_⟩
    rw [UInt64.toNat_ofNat']
    omega
  · rintro ⟨identity, rfl⟩
    have bound := identity.toNat_lt
    exact ⟨Int.natCast_nonneg _, Int.le_sub_one_of_lt (by exact_mod_cast bound)⟩

inductive Value.Identifies : Value → UInt64 → Prop
  | unsigned (identity : UInt64) : Identifies (.uint identity) identity
  | signed {n : Int64} {identity : UInt64} (same : n.toInt = identity.toNat) :
    Identifies (.int n) identity
  | truth (b : Bool) : Identifies (.bool b) (if b then 1 else 0)
  | numeral {text : String} {identity : UInt64}
    (numeral : IsNumeral false (Text.trim text.toList) identity.toNat) :
    Identifies (.text text) identity

theorem Reader.integer_uint64_eq_ok {value : Value} {n : Int} :
    integer .uint64 value = .ok n ↔
      ∃ identity, value.Identifies identity ∧ n = identity.toNat := by
  constructor
  · intro read
    cases value with
    | uint k =>
        obtain ⟨rfl, _⟩ := (integer_number_eq_ok rfl).mp read
        exact ⟨k, .unsigned k, rfl⟩
    | int k =>
        obtain ⟨rfl, held⟩ := (integer_number_eq_ok rfl).mp read
        obtain ⟨identity, same⟩ := holds_uint64_iff.mp held
        exact ⟨identity, .signed same, same⟩
    | bool b =>
        cases read
        exact ⟨_, .truth b, by cases b <;> rfl⟩
    | text text =>
        obtain ⟨numeral, held⟩ := integerText_eq_ok.mp read
        obtain ⟨identity, rfl⟩ := holds_uint64_iff.mp held
        exact ⟨identity, .numeral numeral, rfl⟩
    | null | float | bytes | dateTime | date | uuid | json | raw => cases read
  · rintro ⟨identity, identifies, rfl⟩
    have held := holds_uint64_iff.mpr ⟨identity, rfl⟩
    cases identifies with
    | unsigned => exact (integer_number_eq_ok rfl).mpr ⟨rfl, held⟩
    | signed same => exact (integer_number_eq_ok rfl).mpr ⟨same, same ▸ held⟩
    | truth b => cases b <;> rfl
    | numeral numeral => exact integerText_eq_ok.mpr ⟨numeral, held⟩

namespace Output

variable {idColumn : String} {output : Output} {identity : Option UInt64}

/-- The identity, if any, that the output of an insertion tells. -/
inductive Reports (idColumn : String) : Output → Option UInt64 → Prop
  | done (affected : UInt64) (identity : Option UInt64) :
    Reports idColumn (.done affected identity) identity
  | noRow : Reports idColumn (.rows []) none
  | noColumn {row : Row} (others : List Row) (absent : idColumn ∉ row.columns) :
    Reports idColumn (.rows (row :: others)) none
  | null {row : Row} (others : List Row) (present : idColumn ∈ row.columns)
    (unset : row.cell idColumn = .null) : Reports idColumn (.rows (row :: others)) none
  | number {row : Row} {identity : UInt64} (others : List Row) (present : idColumn ∈ row.columns)
    (identifies : (row.cell idColumn).Identifies identity) :
    Reports idColumn (.rows (row :: others)) (some identity)

/-- The first row has a value in the column, and it shows no identity. -/
def Unreadable (idColumn : String) : Output → Prop
  | .rows (row :: _) => idColumn ∈ row.columns ∧ row.cell idColumn ≠ .null ∧
      ∀ identity, ¬(row.cell idColumn).Identifies identity
  | _ => False

theorem reports_or_unreadable (idColumn : String) (output : Output) :
    (∃ identity, output.Reports idColumn identity) ∨ output.Unreadable idColumn := by
  match output with
  | .done affected identity => exact Or.inl ⟨identity, .done affected identity⟩
  | .rows [] => exact Or.inl ⟨none, .noRow⟩
  | .rows (row :: others) =>
      by_cases present : idColumn ∈ row.columns
      · by_cases unset : row.cell idColumn = .null
        · exact Or.inl ⟨none, .null others present unset⟩
        · by_cases shown : ∃ identity, (row.cell idColumn).Identifies identity
          · obtain ⟨identity, identifies⟩ := shown
            exact Or.inl ⟨some identity, .number others present identifies⟩
          · exact Or.inr ⟨present, unset, not_exists.mp shown⟩
      · exact Or.inl ⟨none, .noColumn others present⟩

theorem insertedIdentity_set {row : Row} (others : List Row) (present : idColumn ∈ row.columns)
    (set : row.cell idColumn ≠ .null) :
    TableQuery.insertedIdentity idColumn (.rows (row :: others)) =
      match Reader.integer .uint64 (row.cell idColumn) with
      | .ok n => .ok (some (UInt64.ofNat n.toNat))
      | .error fault => .error (.decode idColumn fault.message) := by
  have found := row.get?_eq idColumn
  rw [if_pos present] at found
  have optional : Reader.optional (Reader.integer .uint64) (row.cell idColumn) =
      (Reader.integer .uint64 (row.cell idColumn)).map some := by
    cases cell : row.cell idColumn with
    | null => exact absurd cell set
    | _ => rfl
  simp only [TableQuery.insertedIdentity, List.head?_cons, Option.bind_some, found, optional]
  cases Reader.integer .uint64 (row.cell idColumn) with
  | ok n => rfl
  | error fault => rfl

theorem Reports.read (reports : output.Reports idColumn identity) :
    TableQuery.insertedIdentity idColumn output = .ok identity := by
  cases reports with
  | done affected identity => rfl
  | noRow => rfl
  | @noColumn row others absent =>
      have found := row.get?_eq idColumn
      rw [if_neg absent] at found
      simp [TableQuery.insertedIdentity, found]
  | @null row others present unset =>
      have found := row.get?_eq idColumn
      rw [if_pos present, unset] at found
      simp [TableQuery.insertedIdentity, found, Reader.optional]
  | @number row identity others present identifies =>
      have set : row.cell idColumn ≠ .null := by
        intro unset
        rw [unset] at identifies
        cases identifies
      have read := Reader.integer_uint64_eq_ok.mpr ⟨identity, identifies, rfl⟩
      simp [insertedIdentity_set others present set, read]

theorem Unreadable.fails (unreadable : output.Unreadable idColumn) :
    ∃ message, TableQuery.insertedIdentity idColumn output = .error (.decode idColumn message) := by
  match output, unreadable with
  | .rows (row :: others), ⟨present, set, anonymous⟩ =>
      rw [insertedIdentity_set others present set]
      cases read : Reader.integer .uint64 (row.cell idColumn) with
      | error fault => exact ⟨fault.message, rfl⟩
      | ok n =>
          obtain ⟨identity, identifies, _⟩ := Reader.integer_uint64_eq_ok.mp read
          exact absurd identifies (anonymous identity)

end Output

namespace TableQuery

variable {idColumn : String} {output : Output}

theorem insertedIdentity_eq_ok {identity : Option UInt64} :
    insertedIdentity idColumn output = .ok identity ↔ output.Reports idColumn identity := by
  constructor
  · intro read
    rcases output.reports_or_unreadable idColumn with ⟨told, reports⟩ | unreadable
    · rw [reports.read] at read
      cases read
      exact reports
    · obtain ⟨message, fails⟩ := unreadable.fails
      rw [fails] at read
      cases read
  · exact Output.Reports.read

theorem unreadable_of_error {error : SqlError}
    (failed : insertedIdentity idColumn output = .error error) :
    output.Unreadable idColumn ∧ ∃ message, error = .decode idColumn message := by
  rcases output.reports_or_unreadable idColumn with ⟨told, reports⟩ | unreadable
  · rw [reports.read] at failed
    cases failed
  · obtain ⟨message, fails⟩ := unreadable.fails
    rw [fails] at failed
    exact ⟨unreadable, message, (Except.error.inj failed).symm⟩

theorem insertedIdentity_fails_iff :
    (∃ error, insertedIdentity idColumn output = .error error) ↔ output.Unreadable idColumn := by
  constructor
  · rintro ⟨error, failed⟩
    exact (unreadable_of_error failed).1
  · intro unreadable
    obtain ⟨message, fails⟩ := unreadable.fails
    exact ⟨_, fails⟩

variable {target : TableQuery} {document : Document}

def inserting (target : TableQuery) (document : Document) (dialect : Dialect) : String :=
  target.query.insertion document dialect ++ Query.suffix dialect.returning?

theorem runIn_insert (named : Text.allBlank target.query.table = false)
    (filled : document.entries ≠ []) (session : Session ScriptedPool) :
    ∃ log, (target.insert document).runIn session =
      ((target.router.progress session.pool).outcome target.router.group "insert"
          (target.inserting document session.pool.dialect)
          (insertedIdentity target.query.idColumn),
        ⟨target.router.served (target.inserting document session.pool.dialect) session.pool,
          log⟩) := by
  have runs := Operation.runs_call (.insert target document) session
  simp only [Operation.statement?, Query.insertSql_eq named filled, Except.toOption] at runs
  exact runs

/--
An insertion that ends in an error was not granted a connection, or found no database, or was
rejected; or else it was accepted, and the row that came back has in the id column a value that
shows no identity. Of every accepted insertion that is the only failure, and otherwise it ends in
what its output reports.
-/
theorem insert_ends (named : Text.allBlank target.query.table = false)
    (filled : document.entries ≠ []) (session : Session ScriptedPool) :
    let pool := session.pool
    let router := target.router
    let sql := target.inserting document pool.dialect
    let ended := (target.insert document).runIn session
    (∀ error, ended.1 = .error error →
      (∃ reason, pool.refusal = some reason ∧
        error = .connection ("connect " ++ router.group.name ++ ": " ++ reason.message)) ∨
      (pool.refusal = none ∧ ∃ database reason, router.database = some database ∧
        pool.answer 0 = .error reason ∧
        error = .databaseSelect reason.message (pool.dialect.selectDatabase database)) ∨
      (router.Reaches pool ∧ ∃ reason, router.answer pool = .error reason ∧
        error = .query ("insert: " ++ reason.message) sql) ∨
      (router.Reaches pool ∧ ∃ output, router.answer pool = .ok output ∧
        output.Unreadable target.query.idColumn ∧
        ∃ message, error = .decode target.query.idColumn message)) ∧
    ∀ output, router.Reaches pool → router.answer pool = .ok output →
      ended.2.pool.statements = pool.statements ++
        (router.database.map pool.dialect.selectDatabase).toList ++ [sql] ∧
      (∀ identity, ended.1 = .ok identity ↔ output.Reports target.query.idColumn identity) ∧
      ((∃ error, ended.1 = .error error) ↔ output.Unreadable target.query.idColumn) := by
  intro pool router sql ended
  obtain ⟨log, ran⟩ := runIn_insert named filled session
  have result : ended.1 = (router.progress pool).outcome router.group "insert" sql
      (insertedIdentity target.query.idColumn) := congrArg Prod.fst ran
  have served : ended.2.pool = router.served sql pool := congrArg (·.2.pool) ran
  constructor
  · intro error failed
    rw [result, Progress.outcome_eq_error_iff] at failed
    rcases failed with ⟨reason, refused, same⟩ | ⟨selection, reason, unselected, same⟩ |
      ⟨selection, reason, answered, same⟩ | ⟨selection, output, answered, undecoded⟩
    · exact Or.inl ⟨reason, Router.progress_eq_refused_iff.mp refused, same⟩
    · obtain ⟨granted, reply, database, bound, rfl⟩ :=
        Router.progress_eq_unselected_iff.mp unselected
      exact Or.inr (Or.inl ⟨granted, database, reason, bound, reply, same⟩)
    · obtain ⟨reaches, reply, _⟩ := Router.progress_eq_answered_iff.mp answered
      exact Or.inr (Or.inr (Or.inl ⟨reaches, reason, reply, same⟩))
    · obtain ⟨reaches, reply, _⟩ := Router.progress_eq_answered_iff.mp answered
      have unreadable := unreadable_of_error undecoded
      exact Or.inr (Or.inr (Or.inr ⟨reaches, output, reply, unreadable⟩))
  · intro output reaches reply
    have answered : router.progress pool =
        .answered (router.database.map pool.dialect.selectDatabase) (.ok output) :=
      Router.progress_eq_answered_iff.mpr ⟨reaches, reply, rfl⟩
    rw [result, served, Router.served_eq, answered, Progress.outcome_answered]
    refine ⟨?_, fun identity => insertedIdentity_eq_ok, insertedIdentity_fails_iff⟩
    simp [Progress.issued]

def joining : TableQuery := ⟨⟨.master, none⟩, .ofTable "users"⟩

def ann : Document := .ofList [("name", .text "Ann")]

def returning (id : String) : ScriptedPool :=
  (ScriptedPool.ofDialect .postgres).reply
    (.ok (.rows [.ofCells [("name", .text "Ann"), ("id", .text id)]]))

theorem insert_ends_numbered :
    let ended := (joining.insert ann).runIn ⟨returning " 42", []⟩
    ended.1 = .ok (some 42) ∧
    ended.2.pool.statements = ["INSERT INTO users (name) VALUES ('Ann') RETURNING *"] := by
  intro ended
  have named : Text.allBlank joining.query.table = false := by decide
  have reaches : joining.router.Reaches (returning " 42") := ⟨rfl, nofun⟩
  obtain ⟨sent, reported, _⟩ :=
    (@insert_ends joining ann named nofun ⟨returning " 42", []⟩).2 _ reaches rfl
  have trimmed : Text.trim " 42".toList = ['4', '2'] := by decide
  have numeral : IsNumeral false (Text.trim " 42".toList) (42 : UInt64).toNat := by
    rw [trimmed]
    exact .plain (by simp) (by simp)
  exact ⟨(reported _).mpr (.number [] (by decide) (.numeral numeral)), sent⟩

/-- The row is stored and comes back, but its id is not a number. -/
theorem insert_stored_unread :
    let pool := returning "67e55044-10b1-426f-9247-bb680e5fe0c8"
    let ended := (joining.insert ann).runIn ⟨pool, []⟩
    pool.refusal = none ∧ joining.router.database = none ∧
    (∃ row, joining.router.answer pool = .ok (.rows [row])) ∧
    ended.2.pool.statements = ["INSERT INTO users (name) VALUES ('Ann') RETURNING *"] ∧
    ended.1 = .error (.decode "id" "invalid digit found in string") := by
  intro pool ended
  exact ⟨rfl, rfl, ⟨_, rfl⟩, by decide +kernel, rfl⟩

end TableQuery

end SqlComposer

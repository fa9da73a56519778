import SqlComposer.Proofs.Outcome
import SqlComposer.Proofs.Session.Progress
import SqlComposer.Proofs.Statement.Refusal
import SqlComposer.Session.TableQuery

/-!
The calls that run one statement, and what each of them comes to: it refuses its input, or runs
its statement over its router and makes its result from the output.
-/

namespace SqlComposer

inductive Operation where
  | all (target : TableQuery)
  | allByIds (target : TableQuery) (ids : List Value)
  | first (target : TableQuery)
  | byId (target : TableQuery) (id : Value)
  | allAs {α : Type} (read : Row → Except SqlError α) (target : TableQuery)
  | firstAs {α : Type} (read : Row → Except SqlError α) (target : TableQuery)
  | count (target : TableQuery)
  | insert (target : TableQuery) (document : Document)
  | update (target : TableQuery) (document : Document)
  | remove (target : TableQuery)
  | query (router : Router) (sql : String)
  | databases (router : Router)
  | tables (router : Router)

namespace Operation

def Result : Operation → Type
  | .all _ => List Row
  | .allByIds _ _ => List Row
  | .first _ => Option Row
  | .byId _ _ => Option Row
  | @Operation.allAs α _ _ => List α
  | @Operation.firstAs α _ _ => Option α
  | .count _ => UInt64
  | .insert _ _ => Option UInt64
  | .update _ _ => UInt64
  | .remove _ => UInt64
  | .query _ _ => Output
  | .databases _ => List String
  | .tables _ => List String

def call : (operation : Operation) → Call ScriptedPool operation.Result
  | .all target => target.all
  | .allByIds target ids => target.allByIds ids
  | .first target => target.first
  | .byId target id => target.byId id
  | .allAs read target => target.allAs read
  | .firstAs read target => target.firstAs read
  | .count target => target.count
  | .insert target document => target.insert document
  | .update target document => target.update document
  | .remove target => target.remove
  | .query router sql => router.query sql
  | .databases router => router.databases
  | .tables router => router.tables

def router : Operation → Router
  | .all target => target.router
  | .allByIds target _ => target.router
  | .first target => target.router
  | .byId target _ => target.router
  | .allAs _ target => target.router
  | .firstAs _ target => target.router
  | .count target => target.router
  | .insert target _ => target.router
  | .update target _ => target.router
  | .remove target => target.router
  | .query router _ => router
  | .databases router => router
  | .tables router => router

def context : Operation → String
  | .all _ => "find"
  | .allByIds _ _ => "find"
  | .first _ => "find"
  | .byId _ _ => "find"
  | .allAs _ _ => "find"
  | .firstAs _ _ => "find"
  | .count _ => "count"
  | .insert _ _ => "insert"
  | .update _ _ => "update"
  | .remove _ => "remove"
  | .query _ _ => "query"
  | .databases _ => "list databases"
  | .tables _ => "list tables"

def finish : (operation : Operation) → Output → Except SqlError operation.Result
  | .all _, output => .ok output.toRows
  | .allByIds _ _, output => .ok output.toRows
  | .first _, output => .ok output.toRows.head?
  | .byId _ _, output => .ok output.toRows.head?
  | .allAs read _, output => output.toRows.mapM read
  | .firstAs read _, output =>
    match output.toRows.head? with
    | none => .ok none
    | some row => (read row).map some
  | .count _, output => .ok (UInt64.ofNat output.toRows.length)
  | .insert target _, output => TableQuery.insertedIdentity target.query.idColumn output
  | .update _ _, output => .ok output.affectedRows
  | .remove _, output => .ok output.affectedRows
  | .query _ _, output => .ok output
  | .databases _, output => Router.firstColumn output.toRows
  | .tables _, output => Router.firstColumn output.toRows

def statement? (dialect : Dialect) : Operation → Option String
  | .all target => (target.query.selectSql none dialect).toOption
  | .allByIds target ids => (target.query.selectSql (some ids) dialect).toOption
  | .first target => (target.query.selectSql none dialect).toOption
  | .byId target id => (target.query.selectSql (some [id]) dialect).toOption
  | .allAs _ target => (target.query.selectSql none dialect).toOption
  | .firstAs _ target => (target.query.selectSql none dialect).toOption
  | .count target => (target.query.unpaged.selectSql none dialect).toOption
  | .insert target document => (target.query.insertSql document dialect).toOption
  | .update target document => (target.query.updateSql document dialect).toOption
  | .remove target => (target.query.deleteSql dialect).toOption
  | .query _ sql => if Text.allBlank sql then none else some sql
  | .databases _ => some dialect.databaseList
  | .tables _ => some dialect.tableList

/-- No statement can be made of the call's input. An insertion does not look at the filter. -/
def IsInvalid (dialect : Dialect) : Operation → Prop
  | .all target => target.query.IsMalformed dialect
  | .allByIds target _ => target.query.IsMalformed dialect
  | .first target => target.query.IsMalformed dialect
  | .byId target _ => target.query.IsMalformed dialect
  | .allAs _ target => target.query.IsMalformed dialect
  | .firstAs _ target => target.query.IsMalformed dialect
  | .count target => target.query.IsMalformed dialect
  | .insert target document => Text.allBlank target.query.table = true ∨ document.entries = []
  | .update target document => target.query.IsMalformed dialect ∨ document.entries = []
  | .remove target => target.query.IsMalformed dialect
  | .query _ sql => Text.allBlank sql = true
  | .databases _ => False
  | .tables _ => False

theorem statement?_eq_none_iff (dialect : Dialect) (operation : Operation) :
    operation.statement? dialect = none ↔ operation.IsInvalid dialect := by
  cases operation with
  | all target => exact Query.selectSql_eq_none_iff none
  | allByIds target ids => exact Query.selectSql_eq_none_iff (some ids)
  | first target => exact Query.selectSql_eq_none_iff none
  | byId target id => exact Query.selectSql_eq_none_iff (some [id])
  | allAs read target => exact Query.selectSql_eq_none_iff none
  | firstAs read target => exact Query.selectSql_eq_none_iff none
  | count target => exact @Query.selectSql_eq_none_iff target.query.unpaged dialect none
  | insert target document => exact Query.insertSql_eq_none_iff
  | update target document => exact Query.updateSql_eq_none_iff
  | remove target => exact Query.deleteSql_eq_none_iff
  | query router sql => simp [statement?, IsInvalid]
  | databases router => simp [statement?, IsInvalid]
  | tables router => simp [statement?, IsInvalid]

theorem not_isInvalid {dialect : Dialect} {operation : Operation} {sql : String}
    (made : operation.statement? dialect = some sql) : ¬ operation.IsInvalid dialect := by
  rw [← statement?_eq_none_iff, made]
  simp

instance (dialect : Dialect) (operation : Operation) : Decidable (operation.IsInvalid dialect) :=
  decidable_of_iff (operation.statement? dialect = none) (operation.statement?_eq_none_iff dialect)

end Operation

/--
Where there is no statement the call refuses its input and does nothing. Otherwise it leaves what
the statement leaves, and ends as the statement does up to a last step on the output.
-/
def Call.Runs {α : Type} (call : Call ScriptedPool α) (router : Router) (context : String)
    (statement : Dialect → Option String) (finish : Output → Except SqlError α) : Prop :=
  ∀ session, match statement session.pool.dialect with
    | none => ∃ message, call.runIn session = (.error (.validation message), session)
    | some sql => ∃ log, call.runIn session =
        ((router.progress session.pool).result router.group context sql >>= finish,
          ⟨router.served sql session.pool, log⟩)

namespace Call

variable {α β : Type} {router : Router} {context : String} {finish : Output → Except SqlError α}

theorem runIn_ofExcept (result : Except SqlError α) (session : Session ScriptedPool) :
    (ofExcept id result).runIn session = (result, session) := by
  cases result with
  | error error => rfl
  | ok value => rfl

theorem runs_execute (router : Router) (context sql : String) :
    Runs (router.execute context sql) router context (fun _ => some sql) .ok := by
  intro session
  obtain ⟨log, ran⟩ := router.runIn_execute context sql session
  refine ⟨log, ?_⟩
  rw [ran]
  cases (router.progress session.pool).result router.group context sql with
  | error error => rfl
  | ok output => rfl

theorem Runs.andThen {call : Call ScriptedPool α} {next : α → Call ScriptedPool β}
    {statement : Dialect → Option String} (runs : Runs call router context statement finish)
    (change : α → Except SqlError β)
    (last : ∀ value session, (next value).runIn session = (change value, session)) :
    Runs (call >>= next) router context statement fun output => finish output >>= change := by
  intro session
  have before := runs session
  cases made : statement session.pool.dialect with
  | none =>
      rw [made] at before
      obtain ⟨message, refused⟩ := before
      exact ⟨message, by rw [runIn_bind, refused]⟩
  | some sql =>
      rw [made] at before
      obtain ⟨log, ran⟩ := before
      refine ⟨log, ?_⟩
      rw [runIn_bind, ran]
      cases (router.progress session.pool).result router.group context sql with
      | error error => rfl
      | ok output =>
          cases finished : finish output with
          | error error => simp [bind, Except.bind, finished]
          | ok value => simp [bind, Except.bind, finished, last]

theorem runs_compile (statement : Dialect → Except StatementFault String)
    {next : String → Call ScriptedPool α}
    (runs : ∀ sql, Runs (next sql) router context (fun _ => some sql) finish) :
    Runs (TableQuery.compile statement >>= next) router context
      (fun dialect => (statement dialect).toOption) finish := by
  intro session
  have compiled : (TableQuery.compile statement).runIn session =
      ((statement session.pool.dialect).mapError fun fault => .validation fault.message,
        session) := rfl
  have ran := runIn_bind (TableQuery.compile statement) next session
  rw [compiled] at ran
  cases made : statement session.pool.dialect with
  | error fault =>
      simp only [made, mapError_error] at ran ⊢
      exact ⟨fault.message, ran⟩
  | ok sql =>
      simp only [made, mapError_ok] at ran ⊢
      obtain ⟨log, after⟩ := runs sql session
      exact ⟨log, ran.trans after⟩

theorem runs_statement (statement : Dialect → Except StatementFault String)
    {next : Output → Call ScriptedPool α} (last : ∀ output session,
      (next output).runIn session = (finish output, session)) :
    Runs (TableQuery.compile statement >>= fun sql => router.execute context sql >>= next)
      router context (fun dialect => (statement dialect).toOption) finish :=
  runs_compile statement fun sql => (runs_execute router context sql).andThen finish last

theorem runs_listing (statement : Dialect → String) {next : Output → Call ScriptedPool α}
    (last : ∀ output session, (next output).runIn session = (finish output, session)) :
    Runs (Call.dialect >>= fun dialect => router.execute context (statement dialect) >>= next)
      router context (fun dialect => some (statement dialect)) finish :=
  fun session =>
    (runs_execute router context (statement session.pool.dialect)).andThen finish last session

end Call

namespace Operation

theorem runs_fetch (target : TableQuery) (ids : Option (List Value)) :
    Call.Runs (target.fetch ids) target.router "find"
      (fun dialect => (target.query.selectSql ids dialect).toOption)
      fun output => .ok output.toRows :=
  Call.runs_statement _ fun _ _ => rfl

theorem runs_first (target : TableQuery) (ids : Option (List Value)) :
    Call.Runs (target.fetch ids >>= fun rows => pure rows.head?) target.router "find"
      (fun dialect => (target.query.selectSql ids dialect).toOption)
      fun output => .ok output.toRows.head? :=
  (runs_fetch target ids).andThen (fun rows => .ok rows.head?) fun _ _ => rfl

theorem runs_call (operation : Operation) :
    Call.Runs operation.call operation.router operation.context
      (fun dialect => operation.statement? dialect) operation.finish := by
  cases operation with
  | all target => exact runs_fetch target none
  | allByIds target ids => exact runs_fetch target (some ids)
  | first target => exact runs_first target none
  | byId target id => exact runs_first target (some [id])
  | allAs read target =>
      exact (runs_fetch target none).andThen (List.mapM read) fun rows =>
        Call.runIn_ofExcept (rows.mapM read)
  | firstAs read target =>
      refine Call.Runs.andThen (runs_first target none) (fun found => match found with
        | none => .ok none
        | some row => (read row).map some) ?_
      intro found session
      cases found with
      | none => rfl
      | some row =>
          simp only [map_eq_pure_bind, Call.runIn_bind, Call.runIn_ofExcept]
          cases read row with
          | error error => rfl
          | ok value => rfl
  | count target => exact Call.runs_statement _ fun _ _ => rfl
  | insert target document =>
      exact Call.runs_statement _ fun output =>
        Call.runIn_ofExcept (TableQuery.insertedIdentity target.query.idColumn output)
  | update target document => exact Call.runs_statement _ fun _ _ => rfl
  | remove target => exact Call.runs_statement _ fun _ _ => rfl
  | query router sql =>
      intro session
      by_cases blank : Text.allBlank sql = true
      · simp only [statement?, blank, if_true]
        simp only [call, Router.query, blank, if_true]
        exact ⟨_, rfl⟩
      · simp only [statement?, blank, Bool.false_eq_true, if_false]
        simp only [call, Router.query, blank, Bool.false_eq_true, if_false]
        exact Call.runs_execute router "query" sql session
  | databases router =>
      exact Call.runs_listing _ fun output => Call.runIn_ofExcept (Router.firstColumn output.toRows)
  | tables router =>
      exact Call.runs_listing _ fun output => Call.runIn_ofExcept (Router.firstColumn output.toRows)

section Ends

variable {operation : Operation} {session : Session ScriptedPool}

theorem refuses_of_unmade (unmade : operation.statement? session.pool.dialect = none) :
    ∃ message, operation.call.runIn session = (.error (.validation message), session) := by
  have runs := operation.runs_call session
  simp only [unmade] at runs
  exact runs

theorem ends_of_answered {sql : String} {output : Output}
    (made : operation.statement? session.pool.dialect = some sql)
    (reaches : operation.router.Reaches session.pool)
    (answered : operation.router.answer session.pool = .ok output) :
    (operation.call.runIn session).1 = operation.finish output ∧
      (operation.call.runIn session).2.pool.statements = session.pool.statements ++
        (operation.router.database.map session.pool.dialect.selectDatabase).toList ++ [sql] := by
  have runs := operation.runs_call session
  simp only [made] at runs
  obtain ⟨log, ran⟩ := runs
  have progress := Router.progress_eq_answered_iff.mpr ⟨reaches, answered, rfl⟩
  rw [ran, Router.served_eq, progress]
  exact ⟨rfl, by simp [Progress.issued]⟩

end Ends

end Operation

end SqlComposer

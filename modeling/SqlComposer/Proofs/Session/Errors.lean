import SqlComposer.Proofs.Session.Operation
import SqlComposer.Record.Samples

/-!
What the error of a call tells: the kind, how far the call got, and the text, which statement
was rejected and why.
-/

namespace SqlComposer

def FailsAsRead {ι α : Type} (read : ι → Except SqlError α) : Prop :=
  ∀ input error, read input = .error error → ∃ column message, error = .decode column message

namespace FailsAsRead

variable {ι α β : Type} {read : ι → Except SqlError α}

theorem read_ok (value : ι → α) : FailsAsRead fun input => .ok (value input) := by
  intro input error failed
  cases failed

theorem bind {next : ι → α → Except SqlError β} (first : FailsAsRead read)
    (second : ∀ value, FailsAsRead fun input => next input value) :
    FailsAsRead fun input => read input >>= next input := by
  intro input error failed
  rcases bind_eq_error.mp failed with failed | ⟨value, _, failed⟩
  · exact first input error failed
  · exact second value input error failed

theorem ne_of_not_decode (reads : FailsAsRead read) {error : SqlError}
    (other : ∀ column message, error ≠ .decode column message) (input : ι) :
    read input ≠ .error error := by
  intro failed
  obtain ⟨column, message, same⟩ := reads input error failed
  exact other column message same

theorem decode_of_mapError {ε : Type} {result : Except ε α} {column : String} {text : ε → String}
    {error : SqlError}
    (failed : (result.mapError fun fault => SqlError.decode column (text fault)) = .error error) :
    ∃ column message, error = .decode column message := by
  cases result with
  | ok value => cases failed
  | error fault =>
      cases failed
      exact ⟨_, _, rfl⟩

theorem row (reader : Reader α) (column : String) :
    FailsAsRead fun row : Row => row.read reader column := by
  intro row error failed
  simp only [Row.read] at failed
  cases found : row.get? column with
  | none =>
      simp only [found] at failed
      cases failed
      exact ⟨_, _, rfl⟩
  | some value =>
      simp only [found] at failed
      exact decode_of_mapError failed

theorem mapM (fails : FailsAsRead read) : FailsAsRead (List.mapM read) := by
  intro inputs
  induction inputs with
  | nil =>
      intro error failed
      cases failed
  | cons input inputs ih =>
      intro error failed
      rw [List.mapM_cons] at failed
      rcases bind_eq_error.mp failed with failed | ⟨value, _, failed⟩
      · exact fails input error failed
      · rcases bind_eq_error.mp failed with failed | ⟨values, _, failed⟩
        · exact ih error failed
        · cases failed

end FailsAsRead

theorem Router.firstColumn_failsAsRead : FailsAsRead Router.firstColumn := by
  apply FailsAsRead.mapM
  intro row error failed
  cases found : row.at? 0 with
  | none =>
      simp only [found] at failed
      cases failed
      exact ⟨_, _, rfl⟩
  | some value =>
      simp only [found] at failed
      exact FailsAsRead.decode_of_mapError failed

theorem TableQuery.insertedIdentity_failsAsRead (idColumn : String) :
    FailsAsRead (TableQuery.insertedIdentity idColumn) := by
  intro output error failed
  cases output with
  | done affected identity => cases failed
  | rows found =>
      rw [insertedIdentity] at failed
      split at failed
      · cases failed
      · split at failed
        · cases failed
        · cases failed
          exact ⟨_, _, rfl⟩

namespace Operation

def OnlyReads : Operation → Prop
  | .allAs read _ => FailsAsRead read
  | .firstAs read _ => FailsAsRead read
  | _ => True

theorem finish_failsAsRead {operation : Operation} (reads : operation.OnlyReads) :
    FailsAsRead operation.finish := by
  cases operation with
  | allAs read target => exact fun output => reads.mapM output.toRows
  | firstAs read target =>
      intro output error failed
      cases found : output.toRows.head? with
      | none => simp [finish, found] at failed
      | some row =>
          simp only [finish, found] at failed
          cases result : read row with
          | ok value => simp [result, Except.map] at failed
          | error reason =>
              rw [result] at failed
              cases failed
              exact reads row error result
  | insert target document => exact TableQuery.insertedIdentity_failsAsRead target.query.idColumn
  | databases router => exact fun output => Router.firstColumn_failsAsRead output.toRows
  | tables router => exact fun output => Router.firstColumn_failsAsRead output.toRows
  | all | allByIds | first | byId | count | update | remove | query =>
      exact FailsAsRead.read_ok _

end Operation

namespace Progress

variable {α : Type} {progress : Progress} {group : Group} {context sql : String}
  {finish : Output → Except SqlError α}

def outcome (progress : Progress) (group : Group) (context sql : String)
    (finish : Output → Except SqlError α) : Except SqlError α :=
  progress.result group context sql >>= finish

theorem outcome_answered (selection : Option String) (output : Output) :
    (answered selection (.ok output)).outcome group context sql finish = finish output :=
  rfl

theorem outcome_eq_error_iff {error : SqlError} :
    progress.outcome group context sql finish = .error error ↔
      (∃ reason, progress = .refused reason ∧
        error = .connection ("connect " ++ group.name ++ ": " ++ reason.message)) ∨
      (∃ selection reason, progress = .unselected selection reason ∧
        error = .databaseSelect reason.message selection) ∨
      (∃ selection reason, progress = .answered selection (.error reason) ∧
        error = .query (context ++ ": " ++ reason.message) sql) ∨
      ∃ selection output, progress = .answered selection (.ok output) ∧
        finish output = .error error := by
  match progress with
  | .refused reason => simp [outcome, result, bind, Except.bind, eq_comm]
  | .unselected selection reason => simp [outcome, result, bind, Except.bind, eq_comm, and_assoc]
  | .answered selection (.error reason) =>
      simp [outcome, result, bind, Except.bind, eq_comm, and_assoc]
  | .answered selection (.ok output) => simp [outcome_answered, and_assoc]

theorem outcome_ne_validation (reads : FailsAsRead finish) (message : String) :
    progress.outcome group context sql finish ≠ .error (.validation message) := by
  simp [outcome_eq_error_iff, reads.ne_of_not_decode]

theorem outcome_connection_iff (reads : FailsAsRead finish) {message : String} :
    progress.outcome group context sql finish = .error (.connection message) ↔
      ∃ reason, progress = .refused reason ∧
        message = "connect " ++ group.name ++ ": " ++ reason.message := by
  simp [outcome_eq_error_iff, reads.ne_of_not_decode]

theorem outcome_databaseSelect_iff (reads : FailsAsRead finish) {message selection : String} :
    progress.outcome group context sql finish = .error (.databaseSelect message selection) ↔
      ∃ reason, progress = .unselected selection reason ∧ message = reason.message := by
  simp only [outcome_eq_error_iff]
  constructor
  · rintro (⟨_, _, other⟩ | ⟨_, reason, reached, same⟩ | ⟨_, _, _, other⟩ | ⟨_, output, _, failed⟩)
    · cases other
    · cases same
      exact ⟨reason, reached, rfl⟩
    · cases other
    · exact absurd failed (reads.ne_of_not_decode (by simp) output)
  · rintro ⟨reason, reached, rfl⟩
    exact Or.inr (Or.inl ⟨selection, reason, reached, rfl⟩)

theorem outcome_query_iff (reads : FailsAsRead finish) {message rejected : String} :
    progress.outcome group context sql finish = .error (.query message rejected) ↔
      ∃ selection reason, progress = .answered selection (.error reason) ∧
        message = context ++ ": " ++ reason.message ∧ rejected = sql := by
  simp [outcome_eq_error_iff, reads.ne_of_not_decode]

theorem outcome_decoded_iff (reads : FailsAsRead finish) :
    ((∃ value, progress.outcome group context sql finish = .ok value) ∨
        ∃ column message,
          progress.outcome group context sql finish = .error (.decode column message)) ↔
      ∃ selection output, progress = .answered selection (.ok output) := by
  match progress with
  | .refused error => simp [outcome, result, bind, Except.bind]
  | .unselected selection error => simp [outcome, result, bind, Except.bind]
  | .answered selection (.error error) => simp [outcome, result, bind, Except.bind]
  | .answered selection (.ok output) =>
      rw [outcome_answered]
      refine iff_of_true ?_ ⟨selection, output, rfl⟩
      cases finished : finish output with
      | ok value => exact Or.inl ⟨value, rfl⟩
      | error error =>
          obtain ⟨column, message, rfl⟩ := reads output error finished
          exact Or.inr ⟨column, message, rfl⟩

end Progress

namespace Operation

structure Tells (operation : Operation) (before after : ScriptedPool)
    (result : Except SqlError operation.Result) : Prop where
  validation : (∃ message, result = .error (.validation message)) ↔
    operation.IsInvalid before.dialect
  connection : ∀ message, result = .error (.connection message) ↔
    ¬operation.IsInvalid before.dialect ∧ ∃ error, before.refusal = some error ∧
      message = "connect " ++ operation.router.group.name ++ ": " ++ error.message
  databaseSelect : ∀ message sql, result = .error (.databaseSelect message sql) ↔
    ¬operation.IsInvalid before.dialect ∧ before.refusal = none ∧ ∃ database error,
      operation.router.database = some database ∧ before.answer 0 = .error error ∧
        message = error.message ∧ sql = before.dialect.selectDatabase database
  query : ∀ message sql, result = .error (.query message sql) ↔
    operation.statement? before.dialect = some sql ∧ operation.router.Reaches before ∧
      ∃ error, operation.router.answer before = .error error ∧
        message = operation.context ++ ": " ++ error.message
  decoded : ((∃ value, result = .ok value) ∨
      ∃ column message, result = .error (.decode column message)) ↔
    ¬operation.IsInvalid before.dialect ∧ operation.router.Reaches before ∧
      ∃ output, operation.router.answer before = .ok output
  rejected : ∀ message sql, result = .error (.databaseSelect message sql) ∨
      result = .error (.query message sql) →
    ∃ sent error, after.statements = before.statements ++ sent ++ [sql] ∧
      before.answer sent.length = .error error

theorem tells_invalid {operation : Operation} {before after : ScriptedPool} {message : String}
    (invalid : operation.IsInvalid before.dialect) :
    operation.Tells before after (.error (.validation message)) := by
  have unmade := (operation.statement?_eq_none_iff before.dialect).mpr invalid
  constructor <;> simp [invalid, unmade]

theorem tells_outcome {operation : Operation} {before : ScriptedPool} {sql : String}
    (reads : operation.OnlyReads) (valid : operation.statement? before.dialect = some sql) :
    operation.Tells before (operation.router.served sql before)
      ((operation.router.progress before).outcome operation.router.group operation.context sql
        operation.finish) := by
  have fails := finish_failsAsRead reads
  have invalid := not_isInvalid valid
  constructor
  · refine iff_of_false ?_ invalid
    rintro ⟨message, ended⟩
    exact Progress.outcome_ne_validation fails message ended
  · intro message
    rw [Progress.outcome_connection_iff fails]
    simp only [Router.progress_eq_refused_iff, invalid, not_false_eq_true, true_and]
  · intro message selection
    rw [Progress.outcome_databaseSelect_iff fails]
    simp only [Router.progress_eq_unselected_iff, invalid, not_false_eq_true, true_and]
    constructor
    · rintro ⟨error, ⟨granted, reply, database, bound, text⟩, same⟩
      exact ⟨granted, database, error, bound, reply, same, text⟩
    · rintro ⟨granted, database, error, bound, reply, same, text⟩
      exact ⟨error, ⟨granted, reply, database, bound, text⟩, same⟩
  · intro message rejected
    rw [Progress.outcome_query_iff fails, valid]
    simp only [Router.progress_eq_answered_iff, Option.some.injEq]
    constructor
    · rintro ⟨selection, error, ⟨reaches, reply, _⟩, text, same⟩
      exact ⟨same.symm, reaches, error, reply, text⟩
    · rintro ⟨same, reaches, error, reply, text⟩
      exact ⟨_, error, ⟨reaches, reply, rfl⟩, text, same.symm⟩
  · rw [Progress.outcome_decoded_iff fails]
    simp only [Router.progress_eq_answered_iff, invalid, not_false_eq_true, true_and]
    constructor
    · rintro ⟨selection, output, reaches, reply, _⟩
      exact ⟨reaches, output, reply⟩
    · rintro ⟨reaches, output, reply⟩
      exact ⟨_, output, reaches, reply, rfl⟩
  · rintro message rejected (ended | ended)
    · obtain ⟨error, unselected, _⟩ := (Progress.outcome_databaseSelect_iff fails).mp ended
      obtain ⟨_, reply, _⟩ := Router.progress_eq_unselected_iff.mp unselected
      refine ⟨[], error, ?_, reply⟩
      rw [Router.served_eq, unselected]
      simp [Progress.issued]
    · obtain ⟨selection, error, answered, _, rfl⟩ := (Progress.outcome_query_iff fails).mp ended
      obtain ⟨_, reply, rfl⟩ := Router.progress_eq_answered_iff.mp answered
      refine ⟨(operation.router.database.map before.dialect.selectDatabase).toList, error, ?_, ?_⟩
      · rw [Router.served_eq, answered]
        simp [Progress.issued]
      · rw [← reply, Router.answer]
        cases operation.router.database <;> rfl

/--
The kind of a call's error tells how far the call got: invalid input is refused before anything
is done, and otherwise the first of these decides, whether a connection was granted, whether the
database was selected on it, and whether the statement was answered. An error that holds a
statement holds the last one that was sent, and that one was answered by an error.
-/
theorem errors_tell {operation : Operation} (reads : operation.OnlyReads)
    (session : Session ScriptedPool) :
    let (result, after) := operation.call.runIn session
    operation.Tells session.pool after.pool result ∧
      (operation.IsInvalid session.pool.dialect → after = session) := by
  have runs := operation.runs_call session
  cases valid : operation.statement? session.pool.dialect with
  | none =>
      simp only [valid] at runs
      obtain ⟨message, refused⟩ := runs
      rw [refused]
      have invalid := (operation.statement?_eq_none_iff session.pool.dialect).mp valid
      exact ⟨tells_invalid invalid, fun _ => rfl⟩
  | some sql =>
      simp only [valid] at runs
      obtain ⟨log, ran⟩ := runs
      rw [ran]
      exact ⟨tells_outcome reads valid, fun invalid => absurd invalid (not_isInvalid valid)⟩

theorem errors_tell_rejected :
    let missing : DriverError := ⟨"42P01: no such table"⟩
    let pool : ScriptedPool :=
      { ScriptedPool.ofDialect .postgres with replies := [.ok (.done 0 none), .error missing] }
    let operation := Operation.firstAs User.ofRow ⟨⟨.replicas, some "shop"⟩, .ofTable "users"⟩
    let (result, after) := operation.call.runIn ⟨pool, []⟩
    operation.OnlyReads ∧
    result = .error (.query "find: 42P01: no such table" "SELECT * FROM users") ∧
    ∃ sent error, after.pool.statements = sent ++ ["SELECT * FROM users"] ∧
      pool.answer sent.length = .error error := by
  intro missing pool operation
  have reads : FailsAsRead User.ofRow :=
    (FailsAsRead.row (Reader.integer .int64) "id").bind fun id =>
      (FailsAsRead.row Reader.text "name").bind fun name =>
        FailsAsRead.read_ok fun _ => User.mk id name
  have tells := (@errors_tell operation reads ⟨pool, []⟩).1
  have ended : (operation.call.runIn ⟨pool, []⟩).1 =
      .error (.query "find: 42P01: no such table" "SELECT * FROM users") := by
    refine (tells.query _ _).mpr ⟨?_, ⟨rfl, ?_⟩, missing, rfl, ?_⟩
    · decide
    · intro database bound
      exact ⟨_, rfl⟩
    · decide
  exact ⟨reads, ended, tells.rejected _ _ (Or.inr ended)⟩

end Operation

end SqlComposer

import SqlComposer.Session.Router
import SqlComposer.Session.Scripted

/-!
How far a statement gets over a scripted pool, and what it leaves there: the groups that were
asked, the statements that were sent with the replies they took, and the connections.
-/

namespace SqlComposer

namespace Call

variable {σ α β : Type}

theorem runIn_bind (call : Call σ α) (next : α → Call σ β) (session : Session σ) :
    (call >>= next).runIn session =
      match call.runIn session with
      | (.ok value, after) => (next value).runIn after
      | (.error error, after) => (.error error, after) := by
  have unfolded : (call >>= next).runIn session =
      ExceptT.bindCont next (call.runIn session).1 (call.runIn session).2 := rfl
  rw [unfolded]
  cases call.runIn session with
  | mk result after => cases result <;> rfl

end Call

/-- How far a statement got: to no connection, to no database, or to its own reply. -/
inductive Progress where
  | refused (error : DriverError)
  | unselected (selection : String) (error : DriverError)
  | answered (selection : Option String) (reply : Except DriverError Output)

namespace Progress

def issued (sql : String) : Progress → List String
  | .refused _ => []
  | .unselected selection _ => [selection]
  | .answered selection _ => selection.toList ++ [sql]

def connections : Progress → Nat
  | .refused _ => 0
  | .unselected _ _ => 1
  | .answered _ _ => 1

def result (group : Group) (context sql : String) : Progress → Except SqlError Output
  | .refused error => .error (.connection ("connect " ++ group.name ++ ": " ++ error.message))
  | .unselected selection error => .error (.databaseSelect error.message selection)
  | .answered _ (.error error) => .error (.query (context ++ ": " ++ error.message) sql)
  | .answered _ (.ok output) => .ok output

end Progress

def ScriptedPool.answer (pool : ScriptedPool) (count : Nat) : Except DriverError Output :=
  pool.replies[count]?.getD (.ok (.done 0 none))

namespace Router

/-- The reply to the first statement, and to the second one if a database is selected first. -/
def progress (router : Router) (pool : ScriptedPool) : Progress :=
  match pool.refusal, router.database with
  | some error, _ => .refused error
  | none, none => .answered none (pool.run "").1
  | none, some database =>
    let selection := pool.dialect.selectDatabase database
    match pool.run selection with
    | (.error error, _) => .unselected selection error
    | (.ok _, pool) => .answered (some selection) (pool.run "").1

def served (router : Router) (sql : String) (pool : ScriptedPool) : ScriptedPool :=
  let asked := (pool.acquire router.group).2
  match router.progress pool with
  | .refused _ => asked
  | .unselected selection _ => (asked.run selection).2.release
  | .answered none _ => (asked.run sql).2.release
  | .answered (some selection) _ => ((asked.run selection).2.run sql).2.release

theorem runIn_execute (router : Router) (context sql : String) (session : Session ScriptedPool) :
    ∃ log, (router.execute context sql).runIn session =
      ((router.progress session.pool).result router.group context sql,
        ⟨router.served sql session.pool, log⟩) := by
  obtain ⟨⟨dialect, replies, refusal, groups, statements, acquired, released⟩, log⟩ := session
  obtain ⟨group, database⟩ := router
  cases refusal with
  | some error => exact ⟨_, rfl⟩
  | none =>
      cases database with
      | none =>
          cases replies with
          | nil => exact ⟨_, rfl⟩
          | cons reply replies => cases reply <;> exact ⟨_, rfl⟩
      | some database =>
          cases replies with
          | nil => exact ⟨_, rfl⟩
          | cons reply replies =>
              cases reply with
              | error error => exact ⟨_, rfl⟩
              | ok output =>
                  cases replies with
                  | nil => exact ⟨_, rfl⟩
                  | cons reply replies => cases reply <;> exact ⟨_, rfl⟩

theorem served_eq (router : Router) (sql : String) (pool : ScriptedPool) :
    router.served sql pool =
      { pool with
        groups := pool.groups ++ [router.group]
        statements := pool.statements ++ (router.progress pool).issued sql
        replies := pool.replies.drop ((router.progress pool).issued sql).length
        acquired := pool.acquired + (router.progress pool).connections
        released := pool.released + (router.progress pool).connections } := by
  obtain ⟨dialect, replies, refusal, groups, statements, acquired, released⟩ := pool
  obtain ⟨group, database⟩ := router
  cases refusal with
  | some error =>
      simp [served, progress, ScriptedPool.acquire, Progress.issued, Progress.connections]
  | none =>
      cases database with
      | none =>
          simp [served, progress, ScriptedPool.acquire, ScriptedPool.run, ScriptedPool.release,
            Progress.issued, Progress.connections]
      | some database =>
          cases reply : replies.head?.getD (.ok (.done 0 none)) with
          | error error =>
              simp [served, progress, ScriptedPool.acquire, ScriptedPool.run,
                ScriptedPool.release, Progress.issued, Progress.connections, reply]
          | ok output =>
              simp [served, progress, ScriptedPool.acquire, ScriptedPool.run,
                ScriptedPool.release, Progress.issued, Progress.connections, reply]
              rw [← List.drop_one, ← List.drop_one, List.drop_drop]

section Reach

variable {router : Router} {pool : ScriptedPool}

def Reaches (router : Router) (pool : ScriptedPool) : Prop :=
  pool.refusal = none ∧ ∀ database, router.database = some database →
    ∃ output, pool.answer 0 = .ok output

def answer (router : Router) (pool : ScriptedPool) : Except DriverError Output :=
  pool.answer router.database.toList.length

theorem progress_eq (router : Router) (pool : ScriptedPool) :
    router.progress pool =
      match pool.refusal, router.database with
      | some error, _ => .refused error
      | none, none => .answered none (pool.answer 0)
      | none, some database =>
        match pool.answer 0 with
        | .error error => .unselected (pool.dialect.selectDatabase database) error
        | .ok _ => .answered (some (pool.dialect.selectDatabase database)) (pool.answer 1) := by
  obtain ⟨dialect, replies, refusal, groups, statements, acquired, released⟩ := pool
  obtain ⟨group, database⟩ := router
  cases refusal with
  | some error => rfl
  | none =>
      cases database with
      | none => simp [progress, ScriptedPool.run, ScriptedPool.answer, List.head?_eq_getElem?]
      | some database =>
          cases replies with
          | nil => rfl
          | cons reply replies =>
              cases reply with
              | error error => rfl
              | ok output =>
                  simp [progress, ScriptedPool.run, ScriptedPool.answer, List.head?_eq_getElem?]

theorem progress_eq_refused_iff {error : DriverError} :
    router.progress pool = .refused error ↔ pool.refusal = some error := by
  rw [progress_eq]
  cases pool.refusal with
  | some refusal => simp
  | none =>
      cases router.database with
      | none => simp
      | some database => cases pool.answer 0 <;> simp

theorem progress_eq_unselected_iff {selection : String} {error : DriverError} :
    router.progress pool = .unselected selection error ↔
      pool.refusal = none ∧ pool.answer 0 = .error error ∧ ∃ database,
        router.database = some database ∧ selection = pool.dialect.selectDatabase database := by
  rw [progress_eq]
  cases pool.refusal with
  | some refusal => simp
  | none =>
      cases router.database with
      | none => simp
      | some database =>
          cases pool.answer 0 with
          | error reason => simp [and_comm, eq_comm]
          | ok output => simp

theorem progress_eq_answered_iff {selection : Option String}
    {reply : Except DriverError Output} :
    router.progress pool = .answered selection reply ↔
      router.Reaches pool ∧ router.answer pool = reply ∧
        selection = router.database.map pool.dialect.selectDatabase := by
  rw [progress_eq, Reaches, answer]
  cases pool.refusal with
  | some refusal => simp
  | none =>
      cases router.database with
      | none => simp [and_comm, eq_comm]
      | some database =>
          cases pool.answer 0 with
          | error reason => simp
          | ok output => simp [and_comm, eq_comm]

end Reach

theorem runIn_connect (router : Router) (session : Session ScriptedPool) :
    match router.connect.runIn session with
    | (.ok _, after) =>
      after.pool.acquired = session.pool.acquired + 1 ∧
        after.pool.released = session.pool.released
    | (.error _, after) =>
      ∃ count, after.pool.acquired = session.pool.acquired + count ∧
        after.pool.released = session.pool.released + count := by
  obtain ⟨⟨dialect, replies, refusal, groups, statements, acquired, released⟩, log⟩ := session
  obtain ⟨group, database⟩ := router
  cases refusal with
  | some error => exact ⟨0, rfl, rfl⟩
  | none =>
      cases database with
      | none => exact ⟨rfl, rfl⟩
      | some database =>
          cases replies with
          | nil => exact ⟨rfl, rfl⟩
          | cons reply replies =>
              cases reply with
              | error error => exact ⟨1, rfl, rfl⟩
              | ok output => exact ⟨rfl, rfl⟩

end Router

end SqlComposer

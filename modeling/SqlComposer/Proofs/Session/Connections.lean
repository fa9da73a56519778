import SqlComposer.Proofs.Session.Operation

/-!
The account of connections over any sequence of calls: every call that runs a statement releases
the connection it was given, and sends nothing but its own statement and the one that selects the
database.
-/

namespace SqlComposer

namespace Operation

def perform (session : Session ScriptedPool) (operation : Operation) : Session ScriptedPool :=
  (operation.call.runIn session).2

def requests (operation : Operation) (pool : ScriptedPool) : List Group :=
  if operation.IsInvalid pool.dialect then [] else [operation.router.group]

/-- The call's own statement comes last, unless the database cannot be selected. -/
def issued (operation : Operation) (pool : ScriptedPool) : List String :=
  if operation.IsInvalid pool.dialect ∨ pool.refusal.isSome then []
  else
    match operation.router.database, pool.replies.head? with
    | none, _ => (operation.statement? pool.dialect).toList
    | some database, some (.error _) => [pool.dialect.selectDatabase database]
    | some database, _ =>
      pool.dialect.selectDatabase database :: (operation.statement? pool.dialect).toList

def granted (operation : Operation) (pool : ScriptedPool) : Nat :=
  if pool.refusal.isSome then 0 else (operation.requests pool).length

structure Accounts (operation : Operation) (before after : ScriptedPool) : Prop where
  groups : after.groups = before.groups ++ operation.requests before
  acquired : after.acquired = before.acquired + operation.granted before
  released : after.released = before.released + operation.granted before
  statements : after.statements = before.statements ++ operation.issued before
  replies : after.replies = before.replies.drop (operation.issued before).length

theorem issued_and_granted {operation : Operation} {pool : ScriptedPool} {sql : String}
    (valid : operation.statement? pool.dialect = some sql) :
    operation.issued pool = (operation.router.progress pool).issued sql ∧
      operation.granted pool = (operation.router.progress pool).connections := by
  have accepted := not_isInvalid valid
  rw [issued, granted, requests, if_neg accepted, Router.progress, valid]
  cases pool.refusal with
  | some error => simp [Progress.issued, Progress.connections]
  | none =>
      rw [if_neg (by simp [accepted])]
      cases operation.router.database with
      | none => exact ⟨rfl, rfl⟩
      | some database =>
          cases replies : pool.replies with
          | nil => simp [ScriptedPool.run, Progress.issued, Progress.connections, replies]
          | cons reply rest =>
              cases reply <;>
                simp [ScriptedPool.run, Progress.issued, Progress.connections, replies]

theorem accounts_perform (operation : Operation) (session : Session ScriptedPool) :
    operation.Accounts session.pool (perform session operation).pool := by
  have runs := operation.runs_call session
  rw [perform]
  cases valid : operation.statement? session.pool.dialect with
  | none =>
      simp only [valid] at runs
      obtain ⟨message, refused⟩ := runs
      have invalid := (operation.statement?_eq_none_iff session.pool.dialect).mp valid
      have requests : operation.requests session.pool = [] := if_pos invalid
      have issued : operation.issued session.pool = [] := if_pos (.inl invalid)
      have granted : operation.granted session.pool = 0 := by simp [granted, requests]
      rw [refused]
      constructor <;> simp [requests, issued, granted]
  | some sql =>
      simp only [valid] at runs
      obtain ⟨log, ran⟩ := runs
      obtain ⟨issued, granted⟩ := issued_and_granted valid
      have requests : operation.requests session.pool = [operation.router.group] :=
        if_neg (not_isInvalid valid)
      rw [ran, Router.served_eq]
      constructor <;> simp [requests, issued, granted]

/-- Every connection that was given out is released, and every statement took one reply. -/
structure Settled (script : List (Except DriverError Output)) (pool : ScriptedPool) : Prop where
  released : pool.released = pool.acquired
  replies : pool.replies = script.drop pool.statements.length

theorem Settled.step {script : List (Except DriverError Output)} {before after : ScriptedPool}
    (settled : Settled script before) {operation : Operation}
    (accounts : operation.Accounts before after) : Settled script after := by
  constructor
  · rw [accounts.released, accounts.acquired, settled.released]
  · rw [accounts.replies, accounts.statements, settled.replies, List.drop_drop,
      List.length_append]

def performAll (session : Session ScriptedPool) (operations : List Operation) :
    Session ScriptedPool :=
  operations.foldl perform session

theorem Settled.run {script : List (Except DriverError Output)} {session : Session ScriptedPool}
    (settled : Settled script session.pool) (operations : List Operation) :
    Settled script (performAll session operations).pool := by
  induction operations generalizing session with
  | nil => exact settled
  | cons operation operations ih => exact ih (settled.step (accounts_perform operation session))

/--
Over any script, after any calls, one more call asks for one connection, of its router's own group,
or for none if its input is invalid, and releases the one it is given. It sends its statement on that connection, behind
the one that selects a bound database and only if that one succeeded, and each statement takes
one reply. A connection stays acquired only where it is handed to the caller.
-/
theorem calls_account (dialect : Dialect) (script : List (Except DriverError Output))
    (refusal : Option DriverError) (log : List Event) (earlier : List Operation) :
    let fresh := { ScriptedPool.ofDialect dialect with replies := script, refusal := refusal }
    let before := performAll ⟨fresh, log⟩ earlier
    before.pool.released = before.pool.acquired ∧
    before.pool.replies = script.drop before.pool.statements.length ∧
    (∀ operation, operation.Accounts before.pool (perform before operation).pool ∧
      (perform before operation).pool.released = (perform before operation).pool.acquired) ∧
    ∀ router : Router, match router.connect.runIn before with
      | (.ok _, after) =>
        after.pool.acquired = before.pool.acquired + 1 ∧
          after.pool.released = before.pool.released
      | (.error _, after) => after.pool.released = after.pool.acquired := by
  intro fresh before
  have start : Settled script fresh := ⟨rfl, rfl⟩
  have settled : Settled script before.pool := start.run earlier
  refine ⟨settled.released, settled.replies, ?_, ?_⟩
  · intro operation
    have accounts := accounts_perform operation before
    exact ⟨accounts, (settled.step accounts).released⟩
  · intro router
    have connected := router.runIn_connect before
    cases reached : router.connect.runIn before with
    | mk result after =>
        rw [reached] at connected
        cases result with
        | ok connection => exact connected
        | error error =>
            obtain ⟨count, acquired, released⟩ := connected
            have balanced : after.pool.released = after.pool.acquired := by
              rw [acquired, released, settled.released]
            exact balanced

end Operation

end SqlComposer

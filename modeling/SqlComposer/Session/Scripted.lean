import SqlComposer.Session.Pool

/-!
A pool in memory that answers from a script and keeps an account of what it was asked for.
-/

namespace SqlComposer

structure ScriptedPool where
  dialect : Dialect
  replies : List (Except DriverError Output)
  /-- While there is one, no connection is given out. -/
  refusal : Option DriverError
  groups : List Group
  statements : List String
  acquired : Nat
  released : Nat

namespace ScriptedPool

def ofDialect (dialect : Dialect) : ScriptedPool :=
  ⟨dialect, [], none, [], [], 0, 0⟩

def reply (pool : ScriptedPool) (answer : Except DriverError Output) : ScriptedPool :=
  { pool with replies := pool.replies ++ [answer] }

def acquire (group : Group) (pool : ScriptedPool) : Except DriverError Unit × ScriptedPool :=
  let asked := { pool with groups := pool.groups ++ [group] }
  match pool.refusal with
  | some error => (.error error, asked)
  | none => (.ok (), { asked with acquired := pool.acquired + 1 })

def run (sql : String) (pool : ScriptedPool) : Except DriverError Output × ScriptedPool :=
  (pool.replies.head?.getD (.ok (.done 0 none)),
    { pool with statements := pool.statements ++ [sql], replies := pool.replies.tail })

def release (pool : ScriptedPool) : ScriptedPool :=
  { pool with released := pool.released + 1 }

end ScriptedPool

instance : Pool ScriptedPool Unit where
  dialect pool := pool.dialect
  acquire := ScriptedPool.acquire
  run sql _ pool :=
    let (result, pool) := pool.run sql
    (result, (), pool)
  release _ pool := pool.release

end SqlComposer

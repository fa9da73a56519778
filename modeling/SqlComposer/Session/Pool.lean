import SqlComposer.Error
import SqlComposer.Literal.Dialect
import SqlComposer.Record.Row
import SqlComposer.Session.Event

/-!
Pools of connections, what a statement yields, and calls, which run statements over a pool and
write a log.
-/

namespace SqlComposer

inductive Output where
  | rows (found : List Row)
  | done (affected : UInt64) (identity : Option UInt64)
deriving DecidableEq

namespace Output

def toRows : Output → List Row
  | .rows found => found
  | .done _ _ => []

def affectedRows : Output → UInt64
  | .rows found => UInt64.ofNat found.length
  | .done affected _ => affected

def identity? : Output → Option UInt64
  | .rows _ => none
  | .done _ identity => identity

end Output

/--
A pool in a state `σ` gives out connections `κ` that are served by a group of nodes. Running a
statement gives the connection back for the next one, until it is released.
-/
class Pool (σ : Type) (κ : outParam Type) where
  dialect : σ → Dialect := fun _ => .mysql
  acquire : Group → σ → Except DriverError κ × σ
  run : String → κ → σ → Except DriverError Output × κ × σ
  release : κ → σ → σ

structure Session (σ : Type) where
  pool : σ
  log : List Event

abbrev Call (σ : Type) := ExceptT SqlError (StateM (Session σ))

namespace Call

variable {σ κ : Type}

def record (event : Event) : Call σ Unit :=
  modify fun session => { session with log := session.log ++ [event] }

def runIn {α : Type} (session : Session σ) (call : Call σ α) : Except SqlError α × Session σ :=
  (ExceptT.run call).run session

def ofExcept {ε α : Type} (error : ε → SqlError) (result : Except ε α) : Call σ α :=
  ExceptT.mk (pure (result.mapError error))

variable [Pool σ κ]

def dialect : Call σ Dialect := do
  return Pool.dialect (← get).pool

def acquire (group : Group) : Call σ (Except DriverError κ) :=
  modifyGet fun session =>
    let (result, pool) := Pool.acquire group session.pool
    (result, { session with pool := pool })

def send (sql : String) (connection : κ) : Call σ (Except DriverError Output × κ) :=
  modifyGet fun session =>
    let (result, connection, pool) := Pool.run sql connection session.pool
    ((result, connection), { session with pool := pool })

def release (connection : κ) : Call σ Unit :=
  modify fun session => { session with pool := Pool.release connection session.pool }

end Call

end SqlComposer

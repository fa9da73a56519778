import SqlComposer.Cluster.Reply
import SqlComposer.Literal.Rendering
import SqlComposer.Session.Router

/-!
A cluster of one master and any number of replicas. Connections of the replica group go to the
replicas in turn, whether or not the replica whose turn it is can be reached; without replicas
they go to the master.
-/

namespace SqlComposer

inductive Endpoint where
  | reachable
  | unreachable
  | malformed
deriving DecidableEq, Repr

inductive NodeName where
  | master
  | replica (place : Nat)
deriving DecidableEq, Repr

def NodeName.text : NodeName → String
  | .master => "master"
  | .replica place => "replica" ++ place.repr

structure Cluster where
  master : Endpoint
  replicas : List Endpoint
  /-- How often a replica was picked; it counts in a word of 64 bits. -/
  turn : UInt64
  database : Option String
  script : List (List NodeMessage)
  statements : List (NodeName × String)

structure NodeConnection where
  node : NodeName
  lost : Bool
deriving DecidableEq, Repr

namespace Cluster

def create (master : Endpoint) (replicas : List Endpoint) (connections : UInt64)
    (database : Option String) : Except SqlError (Session Cluster) :=
  if .malformed ∈ master :: replicas then .error (.connection "invalid connection string")
  else .ok {
    pool := ⟨master, replicas, 0, database, [], []⟩
    log := [.clusterCreated replicas.length connections.toNat] }

def hasReplicas (cluster : Cluster) : Bool :=
  !cluster.replicas.isEmpty

/-- The router over the replicas, if that is asked for and there are any, else the master. -/
def router (cluster : Cluster) (fromReplica : Bool) (database : Option String) : Router :=
  let group := if fromReplica && cluster.hasReplicas then Group.replicas else Group.master
  let unbound : Router := ⟨group, none⟩
  match database.or cluster.database with
  | some name => unbound.withDatabase name
  | none => unbound

def pick (group : Group) (cluster : Cluster) : NodeName × Cluster :=
  if group = .replicas ∧ cluster.hasReplicas then
    (.replica (cluster.turn.toNat % cluster.replicas.length),
      { cluster with turn := cluster.turn + 1 })
  else (.master, cluster)

def endpoint (cluster : Cluster) : NodeName → Endpoint
  | .master => cluster.master
  | .replica place => cluster.replicas[place]?.getD .unreachable

def acquire (group : Group) (cluster : Cluster) : Except DriverError NodeConnection × Cluster :=
  let (node, cluster) := cluster.pick group
  if cluster.endpoint node = .reachable then (.ok ⟨node, false⟩, cluster)
  else
    (.error ⟨"Error occurred while creating a new object: error connecting to server"⟩, cluster)

def nextReply (cluster : Cluster) : List NodeMessage :=
  cluster.script.head?.getD [.complete 0]

/-- A statement travels as text that ends at its first NUL character, so it may hold none. A lost
connection carries no more statements; it is lost once a node closes it, also after a fault. -/
def run (sql : String) (connection : NodeConnection) (cluster : Cluster) :
    Except DriverError Output × NodeConnection × Cluster :=
  if '\x00' ∈ sql.toList then (.error ⟨"error encoding message to server"⟩, connection, cluster)
  else if connection.lost then (.error ⟨ReplyFault.closed.message⟩, connection, cluster)
  else
    let reached := { cluster with
      script := cluster.script.tail
      statements := cluster.statements ++ [(connection.node, sql)] }
    let answered := { connection with lost := .closed ∈ cluster.nextReply }
    match resultMessages none cluster.nextReply with
    | .ok messages => (.ok (collectOutput messages), answered, reached)
    | .error fault => (.error ⟨fault.message⟩, answered, reached)

def escape (value : Value) : String :=
  Dialect.postgres.escape value

def outline (cluster : Cluster) : String :=
  Outline.openRecord "Cluster"
    [("replicas", cluster.replicas.length.repr),
     ("database", Outline.optional Outline.text cluster.database)]

end Cluster

instance : Pool Cluster NodeConnection where
  dialect _ := .postgres
  acquire := Cluster.acquire
  run := Cluster.run
  release _ cluster := cluster

end SqlComposer

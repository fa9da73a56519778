import SqlComposer.Error
import SqlComposer.Json.Pieces
import SqlComposer.Json.Writing

/-!
The configuration of a cluster and its JSON form.
-/

namespace SqlComposer

structure ClusterConfig where
  master : String
  replicas : List String
  connections : UInt64
  database : Option String
deriving DecidableEq, Repr

namespace ClusterConfig

def defaultConnections : UInt64 := 16

def ofMaster (master : String) : ClusterConfig :=
  ⟨master, [], defaultConnections, none⟩

def ofAddresses : List String → Except SqlError ClusterConfig
  | [] => .error (.validation "cluster needs at least one node")
  | master :: replicas => .ok { ofMaster master with replicas := replicas }

def addReplica (config : ClusterConfig) (address : String) : ClusterConfig :=
  { config with replicas := config.replicas ++ [address] }

def toJson (config : ClusterConfig) : Json :=
  .object
    [("master", .string config.master),
     ("replicas", .array (config.replicas.map Json.string)),
     ("max_size", .ofUInt64 config.connections),
     ("database", (config.database.map Json.string).getD .null)]

def textOf? : Json → Option String
  | .string s => some s
  | _ => none

def textsOf? : Json → Option (List String)
  | .array items => items.mapM textOf?
  | _ => none

def countOf? : Json → Option UInt64
  | .number (.integer n _) => if 0 ≤ n then some (UInt64.ofNat n.toNat) else none
  | _ => none

def databaseOf? : Json → Option (Option String)
  | .null => some none
  | .string s => some (some s)
  | _ => none

/-- The value of a field that may be given once, or its default. -/
def field? {α : Type} (pieces : List (String × List Char)) (name : String)
    (read : Json → Option α) (absent : Option α) : Option α :=
  match pieces.filter fun piece => piece.1 == name with
  | [] => absent
  | [piece] => (Json.parse (String.ofList piece.2)).toOption.bind read
  | _ => none

/-- Fields of an object may be given in any order. Others are passed over unread. -/
def ofMembers? (pieces : List (String × List Char)) : Option ClusterConfig := do
  return {
    master := ← field? pieces "master" textOf? none
    replicas := ← field? pieces "replicas" textsOf? (some [])
    connections := ← field? pieces "max_size" countOf? (some defaultConnections)
    database := ← field? pieces "database" databaseOf? (some none) }

/-- Items of an array are the fields in their order; those at the end may be absent. -/
def ofItems? (pieces : List (List Char)) : Option ClusterConfig := do
  let names := ["master", "replicas", "max_size", "database"]
  if names.length < pieces.length then none
  ofMembers? (names.zip pieces)

def ofText? (text : String) : Option ClusterConfig :=
  match Json.pieces? text with
  | some (.members pieces) => ofMembers? pieces
  | some (.items pieces) => ofItems? pieces
  | none => none

end ClusterConfig

end SqlComposer

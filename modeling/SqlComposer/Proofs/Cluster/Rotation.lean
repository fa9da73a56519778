import Mathlib.Data.Int.CardIntervalMod
import SqlComposer.Cluster.Routing

/-!
Which nodes connections are acquired from. The replicas take turns, one after the other, however
many connections go to the master in between and whatever else happens to the cluster.
-/

namespace SqlComposer

def rotation (size count : Nat) : List NodeName :=
  (List.range count).map fun turn => .replica (turn % size)

theorem rotation_succ (size count : Nat) :
    rotation size (count + 1) = rotation size count ++ [.replica (count % size)] := by
  rw [rotation, List.range_succ, List.map_append]
  rfl

theorem mem_rotation {size count : Nat} {node : NodeName} (positive : 0 < size)
    (member : node ∈ rotation size count) : ∃ place < size, node = .replica place := by
  obtain ⟨turn, -, rfl⟩ := List.mem_map.mp member
  exact ⟨turn % size, Nat.mod_lt turn positive, rfl⟩

theorem range'_map_mod_perm (start size : Nat) :
    ((List.range' start size).map (· % size)).Perm (List.range size) := by
  have multisets := Nat.multiset_Ico_map_mod start size
  have interval : Multiset.Ico start (start + size) = (List.range' start size : List Nat) := by
    have length : start + size - start = size := by omega
    exact congrArg (fun size => ((List.range' start size : List Nat) : Multiset Nat)) length
  rw [interval] at multisets
  exact Multiset.coe_eq_coe.mp multisets

theorem rotation_window {size count start : Nat} (within : start + size ≤ count) :
    (((rotation size count).drop start).take size).Perm
      ((List.range size).map NodeName.replica) := by
  have window : ((rotation size count).drop start).take size =
      ((List.range' start size).map (· % size)).map NodeName.replica := by
    have first : 0 + start * 1 = start := by omega
    rw [rotation, ← List.map_drop, ← List.map_take, List.range_eq_range', List.drop_range',
      List.take_range'_of_length_ge (by omega), first, List.map_map]
    rfl
  rw [window]
  exact (range'_map_mod_perm start size).map _

theorem count_rotation {size place : Nat} (count : Nat) (within : place < size) :
    (rotation size count).count (.replica place) =
      count / size + if place < count % size then 1 else 0 := by
  have counted : (rotation size count).count (.replica place) =
      count.count (· ≡ place [MOD size]) := by
    induction count with
    | zero => rfl
    | succ count ih =>
        rw [rotation_succ, List.count_append, ih, Nat.count_succ, List.count_singleton]
        simp [Nat.ModEq, Nat.mod_eq_of_lt within]
  rw [counted, Nat.count_modEq_card count (by omega), Nat.mod_eq_of_lt within]

theorem count_rotation_le {size left right : Nat} (count : Nat) (leftWithin : left < size)
    (rightWithin : right < size) :
    (rotation size count).count (.replica left) ≤
      (rotation size count).count (.replica right) + 1 := by
  rw [count_rotation count leftWithin, count_rotation count rightWithin]
  split <;> split <;> omega

namespace Cluster

/-- What may happen between two acquisitions: nodes come and go, and statements run. -/
structure KeepsRotation (before after : Cluster) : Prop where
  turn : after.turn = before.turn
  size : after.replicas.length = before.replicas.length
  database : after.database = before.database

theorem run_keepsRotation (sql : String) (connection : NodeConnection) (cluster : Cluster) :
    KeepsRotation cluster (cluster.run sql connection).2.2 := by
  rw [run]
  split
  · exact ⟨rfl, rfl, rfl⟩
  · split
    · exact ⟨rfl, rfl, rfl⟩
    · dsimp only
      split <;> exact ⟨rfl, rfl, rfl⟩

theorem acquire_pick (group : Group) (cluster : Cluster) :
    (cluster.acquire group).2 = (cluster.pick group).2 ∧
      ∀ connection, (cluster.acquire group).1 = .ok connection →
        connection.node = (cluster.pick group).1 := by
  rw [acquire]
  dsimp only
  split
  · refine ⟨rfl, ?_⟩
    intro connection acquired
    cases acquired
    rfl
  · refine ⟨rfl, ?_⟩
    intro connection acquired
    cases acquired

theorem pick_master (cluster : Cluster) : cluster.pick .master = (.master, cluster) :=
  if_neg (by simp)

theorem pick_of_replicas_eq_nil {cluster : Cluster} (alone : cluster.replicas.length = 0)
    (group : Group) : cluster.pick group = (.master, cluster) := by
  refine if_neg ?_
  rw [List.length_eq_zero_iff] at alone
  simp [hasReplicas, alone]

theorem pick_replicas {cluster : Cluster} (positive : 0 < cluster.replicas.length) :
    cluster.pick .replicas = (.replica (cluster.turn.toNat % cluster.replicas.length),
      { cluster with turn := cluster.turn + 1 }) := by
  refine if_pos ⟨rfl, ?_⟩
  have some := List.length_pos_iff.mp positive
  simp [hasReplicas, some]

/-- The connections asked for since a start, each by its group and with the node it goes to. -/
inductive Draws (start : Cluster) : List (Group × NodeName) → Cluster → Prop
  | nil : Draws start [] start
  | acquire {draws : List (Group × NodeName)} {cluster : Cluster} (group : Group) :
      Draws start draws cluster →
      Draws start (draws ++ [(group, (cluster.pick group).1)]) (cluster.acquire group).2
  | other {draws : List (Group × NodeName)} {before after : Cluster} :
      Draws start draws before → KeepsRotation before after → Draws start draws after

def turns (draws : List (Group × NodeName)) : List NodeName :=
  (draws.filter (·.1 = .replicas)).map Prod.snd

theorem turns_append_master (draws : List (Group × NodeName)) (node : NodeName) :
    turns (draws ++ [(.master, node)]) = turns draws := by
  simp [turns]

theorem turns_append_replicas (draws : List (Group × NodeName)) (node : NodeName) :
    turns (draws ++ [(.replicas, node)]) = turns draws ++ [node] := by
  simp [turns]

/-- The word that counts the turns may have overflowed, the nodes are told up to then. -/
structure Rotated (start : Cluster) (draws : List (Group × NodeName)) (cluster : Cluster) :
    Prop where
  size : cluster.replicas.length = start.replicas.length
  database : cluster.database = start.database
  master : ∀ draw ∈ draws, draw.1 = .master ∨ start.replicas.length = 0 → draw.2 = .master
  turn : 0 < start.replicas.length →
    cluster.turn.toNat = (turns draws).length % 2 ^ 64
  nodes : 0 < start.replicas.length → (turns draws).length ≤ 2 ^ 64 →
    turns draws = rotation start.replicas.length (turns draws).length

theorem Rotated.keeps {start before after : Cluster} {draws : List (Group × NodeName)}
    (rotated : Rotated start draws before) (kept : KeepsRotation before after) :
    Rotated start draws after := by
  refine ⟨?_, ?_, rotated.master, ?_, rotated.nodes⟩
  · rw [kept.size, rotated.size]
  · rw [kept.database, rotated.database]
  · intro positive
    rw [kept.turn, rotated.turn positive]

theorem Rotated.acquire_to_master {start cluster : Cluster} {draws : List (Group × NodeName)}
    (rotated : Rotated start draws cluster) {group : Group}
    (toMaster : group = .master ∨ start.replicas.length = 0) :
    Rotated start (draws ++ [(group, (cluster.pick group).1)]) (cluster.acquire group).2 := by
  have picked : cluster.pick group = (.master, cluster) := by
    rcases toMaster with rfl | alone
    · exact cluster.pick_master
    · exact pick_of_replicas_eq_nil (rotated.size.trans alone) group
  rw [(acquire_pick group cluster).1, picked]
  have unturned : 0 < start.replicas.length →
      turns (draws ++ [(group, .master)]) = turns draws := by
    intro positive
    rcases toMaster with rfl | alone
    · exact turns_append_master draws .master
    · omega
  refine ⟨rotated.size, rotated.database, ?_, ?_, ?_⟩
  · intro draw member asked
    rcases List.mem_append.mp member with earlier | last
    · exact rotated.master draw earlier asked
    · rw [List.mem_singleton.mp last]
  · intro positive
    rw [unturned positive]
    exact rotated.turn positive
  · intro positive
    rw [unturned positive]
    exact rotated.nodes positive

theorem Rotated.acquire_to_replica {start cluster : Cluster} {draws : List (Group × NodeName)}
    (rotated : Rotated start draws cluster) (positive : 0 < start.replicas.length) :
    Rotated start (draws ++ [(.replicas, (cluster.pick .replicas).1)])
      (cluster.acquire .replicas).2 := by
  have turn := rotated.turn positive
  rw [(acquire_pick .replicas cluster).1, pick_replicas (by rw [rotated.size]; exact positive)]
  refine ⟨rotated.size, rotated.database, ?_, ?_, ?_⟩
  · intro draw member asked
    rcases List.mem_append.mp member with earlier | last
    · exact rotated.master draw earlier asked
    · rw [List.mem_singleton.mp last] at asked
      rcases asked with other | alone
      · cases other
      · omega
  · intro _
    rw [turns_append_replicas, List.length_append, UInt64.toNat_add, turn, Nat.mod_add_mod]
    rfl
  · intro _ few
    -- up to here the word has not overflowed, so it is the number of the turn itself
    rw [turns_append_replicas, List.length_append, List.length_singleton] at few
    rw [Nat.mod_eq_of_lt (by omega)] at turn
    rw [turns_append_replicas, List.length_append, List.length_singleton, rotation_succ,
      ← rotated.nodes positive (by omega), turn, rotated.size]

theorem Rotated.acquire {start cluster : Cluster} {draws : List (Group × NodeName)}
    (rotated : Rotated start draws cluster) (group : Group) :
    Rotated start (draws ++ [(group, (cluster.pick group).1)]) (cluster.acquire group).2 := by
  by_cases toMaster : group = .master ∨ start.replicas.length = 0
  · exact rotated.acquire_to_master toMaster
  · cases group with
    | master => exact absurd (.inl rfl) toMaster
    | replicas => exact rotated.acquire_to_replica (by omega)

theorem Draws.rotated {start cluster : Cluster} {draws : List (Group × NodeName)}
    (fresh : start.turn = 0) (drawn : Draws start draws cluster) :
    Rotated start draws cluster := by
  induction drawn with
  | nil =>
      refine ⟨rfl, rfl, ?_, ?_, ?_⟩
      · intro draw member
        cases member
      · intro _
        rw [fresh]
        rfl
      · intro _ _
        rfl
  | acquire group _ ih => exact ih.acquire group
  | other _ kept ih => exact ih.keeps kept

theorem create_eq_ok {master : Endpoint} {replicas : List Endpoint} {connections : UInt64}
    {database : Option String} {session : Session Cluster}
    (created : create master replicas connections database = .ok session) :
    session.pool.turn = 0 ∧ session.pool.replicas = replicas ∧
      session.pool.database = database := by
  rw [create] at created
  split at created
  · cases created
  · cases created
    exact ⟨rfl, rfl, rfl⟩

theorem router_group_eq_replicas_iff (cluster : Cluster) (fromReplica : Bool)
    (database : Option String) :
    (cluster.router fromReplica database).group = .replicas ↔
      fromReplica = true ∧ 0 < cluster.replicas.length := by
  have asked : (cluster.router fromReplica database).group =
      if fromReplica && cluster.hasReplicas then .replicas else .master := by
    rw [router]
    split <;> rfl
  have some : cluster.hasReplicas = true ↔ 0 < cluster.replicas.length := by
    rw [hasReplicas, List.length_pos_iff]
    cases cluster.replicas <;> simp
  rw [asked, ← some, ← Bool.and_eq_true]
  split
  · case isTrue both => exact iff_of_true rfl both
  · case isFalse notBoth => exact iff_of_false (by simp) notBoth

theorem router_database (cluster : Cluster) (fromReplica : Bool) (database : Option String) :
    (cluster.router fromReplica database).database =
      (database.or cluster.database).bind fun name => if name.isEmpty then none else some name := by
  rw [router]
  cases database.or cluster.database with
  | none => rfl
  | some name => rfl

/--
Connections to the master leave the rotation as it is. Those to the replicas go to each in turn,
whether it can be reached or not, so that any stretch of as many turns as there are replicas
visits each of them once. Routers draw from the replicas exactly when asked to and there are any.
-/
theorem replicas_take_turns {master : Endpoint} {replicas : List Endpoint} {connections : UInt64}
    {database : Option String} {session : Session Cluster}
    (created : create master replicas connections database = .ok session)
    {draws : List (Group × NodeName)} {cluster : Cluster}
    (drawn : Draws session.pool draws cluster) (few : (turns draws).length ≤ 2 ^ 64) :
    (∀ draw ∈ draws, draw.1 = .master ∨ replicas = [] → draw.2 = .master) ∧
    (cluster.acquire .master).2 = cluster ∧
    (replicas ≠ [] →
      (∀ turn (within : turn < (turns draws).length),
        (turns draws)[turn] = .replica (turn % replicas.length)) ∧
      (∀ node ∈ turns draws, ∃ place < replicas.length, node = .replica place) ∧
      (∀ start, start + replicas.length ≤ (turns draws).length →
        (((turns draws).drop start).take replicas.length).Perm
          ((List.range replicas.length).map NodeName.replica)) ∧
      ∀ left < replicas.length, ∀ right < replicas.length,
        (turns draws).count (.replica left) ≤ (turns draws).count (.replica right) + 1) ∧
    (∀ group connection, (cluster.acquire group).1 = .ok connection →
      connection.node = (cluster.pick group).1) ∧
    ∀ fromReplica given,
      ((cluster.router fromReplica given).group = .replicas ↔
        fromReplica = true ∧ replicas ≠ []) ∧
      (cluster.router fromReplica given).database =
        (given.or database).bind fun name => if name.isEmpty then none else some name := by
  obtain ⟨fresh, sameReplicas, sameDatabase⟩ := create_eq_ok created
  have rotated := drawn.rotated fresh
  obtain ⟨size, bound, toMaster, -, nodes⟩ := rotated
  rw [sameReplicas] at size toMaster nodes
  rw [sameDatabase] at bound
  refine ⟨?_, ?_, ?_, fun group => (acquire_pick group cluster).2, ?_⟩
  · intro draw member asked
    exact toMaster draw member (asked.imp_right List.length_eq_zero_iff.mpr)
  · rw [(acquire_pick .master cluster).1, pick_master]
  · intro some
    have positive := List.length_pos_iff.mpr some
    have inTurn := nodes positive few
    refine ⟨?_, ?_, ?_, ?_⟩
    · intro turn within
      rw [List.getElem_of_eq inTurn within]
      simp [rotation]
    · intro node member
      rw [inTurn] at member
      exact mem_rotation positive member
    · intro start within
      rw [inTurn]
      exact rotation_window within
    · intro left leftWithin right rightWithin
      rw [inTurn]
      exact count_rotation_le _ leftWithin rightWithin
  · intro fromReplica given
    rw [router_group_eq_replicas_iff, router_database, size, bound, List.length_pos_iff]
    exact ⟨Iff.rfl, rfl⟩

theorem replicas_take_turns_two :
    let fresh : Session Cluster :=
      ⟨⟨.reachable, [.unreachable, .reachable], 0, some "shop", [], []⟩, [.clusterCreated 2 16]⟩
    let draws : List (Group × NodeName) :=
      [(.master, .master), (.replicas, .replica 0), (.replicas, .replica 1)]
    create .reachable [.unreachable, .reachable] 16 (some "shop") = .ok fresh ∧
      ∃ cluster, Draws fresh.pool draws cluster ∧ (turns draws).length ≤ 2 ^ 64 ∧
        (turns draws).Perm [.replica 0, .replica 1] ∧
        (cluster.router true (some "")).database = none := by
  intro fresh draws
  have created : create .reachable [.unreachable, .reachable] 16 (some "shop") = .ok fresh := rfl
  have start : Draws fresh.pool [] fresh.pool := .nil
  obtain ⟨cluster, drawn⟩ : ∃ cluster, Draws fresh.pool draws cluster :=
    ⟨_, (((start.acquire .master).other (run_keepsRotation "BEGIN" ⟨.master, false⟩ _)).acquire
      .replicas).acquire .replicas⟩
  have few : (turns draws).length ≤ 2 ^ 64 := by decide
  obtain ⟨-, -, fair, -, routers⟩ := replicas_take_turns created drawn few
  obtain ⟨-, -, window, -⟩ := fair (by decide)
  exact ⟨created, cluster, drawn, few, window 0 (by decide), (routers true (some "")).2⟩

end Cluster

end SqlComposer

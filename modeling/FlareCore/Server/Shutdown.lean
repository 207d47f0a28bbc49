import FlareCore.Server.Connection.Consistency
import FlareCore.Server.Registration

/-!
# Stopping while handshakes are still running

A server stops by closing its entrance and then going over its connections: it reads the
connection counter and is done if that is zero; else it sends CLOSE to everybody, waits for a
while, lists the connections that are left, shard by shard, and closes and removes what it has
listed.  If the time for closing runs out, it lists the connections once more and removes them.
A hybrid server does all this once for itself and once more for each of its transports.

Handshakes that were accepted before the entrance was closed go on all the while, and nothing
tells them to stop: a connection that one of them inserts behind the last look at its shard
stays (`connection_outlives_stop`).  In every run without such an insertion the table is empty
once the server has stopped (`table_empty_after_stop`).
-/

namespace FlareCore.Server

open FlareCore.Common FlareCore.Foundations

set_option autoImplicit false

/-! ## Handshakes -/

/-- Where an accepted handshake stands: in the handshake of the transport, or between the parts
of `setup_new_connection`. -/
inductive HandshakeStage where
  | upgrading
  | reserving
  | inserting
  | observing
  | finished
  deriving DecidableEq

structure Handshake where
  connectionId : String
  connection : ConnectionHandle
  stage : HandshakeStage

/-! ## Stopping -/

/-- Where `shutdown_connections_within` stands. -/
inductive ShutdownStage where
  | counting
  | gathering (shards : List (Fin shardCount)) (snapshots : List ConnectionSnapshot)
  | broadcasting (snapshots : List ConnectionSnapshot) (successful : List String)
  | waiting
  | listing (shards : List (Fin shardCount)) (found : List String)
  | closing (ids : List String)
  | relisting (shards : List (Fin shardCount)) (found : List String)
  | dropping (ids : List String)
  | stopped

def ShutdownStage.isStopped : ShutdownStage → Bool
  | .stopped => true
  | _ => false

theorem ShutdownStage.eq_stopped {stage : ShutdownStage} (stopped : stage.isStopped = true) :
    stage = .stopped := by
  cases stage <;> first | rfl | cases stopped

/-- `SHUTDOWN_CLOSE_CONCURRENCY`. -/
def shutdownCloseConcurrency : Nat := 64

section Shutdown

variable [Hashing]

/-- A server that is stopping, with the handshakes it had accepted.  `passes` is how often the
connections are gone over again after this time. -/
structure Stopping where
  manager : ConnectionManager
  handshakes : List Handshake
  passes : Nat
  stage : ShutdownStage

/-- A handshake goes on, the server goes on stopping, or a connection is removed by another
path.  `fails` makes a transport handshake fail, `expires` lets the time of a wait run out, and
`index` is which of the connections that are being closed is done first. -/
inductive StoppingMove where
  | handshake (index : Nat) (fails : Bool) (now : Instant)
  | stop (expires : Bool) (index : Nat) (now : Instant)
  | leave (connectionId : String)

/-- What a server that stops is set up with. -/
structure StoppingSetting where
  registries : Registries
  requiresAuth : Bool
  maxConnections : UInt64
  stamp : Stamp

/-- The ids that a look at one shard finds. -/
def ConnectionManager.shardIds (manager : ConnectionManager) (shard : Fin shardCount) :
    List String :=
  (manager.connections.shards shard).entries.map Sigma.fst

namespace Stopping

variable [RustText] (setting : StoppingSetting) (state : Stopping)

/-- `setup_new_connection`, behind the handshake of the transport. -/
def shake (manager : ConnectionManager) (handshake : Handshake) (fails : Bool) (now : Instant) :
    Option (ConnectionManager × HandshakeStage) :=
  match handshake.stage with
  | .upgrading => some (manager, if fails then .finished else .reserving)
  | .reserving =>
      if setting.maxConnections ≤ manager.connectionCount then some (manager, .finished)
      else some (manager.reserveConnectionSlot, .inserting)
  | .inserting =>
      if (manager.connections.get handshake.connectionId).isSome then
        some (manager.releaseConnectionSlots 1, .finished)
      else
        some (manager.insertEntry handshake.connectionId handshake.connection
          (ConnectionManager.initialInfo handshake.connectionId none setting.requiresAuth now),
          .observing)
  | .observing => some (manager, .finished)
  | .finished => none

/-- The connections have been gone over once. -/
def endPass : Stopping :=
  match state.passes with
  | 0 => { state with stage := .stopped }
  | passes + 1 => { state with passes := passes, stage := .counting }

/-- CLOSE, as it is encoded for a connection. -/
def encodeClose (snapshot : ConnectionSnapshot) : Result Wire :=
  ConnectionManager.serializeFrameForConnection setting.registries frameAllowedBeforeAuth
    snapshot.connectionId snapshot.info
    (.withSystemCommand setting.stamp .serverShutdownClose .bestEffort) none

/-- The next step of `shutdown_connections_within`. -/
def advance (expires : Bool) (index : Nat) (now : Instant) : Option Stopping :=
  match state.stage with
  | .counting =>
      some (if state.manager.connectionCount = 0 then state.endPass
        else { state with stage := .gathering (List.finRange shardCount) [] })
  | .gathering [] snapshots => some { state with stage := .broadcasting snapshots [] }
  | .gathering (shard :: shards) snapshots =>
      some { state with
        stage := .gathering shards
          (snapshots ++ (TableRead.shard shard none).snapshots state.manager) }
  | .broadcasting snapshots successful =>
      if expires then some { state with stage := .waiting }
      else
        match snapshots with
        | [] =>
            some { state with
              manager := state.manager.updateConnectionsActive successful now
              stage := .waiting }
        | snapshot :: snapshots =>
            let (manager, result) := state.manager.sendEncoded (encodeClose setting) snapshot
            some { state with
              manager := manager
              stage := .broadcasting snapshots
                (ConnectionManager.served successful snapshot.connectionId result) }
  | .waiting =>
      some (if state.manager.connectionCount = 0 ∨ expires then
          { state with stage := .listing (List.finRange shardCount) [] }
        else state)
  | .listing [] found => some { state with stage := .closing found }
  | .listing (shard :: shards) found =>
      some { state with stage := .listing shards (found ++ state.manager.shardIds shard) }
  | .closing ids =>
      if expires then some { state with stage := .relisting (List.finRange shardCount) [] }
      else if ids = [] then some state.endPass
      else if shutdownCloseConcurrency ≤ index then none
      else
        (ids[index]?).map fun id =>
          { state with
            manager := (state.manager.removeConnection id).1
            stage := .closing (ids.eraseIdx index) }
  | .relisting [] found => some { state with stage := .dropping found }
  | .relisting (shard :: shards) found =>
      some { state with stage := .relisting shards (found ++ state.manager.shardIds shard) }
  | .dropping [] => some state.endPass
  | .dropping (id :: ids) =>
      some { state with
        manager := (state.manager.removeConnection id).1
        stage := .dropping ids }
  | .stopped => none

/-- One step of anybody. -/
def step : StoppingMove → Option Stopping
  | .handshake index fails now =>
      (state.handshakes[index]?).bind fun handshake =>
        (shake setting state.manager handshake fails now).map fun result =>
          { state with
            manager := result.1
            handshakes := state.handshakes.set index { handshake with stage := result.2 } }
  | .stop expires index now => state.advance setting expires index now
  | .leave connectionId =>
      some { state with manager := (state.manager.removeConnection connectionId).1 }

end Stopping

/-- A server that stops, as a transition system. -/
def stoppingSystem [RustText] (setting : StoppingSetting) : System Stopping StoppingMove where
  step := Stopping.step setting

/-! ## What is still to be looked at -/

/-- A connection in this state of the last pass is going to be removed by it. -/
def ShutdownStage.Reaches (id : String) : ShutdownStage → Prop
  | .counting | .gathering _ _ | .broadcasting _ _ | .waiting => True
  | .listing shards found | .relisting shards found => connectionShard id ∈ shards ∨ id ∈ found
  | .closing ids | .dropping ids => id ∈ ids
  | .stopped => False

/-- The server is going to look at the connection's shard again. -/
def ShutdownStage.looksAt (id : String) : ShutdownStage → Bool
  | .counting | .gathering _ _ | .broadcasting _ _ | .waiting => true
  | .listing shards _ | .relisting shards _ => connectionShard id ∈ shards
  | .closing _ | .dropping _ | .stopped => false

/-- No handshake inserts its connection behind the last look at its shard. -/
def InsertsInTime (state : Stopping) : StoppingMove → Prop
  | .handshake index _ _ => ∀ handshake ∈ state.handshakes[index]?, handshake.stage = .inserting →
      state.passes ≠ 0 ∨ state.stage.looksAt handshake.connectionId = true
  | .stop _ _ _ | .leave _ => True

instance (state : Stopping) : DecidablePred (InsertsInTime state)
  | .handshake index _ _ => inferInstanceAs (Decidable (∀ handshake ∈ state.handshakes[index]?, _))
  | .stop _ _ _ | .leave _ => isTrue trivial

namespace Stopping

/-- The slots that handshakes have reserved and not used yet. -/
def reserved (state : Stopping) : Nat :=
  state.handshakes.countP fun handshake => handshake.stage = .inserting

/-- The counter counts the connections in the table and the reserved slots, and whatever is in
the table will be looked at. -/
structure Attends (state : Stopping) : Prop where
  counted : state.manager.connectionCount.toNat = state.manager.connections.size + state.reserved
  reaches : state.passes = 0 → ∀ id, (state.manager.connections.get id).isSome →
    state.stage.Reaches id
  last : state.stage = .stopped → state.passes = 0

end Stopping

/-! ## What happens to the table -/

/-- Nothing is put into the table, and the counter follows what is taken out. -/
structure Trims (before after : ConnectionManager) : Prop where
  connections : ∀ id, (after.connections.get id).isSome → (before.connections.get id).isSome
  counter : ∀ reserved, before.connectionCount.toNat = before.connections.size + reserved →
    after.connectionCount.toNat = after.connections.size + reserved

namespace Trims

theorem of_eq {before after : ConnectionManager}
    (connections : after.connections = before.connections)
    (count : after.connectionCount = before.connectionCount) : Trims before after where
  connections id present := by rwa [connections] at present
  counter reserved counted := by rw [count, connections, counted]

theorem trans {first second third : ConnectionManager} (earlier : Trims first second)
    (later : Trims second third) : Trims first third where
  connections id present := earlier.connections id (later.connections id present)
  counter reserved counted := later.counter reserved (earlier.counter reserved counted)

end Trims

namespace ConnectionManager

variable (manager : ConnectionManager)

theorem isSome_removeConnection_iff (id other : String) :
    ((manager.removeConnection id).1.connections.get other).isSome ↔
      other ≠ id ∧ (manager.connections.get other).isSome := by
  rw [get_removeConnection]
  split_ifs with same <;> simp [same]

theorem trims_removeConnection (id : String) : Trims manager (manager.removeConnection id).1 where
  connections other present := ((manager.isSome_removeConnection_iff id other).mp present).2
  counter reserved counted := by
    unfold removeConnection
    cases found : manager.connections.get id with
    | none => exact counted
    | some entry =>
        have count : ∀ (manager : ConnectionManager) (owner : Option DeviceOwner),
            (manager.removeOwnerConnection owner id).connectionCount = manager.connectionCount := by
          intro manager owner
          cases owner <;> rfl
        rw [count, removeOwnerConnection_connections]
        refine toNat_release ?_
        have size := size_eraseEntry found
        simp only [closeQueue_connectionCount, eraseEntry_connectionCount,
          releaseConnectionSlots_connections, closeQueue_connections, counted]
        omega

theorem trims_touch (id : String) (now : Instant) : Trims manager (manager.touch id now) := by
  unfold touch
  cases found : manager.connections.get id with
  | none => exact .of_eq rfl rfl
  | some entry =>
      refine ⟨fun other present => ?_, fun reserved counted => ?_⟩
      · simp only [writeInfo, ShardedMap.get_insert] at present
        split_ifs at present with same
        · rw [same, found, Option.isSome_some]
        · exact present
      · rw [writeInfo_connectionCount, size_writeInfo _ found, counted]

theorem trims_updateConnectionsActive (ids : List String) (now : Instant) :
    Trims manager (manager.updateConnectionsActive ids now) := by
  have touched : ∀ (ids : List String) (manager : ConnectionManager),
      Trims manager (ids.foldl (fun manager id => manager.touch id now) manager) := by
    intro ids
    induction ids with
    | nil => exact fun _ => .of_eq rfl rfl
    | cons id ids inductionHypothesis =>
        exact fun manager => (manager.trims_touch id now).trans (inductionHypothesis _)
  unfold updateConnectionsActive
  induction connectionGroups ids generalizing manager with
  | nil => exact .of_eq rfl rfl
  | cons group groups inductionHypothesis =>
      exact (touched group manager).trans (inductionHypothesis _)

theorem trims_sendEncoded (encode : ConnectionSnapshot → Result Wire)
    (snapshot : ConnectionSnapshot) : Trims manager (manager.sendEncoded encode snapshot).1 := by
  unfold sendEncoded
  split
  · exact .of_eq rfl rfl
  · unfold sendToConnectionHandle
    split
    · exact .of_eq rfl rfl
    · have closed : Trims manager (manager.closeQueue snapshot.handle) := .of_eq rfl rfl
      exact closed.trans (trims_removeConnection _ _)

/-- A zero counter means an empty table. -/
theorem get_eq_none_of_count {reserved : Nat}
    (counted : manager.connectionCount.toNat = manager.connections.size + reserved)
    (zero : manager.connectionCount = 0) (id : String) : manager.connections.get id = none := by
  have empty : manager.connections.size = 0 := by
    rw [zero, UInt64.toNat_zero] at counted
    omega
  cases found : manager.connections.get id with
  | none => rfl
  | some entry =>
      have smaller := ShardedMap.size_erase_of_get_eq_some found
      omega

/-- A look at a shard finds what is in it. -/
theorem mem_shardIds {id : String} (present : (manager.connections.get id).isSome) :
    id ∈ manager.shardIds (connectionShard id) := by
  obtain ⟨entry, found⟩ := Option.isSome_iff_exists.mp present
  exact List.mem_map.mpr ⟨⟨id, entry⟩, AList.mem_lookup_iff.mp found, rfl⟩

end ConnectionManager

/-! ## The invariant -/

namespace Stopping

variable {state next : Stopping}

/-- The stop has gone on to a stage that still reaches what is in the table. -/
theorem Attends.goOn (attends : state.Attends) (trims : Trims state.manager next.manager)
    (handshakes : next.handshakes = state.handshakes) (runs : next.stage ≠ .stopped)
    (reaches : next.passes = 0 → ∀ id, (next.manager.connections.get id).isSome →
      next.stage.Reaches id) : next.Attends where
  counted := by
    rw [reserved, handshakes]
    exact trims.counter _ attends.counted
  reaches := reaches
  last := fun stopped => absurd stopped runs

/-- If the table is empty at the end of a pass, the pass may end. -/
theorem Attends.endPass (attends : state.Attends)
    (empty : state.passes = 0 → ∀ id, state.manager.connections.get id = none) :
    state.endPass.Attends := by
  unfold Stopping.endPass
  split
  next last =>
    refine ⟨attends.counted, fun _ id present => ?_, fun _ => last⟩
    rw [empty last id] at present
    cases present
  next => exact ⟨attends.counted, fun _ _ _ => trivial, ShutdownStage.noConfusion⟩

/-- So it may if nothing is left that the pass would reach. -/
theorem Attends.endPass_of_unreached (attends : state.Attends)
    (unreached : ∀ id, ¬state.stage.Reaches id) : state.endPass.Attends := by
  refine attends.endPass fun last id => ?_
  rw [← Option.not_isSome_iff_eq_none]
  exact fun present => unreached id (attends.reaches last id present)

/-- A look at one more shard leaves nothing behind in it. -/
theorem reaches_of_look {manager : ConnectionManager} {shard : Fin shardCount}
    {shards : List (Fin shardCount)} {found : List String} {id : String}
    (present : (manager.connections.get id).isSome)
    (before : connectionShard id ∈ shard :: shards ∨ id ∈ found) :
    connectionShard id ∈ shards ∨ id ∈ found ++ manager.shardIds shard := by
  rcases before with listed | found
  · rcases List.mem_cons.mp listed with same | later
    · subst same
      exact .inr (List.mem_append_right _ (manager.mem_shardIds present))
    · exact .inl later
  · exact .inr (List.mem_append_left _ found)

variable [RustText] {setting : StoppingSetting}

/-- **A step of the stop forgets no connection.** -/
theorem Attends.advance (attends : state.Attends) {expires : Bool} {index : Nat} {now : Instant}
    (stepped : state.advance setting expires index now = some next) : next.Attends := by
  unfold Stopping.advance at stepped
  have same : Trims state.manager state.manager := .of_eq rfl rfl
  have reaches := attends.reaches
  split at stepped
  next isStage =>
    obtain rfl := Option.some.inj stepped
    split_ifs with zero
    · exact attends.endPass fun _ => state.manager.get_eq_none_of_count attends.counted zero
    · exact attends.goOn same rfl ShutdownStage.noConfusion fun _ _ _ => trivial
  next =>
    obtain rfl := Option.some.inj stepped
    exact attends.goOn same rfl ShutdownStage.noConfusion fun _ _ _ => trivial
  next =>
    obtain rfl := Option.some.inj stepped
    exact attends.goOn same rfl ShutdownStage.noConfusion fun _ _ _ => trivial
  next snapshots successful isStage =>
    split_ifs at stepped
    · obtain rfl := Option.some.inj stepped
      exact attends.goOn same rfl ShutdownStage.noConfusion fun _ _ _ => trivial
    · cases snapshots with
      | nil =>
          obtain rfl := Option.some.inj stepped
          exact attends.goOn (state.manager.trims_updateConnectionsActive _ _) rfl
            ShutdownStage.noConfusion fun _ _ _ => trivial
      | cons snapshot snapshots =>
          obtain rfl := Option.some.inj stepped
          exact attends.goOn (state.manager.trims_sendEncoded _ _) rfl ShutdownStage.noConfusion
            fun _ _ _ => trivial
  next isStage =>
    obtain rfl := Option.some.inj stepped
    split_ifs
    · exact attends.goOn same rfl ShutdownStage.noConfusion fun _ id _ => .inl (List.mem_finRange _)
    · exact attends
  next found isStage =>
    obtain rfl := Option.some.inj stepped
    rw [isStage] at reaches
    refine attends.goOn same rfl ShutdownStage.noConfusion fun last id present => ?_
    exact (reaches last id present).resolve_left List.not_mem_nil
  next shard shards found isStage =>
    obtain rfl := Option.some.inj stepped
    rw [isStage] at reaches
    exact attends.goOn same rfl ShutdownStage.noConfusion fun last id present =>
      reaches_of_look present (reaches last id present)
  next ids isStage =>
    rw [isStage] at reaches
    split_ifs at stepped with expired none late
    · obtain rfl := Option.some.inj stepped
      exact attends.goOn same rfl ShutdownStage.noConfusion fun _ id _ => .inl (List.mem_finRange _)
    · obtain rfl := Option.some.inj stepped
      refine attends.endPass_of_unreached fun id => ?_
      rw [isStage, none]
      exact List.not_mem_nil
    · obtain ⟨id, isId, rfl⟩ := Option.map_eq_some_iff.mp stepped
      have trims := state.manager.trims_removeConnection id
      refine attends.goOn trims rfl ShutdownStage.noConfusion fun last other present => ?_
      obtain ⟨kept, earlier⟩ := (state.manager.isSome_removeConnection_iff id other).mp present
      exact mem_eraseIdx_of_ne isId kept (reaches last other earlier)
  next found isStage =>
    obtain rfl := Option.some.inj stepped
    rw [isStage] at reaches
    refine attends.goOn same rfl ShutdownStage.noConfusion fun last id present => ?_
    exact (reaches last id present).resolve_left List.not_mem_nil
  next shard shards found isStage =>
    obtain rfl := Option.some.inj stepped
    rw [isStage] at reaches
    exact attends.goOn same rfl ShutdownStage.noConfusion fun last id present =>
      reaches_of_look present (reaches last id present)
  next isStage =>
    obtain rfl := Option.some.inj stepped
    refine attends.endPass_of_unreached fun id => ?_
    rw [isStage]
    exact List.not_mem_nil
  next id ids isStage =>
    obtain rfl := Option.some.inj stepped
    rw [isStage] at reaches
    have trims := state.manager.trims_removeConnection id
    refine attends.goOn trims rfl ShutdownStage.noConfusion fun last other present => ?_
    obtain ⟨kept, earlier⟩ := (state.manager.isSome_removeConnection_iff id other).mp present
    exact (List.mem_cons.mp (reaches last other earlier)).resolve_left kept
  next => cases stepped

omit [RustText] in
/-- The reserved slots after a handshake has gone on. -/
theorem reserved_set {index : Nat} {handshake : Handshake}
    (found : state.handshakes[index]? = some handshake) (manager : ConnectionManager)
    (stage : HandshakeStage) :
    reserved { state with
        manager := manager
        handshakes := state.handshakes.set index { handshake with stage := stage } } +
      (if handshake.stage = .inserting then 1 else 0) =
    state.reserved + if stage = .inserting then 1 else 0 := by
  obtain ⟨inRange, isHandshake⟩ := List.getElem?_eq_some_iff.mp found
  have member : handshake ∈ state.handshakes := isHandshake ▸ List.getElem_mem inRange
  have counted : handshake.stage = .inserting → 0 < state.reserved := by
    intro inserting
    exact List.countP_pos_iff.mpr ⟨handshake, member, decide_eq_true inserting⟩
  simp only [reserved, List.countP_set inRange, isHandshake, decide_eq_true_eq] at counted ⊢
  split_ifs with inserting
  · have some := counted inserting
    omega
  · have some := counted inserting
    omega
  · omega
  · omega

omit [Hashing] [RustText] in
theorem reaches_of_looksAt [Hashing] {stage : ShutdownStage} {id : String}
    (looks : stage.looksAt id = true) : stage.Reaches id := by
  cases stage with
  | listing shards found => exact .inl (of_decide_eq_true looks)
  | relisting shards found => exact .inl (of_decide_eq_true looks)
  | counting => trivial
  | gathering shards snapshots => trivial
  | broadcasting snapshots successful => trivial
  | waiting => trivial
  | closing ids => cases looks
  | dropping ids => cases looks
  | stopped => cases looks

/-- **A handshake that inserts in time is noticed.** -/
theorem Attends.handshake (attends : state.Attends) {index : Nat} {fails : Bool} {now : Instant}
    (inTime : InsertsInTime state (.handshake index fails now))
    (stepped : state.step setting (.handshake index fails now) = some next) : next.Attends := by
  obtain ⟨handshake, found, shaken⟩ := Option.bind_eq_some_iff.mp stepped
  obtain ⟨⟨manager, stage⟩, taken, rfl⟩ := Option.map_eq_some_iff.mp shaken
  dsimp only
  have slots := reserved_set found manager stage
  have counted := attends.counted
  unfold shake at taken
  split at taken
  next isStage =>
    have later : stage ≠ .inserting := by
      rw [← (Prod.mk.inj (Option.some.inj taken)).2]
      cases fails <;> decide
    obtain rfl := (Prod.mk.inj (Option.some.inj taken)).1
    refine ⟨?_, attends.reaches, attends.last⟩
    rw [isStage, if_neg (by decide), if_neg later] at slots
    exact counted.trans (congrArg _ slots.symm)
  next isStage =>
    split_ifs at taken with full
    · obtain ⟨rfl, rfl⟩ := Prod.mk.inj (Option.some.inj taken)
      refine ⟨?_, attends.reaches, attends.last⟩
      rw [isStage, if_neg (by decide), if_neg (by decide)] at slots
      exact counted.trans (congrArg _ slots.symm)
    · obtain ⟨rfl, rfl⟩ := Prod.mk.inj (Option.some.inj taken)
      refine ⟨?_, attends.reaches, attends.last⟩
      rw [isStage, if_neg (by decide), if_pos rfl] at slots
      have increased : state.manager.reserveConnectionSlot.connectionCount.toNat =
          state.manager.connectionCount.toNat + 1 := toNat_reserve full
      rw [increased, ConnectionManager.reserveConnectionSlot_connections, counted]
      omega
  next isStage =>
    rw [isStage, if_pos rfl] at slots
    split_ifs at taken with present
    · obtain ⟨rfl, rfl⟩ := Prod.mk.inj (Option.some.inj taken)
      refine ⟨toNat_release ?_, attends.reaches, attends.last⟩
      rw [if_neg (by decide)] at slots
      rw [counted, ConnectionManager.releaseConnectionSlots_connections]
      omega
    · obtain ⟨rfl, rfl⟩ := Prod.mk.inj (Option.some.inj taken)
      have missing := Option.not_isSome_iff_eq_none.mp present
      rw [if_neg (by decide)] at slots
      refine ⟨?_, fun last id isPresent => ?_, attends.last⟩
      · rw [ConnectionManager.insertEntry_connectionCount,
          ConnectionManager.size_insertEntry _ _ missing, counted]
        omega
      · simp only [ConnectionManager.insertEntry, ShardedMap.get_insert] at isPresent
        split_ifs at isPresent with same
        · rw [same]
          exact reaches_of_looksAt ((inTime handshake found isStage).resolve_left
            fun more => more last)
        · exact attends.reaches last id isPresent
  next isStage =>
    obtain ⟨rfl, rfl⟩ := Prod.mk.inj (Option.some.inj taken)
    refine ⟨?_, attends.reaches, attends.last⟩
    rw [isStage, if_neg (by decide), if_neg (by decide)] at slots
    exact counted.trans (congrArg _ slots.symm)
  next => cases taken

theorem Attends.step (attends : state.Attends) {move : StoppingMove}
    (inTime : InsertsInTime state move) (stepped : state.step setting move = some next) :
    next.Attends := by
  cases move with
  | handshake index fails now => exact attends.handshake inTime stepped
  | stop expires index now => exact attends.advance stepped
  | leave id =>
      obtain rfl := Option.some.inj stepped
      have trims := state.manager.trims_removeConnection id
      exact ⟨trims.counter _ attends.counted, fun last other present =>
        attends.reaches last other (trims.connections other present), attends.last⟩

end Stopping

/-- **A stopped server has no connections**, in every run in which no handshake inserts its
connection behind the last look at its shard. -/
theorem table_empty_after_stop [RustText] (setting : StoppingSetting) (writeQueueCapacity : Nat)
    (operations : List Operation) (handshakes : List Handshake) (passes : Nat)
    (accepted : ∀ handshake ∈ handshakes,
      handshake.stage = .upgrading ∨ handshake.stage = .reserving)
    {state : Stopping}
    (reached : (stoppingSystem setting).Reaches InsertsInTime
      ⟨operations.foldl Operation.perform (.new writeQueueCapacity), handshakes, passes, .counting⟩
      state)
    (stopped : state.stage = .stopped) :
    state.manager.connections.keys = [] := by
  have settled := (ConnectionManager.Settled.new writeQueueCapacity).performAll operations
  have unreserved : handshakes.countP (fun handshake => handshake.stage = .inserting) = 0 := by
    rw [List.countP_eq_zero]
    intro handshake member
    rcases accepted handshake member with stage | stage <;> rw [stage] <;> decide
  have attends : state.Attends := by
    refine System.Reaches.invariant (I := Stopping.Attends) reached
      ⟨?_, fun _ _ _ => trivial, ShutdownStage.noConfusion⟩ ?_
    · rw [Stopping.reserved, unreserved]
      exact settled.connectionCount
    · rintro before after ⟨move, inTime, stepped⟩ attends
      exact attends.step inTime stepped
  refine List.eq_nil_iff_forall_not_mem.mpr fun id member => ?_
  have reaches := attends.reaches (attends.last stopped) id (ShardedMap.mem_keys.mp member)
  rw [stopped] at reaches
  exact reaches

end Shutdown

/-! ## Concrete runs -/

section Runs

open scoped SingleShard AsciiText

/-- JSON and protobuf, and room for eight connections. -/
def plainStopping : StoppingSetting where
  registries := builtinRegistries []
  requiresAuth := false
  maxConnections := 8
  stamp := ⟨"close", 0⟩

/-- A server without connections that has accepted one handshake and begins to stop. -/
def stoppingWithHandshake : Stopping :=
  ⟨.new 8, [⟨"c", 0, .reserving⟩], 0, .counting⟩

/-- The rest of a handshake. -/
def handshakeMoves : List StoppingMove :=
  List.replicate 3 (.handshake 0 false 0)

/-- A stop with one connection to close, which does not leave by itself. -/
def stopMoves : List StoppingMove :=
  List.replicate 68 (.stop false 0 0) ++ .stop true 0 0 :: List.replicate 67 (.stop false 0 0)

/-- The server has stopped and the handshakes are done. -/
def isOver (state : Stopping) : Bool :=
  state.stage.isStopped && state.handshakes.all fun handshake => handshake.stage = .finished

theorem finished_of_isOver {state : Stopping} (ended : isOver state = true) :
    state.stage = .stopped ∧ ∀ handshake ∈ state.handshakes, handshake.stage = .finished := by
  rw [isOver, Bool.and_eq_true, List.all_eq_true] at ended
  exact ⟨ShutdownStage.eq_stopped ended.1, fun handshake member =>
    of_decide_eq_true (ended.2 handshake member)⟩

/-- The handshake is done before the connections are counted: the theorem applies. -/
theorem table_empty_after_stop_handshake_first :
    ∃ state, (stoppingSystem plainStopping).Reaches InsertsInTime stoppingWithHandshake state ∧
      state.stage = .stopped ∧ (∀ handshake ∈ state.handshakes, handshake.stage = .finished) ∧
      state.manager.connections.keys = [] := by
  have run : ((stoppingSystem plainStopping).run stoppingWithHandshake
      (handshakeMoves ++ stopMoves)).any isOver = true := by
    decide +kernel
  have permitted : (stoppingSystem plainStopping).Permits InsertsInTime stoppingWithHandshake
      (handshakeMoves ++ stopMoves) := by
    decide +kernel
  obtain ⟨state, reached, ended⟩ := System.exists_reaches_of_run run permitted
  obtain ⟨stopped, finished⟩ := finished_of_isOver ended
  exact ⟨state, reached, stopped, finished,
    table_empty_after_stop plainStopping 8 [] [⟨"c", 0, .reserving⟩] 0 (by simp) reached stopped⟩

/-- **The handshake inserts its connection when the server has seen that there is none**, and
the connection is still there when both are done. -/
theorem connection_outlives_stop :
    ∃ state, (stoppingSystem plainStopping).Reaches System.always stoppingWithHandshake state ∧
      state.stage = .stopped ∧ (∀ handshake ∈ state.handshakes, handshake.stage = .finished) ∧
      state.manager.connections.keys = ["c"] := by
  have run : ((stoppingSystem plainStopping).run stoppingWithHandshake
      (.stop false 0 0 :: handshakeMoves)).any
      (fun state => isOver state && decide (state.manager.connections.keys = ["c"])) = true := by
    decide +kernel
  obtain ⟨state, reached, holds⟩ := System.exists_reaches_of_run run (System.permits_always _ _)
  rw [Bool.and_eq_true, decide_eq_true_eq] at holds
  obtain ⟨stopped, finished⟩ := finished_of_isOver holds.1
  exact ⟨state, reached, stopped, finished, holds.2⟩

end Runs

end FlareCore.Server

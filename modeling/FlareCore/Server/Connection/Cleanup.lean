import FlareCore.Server.Connection.Slots

/-!
# Removal of timed-out connections

A cleanup scans the table shard by shard for connections that have timed out, closes them
in the version of the trait, and then removes what it found by id.  The second pass does
not look at the last activity again.  A connection that a reader refreshes after the scan,
or one that was created under the same id, is removed all the same
(`cleanup_evicts_refreshed_connection`).

In a run in which no connection is refreshed or created under an id that some cleanup has
found and not yet removed, every connection that a cleanup removes is timed out at that
moment (`cleanup_evicts_only_timedOut`): time alone does not bring a connection back.
-/

namespace FlareCore.Server

open FlareCore.Common FlareCore.Foundations

set_option autoImplicit false

section Cleanup

variable [Hashing]

/-! ## Found and not yet removed -/

/-- The next section of a task inserts an entry under this id. -/
def Task.inserts (connectionId : String) : Task → Bool
  | .addInsert call => call.connectionId = connectionId
  | _ => false

/-- The next section of a task gives the entry of an id a new time of activity: it inserts
one where there is none, or refreshes the one there is. -/
def Task.refreshes (manager : ConnectionManager) (connectionId : String) (task : Task) : Bool :=
  match manager.connections.get connectionId with
  | none => task.inserts connectionId
  | some _ => connectionId ∈ task.touches

/-- No step refreshes or inserts an entry under an id that a cleanup has found. -/
def SparesCondemned (pool : Pool Shared Task) : Move Call Bool Happening → Prop
  | .advance index _ => ∀ task ∈ pool.tasks[index]?, ∀ cleanup ∈ pool.tasks,
      ∀ condemned ∈ cleanup.condemned, ∀ id ∈ condemned.2,
        task.refreshes pool.memory.manager id = false
  | .call _ | .environment _ => True

instance decidableSparesCondemned (pool : Pool Shared Task) :
    ∀ move, Decidable (SparesCondemned pool move)
  | .advance index _ => inferInstanceAs (Decidable (∀ task ∈ pool.tasks[index]?,
      ∀ cleanup ∈ pool.tasks, ∀ condemned ∈ cleanup.condemned, ∀ id ∈ condemned.2,
        task.refreshes pool.memory.manager id = false))
  | .call _ | .environment _ => isTrue trivial

/-- Every connection that the next step of a cleanup removes has timed out. -/
def EvictsOnlyTimedOut (pool : Pool Shared Task) : Prop :=
  ∀ (index : Nat) (choice : Bool) (next : Pool Shared Task) (cleanup : Task) (timeout : Instant)
    (found : List String), pool.tasks[index]? = some cleanup →
    cleanup.condemned = some (timeout, found) →
    managerMachine.step pool (.advance index choice) = some next →
    ∀ (id : String) (entry : ConnectionEntry), pool.memory.manager.connections.get id = some entry →
      next.memory.manager.connections.get id = none →
      entry.info.isTimeout timeout pool.memory.clock = true

/-! ## One step -/

namespace ConnectionInfo

omit [Hashing] in
theorem isTimeout_congr {first second : ConnectionInfo} (same : first.lastActive = second.lastActive)
    (timeout now : Instant) : first.isTimeout timeout now = second.isTimeout timeout now := by
  rw [isTimeout, isTimeout, same]

omit [Hashing] in
/-- Time does not bring a connection back. -/
theorem isTimeout_later {info : ConnectionInfo} {timeout now : Instant} (duration : Instant)
    (timedOut : info.isTimeout timeout now = true) : info.isTimeout timeout (now + duration) = true := by
  have before := of_decide_eq_true timedOut
  refine decide_eq_true (Nat.lt_of_lt_of_le before ?_)
  exact Nat.sub_le_sub_right (Nat.le_add_right now duration) _

end ConnectionInfo

omit [Hashing] in
/-- No update but a refresh changes the last activity. -/
theorem InfoUpdate.lastActive_apply (update : InfoUpdate) (now : Instant) (info : ConnectionInfo) :
    (update.apply now info).lastActive = info.lastActive := by
  cases update <;> rfl

variable {shared shared' : Shared} {others : List Task} {task task' : Task}

/-- A step leaves the last activity of an entry alone, unless it inserts or refreshes it. -/
theorem Action.lastActive (action : Action shared others task shared' task') {id : String}
    {entry' : ConnectionEntry} (found : shared'.manager.connections.get id = some entry') :
    task.refreshes shared.manager id = true ∨
      ∃ entry, shared.manager.connections.get id = some entry ∧
        entry'.info.lastActive = entry.info.lastActive := by
  cases action with
  | refresh group now _ _ touches =>
      by_cases touched : id ∈ group
      · left
        obtain ⟨old, present, -⟩ := ConnectionManager.connection_touchGroup found
        simp only [Task.refreshes, present, touches, touched, decide_true]
      · have kept := (shared.manager.touchGroup_books group now).2.2.1 id touched
        exact Or.inr ⟨entry', kept.symm.trans found, rfl⟩
  | enqueue _ connections => exact Or.inr ⟨entry', connections ▸ found, rfl⟩
  | insert call _ missing =>
      simp only [Shared.with_manager, ConnectionManager.insertEntry, ShardedMap.get_insert] at found
      split_ifs at found with same
      · left
        subst same
        simp only [Task.refreshes, missing, Task.inserts, decide_true]
      · exact Or.inr ⟨entry', found, rfl⟩
  | take taken | registryTake taken =>
      simp only [Shared.with_manager, ConnectionManager.closeQueue_connections,
        ConnectionManager.eraseEntry, ShardedMap.get_erase] at found
      split_ifs at found
      exact Or.inr ⟨entry', found, rfl⟩
  | batchTake => exact Or.inr ⟨entry', ConnectionManager.get_takeEntries found, rfl⟩
  | write written update old _ present =>
      simp only [Shared.with_manager, ConnectionManager.writeInfo, ShardedMap.get_insert] at found
      split_ifs at found with same
      · obtain rfl := Option.some.inj found
        exact Or.inr ⟨old, same ▸ present, update.lastActive_apply _ _⟩
      · exact Or.inr ⟨entry', found, rfl⟩
  | _ => exact Or.inr ⟨entry', found, rfl⟩

theorem Action.clock (action : Action shared others task shared' task') :
    shared'.clock = shared.clock := by
  cases action with
  | enqueue _ _ _ _ _ clock => exact clock
  | _ => rfl

/-- Findings come from the scan only. -/
theorem Action.scans (action : Action shared others task shared' task') :
    Scans shared task task' := by
  have other : task'.condemned = none → Scans shared task task' := by
    intro none timeout found condemned
    rw [none] at condemned
    cases condemned
  cases action with
  | idle light | refresh _ _ _ light | enqueue light => exact light.scans
  | insert call =>
      refine other ?_
      cases (call.info shared.clock).owner <;> rfl
  | release id owner resume => cases owner <;> cases resume <;> exact other rfl
  | unlist id owner resume => cases resume <;> exact other rfl
  | registryRelease id owner => cases owner <;> exact other rfl
  | batchTake timeout group groups removed =>
      cases timeout with
      | none => exact other rfl
      | some timeout =>
          exact scans_of_subset rfl rfl fun _ member => List.mem_append_right group member
  | write id update entry =>
      refine other ?_
      unfold afterUpdate
      split <;> rfl
  | reindexUnlist id before after => cases after <;> exact other rfl
  | _ => exact other rfl

omit [Hashing] in
theorem Task.touches_of_condemned {timeout : Instant} {found : List String}
    (condemned : task.condemned = some (timeout, found)) : task.touches = [] := by
  cases task with
  | cleanupScan | cleanupClose | batchTake => rfl
  | _ => cases condemned

/-- A cleanup refreshes nothing. -/
theorem Task.refreshes_of_condemned {timeout : Instant} {found : List String}
    (condemned : task.condemned = some (timeout, found)) (manager : ConnectionManager)
    (id : String) : task.refreshes manager id = false := by
  unfold Task.refreshes
  split
  · cases task with
    | addInsert => cases condemned
    | _ => rfl
  · rw [Task.touches_of_condemned condemned]
    exact decide_eq_false List.not_mem_nil

/-! ## Runs -/

/-- What a cleanup has found and not yet removed has timed out, if it is still there. -/
def CondemnedTimedOut (pool : Pool Shared Task) : Prop :=
  ∀ task ∈ pool.tasks, ∀ timeout found, task.condemned = some (timeout, found) →
    ∀ id ∈ found, ∀ entry, pool.memory.manager.connections.get id = some entry →
      entry.info.isTimeout timeout pool.memory.clock = true

variable {before after : Pool Shared Task}

/-- A call starts without findings. -/
theorem condemned_startCall {number : Nat} {call : Call} {timeout : Instant} {found : List String}
    (condemned : (startCall number call).condemned = some (timeout, found)) : found = [] := by
  cases call with
  | cleanupTimeoutConnections => exact (Prod.mk.inj (Option.some.inj condemned)).2.symm
  | _ => cases condemned

theorem CondemnedTimedOut.step (step : managerMachine.Allowed SparesCondemned before after)
    (timedOut : CondemnedTimedOut before) : CondemnedTimedOut after := by
  refine Machine.step_preserves ?_ ?_ ?_ step timedOut
  · intro memory tasks call _ timedOut task member timeout found condemned id isFound entry present
    rcases List.mem_append.mp member with old | new
    · exact timedOut task old timeout found condemned id isFound entry present
    · obtain rfl := List.mem_singleton.mp new
      rw [condemned_startCall condemned] at isFound
      cases isFound
  · intro memory earlier task later choice memory' task' spares timedOut moved
    have action := action_of_advance moved
    intro cleanup member timeout found condemned id isFound entry' present
    rw [action.clock]
    rcases mem_append_cons.mp member with rfl | old
    · -- the moving task: old findings are as before, new ones have just been looked at
      obtain ⟨found', condemned', findings⟩ := action.scans timeout found condemned
      rcases action.lastActive present with refreshed | ⟨entry, was, same⟩
      · rw [Task.refreshes_of_condemned condemned'] at refreshed
        cases refreshed
      · rw [ConnectionInfo.isTimeout_congr same]
        rcases findings id isFound with earlierFinding | scanned
        · exact timedOut task (mem_append_cons.mpr (Or.inl rfl)) timeout found' condemned' id
            earlierFinding entry was
        · exact scanned entry was
    · have member' := mem_append_cons.mpr (Or.inr old : cleanup = task ∨ _)
      rcases action.lastActive present with refreshed | ⟨entry, was, same⟩
      · have spared := spares task (getElem?_append_cons_self ..) cleanup member' (timeout, found)
          condemned id isFound
        rw [spared] at refreshed
        cases refreshed
      · rw [ConnectionInfo.isTimeout_congr same]
        exact timedOut cleanup member' timeout found condemned id isFound entry was
  · intro memory tasks event _ timedOut task member timeout found condemned id isFound entry present
    cases event with
    | tick duration =>
        exact ConnectionInfo.isTimeout_later duration
          (timedOut task member timeout found condemned id isFound entry present)
    | writerFails handle =>
        exact timedOut task member timeout found condemned id isFound entry present

/-- What the next step of a cleanup removes is among its findings. -/
theorem Action.evicts (action : Action shared others task shared' task') {timeout : Instant}
    {found : List String} (condemned : task.condemned = some (timeout, found)) {id : String}
    {entry : ConnectionEntry} (present : shared.manager.connections.get id = some entry)
    (gone : shared'.manager.connections.get id = none) : id ∈ found := by
  have kept : shared'.manager.connections = shared.manager.connections → id ∈ found := by
    intro same
    rw [same, present] at gone
    cases gone
  cases action with
  | idle | batchRelease => exact kept rfl
  | refresh group now _ _ touches =>
      obtain rfl := touches.symm.trans (Task.touches_of_condemned condemned)
      exact kept rfl
  | enqueue _ connections => exact kept connections
  | batchTake timeout' group groups removed =>
      cases timeout' with
      | none => cases condemned
      | some timeout' =>
          obtain ⟨-, rfl⟩ := Prod.mk.inj (Option.some.inj condemned)
          by_contra absent
          have outside : id ∉ group := fun member => absent (List.mem_append_left _ member)
          rw [Shared.with_manager, ConnectionManager.get_takeEntries_of_not_mem outside,
            present] at gone
          cases gone
  | _ => cases condemned

/-- **A cleanup evicts timed-out connections only**, in every run in which no step refreshes
or inserts an entry under an id that a cleanup has found and not yet removed. -/
theorem cleanup_evicts_only_timedOut {writeQueueCapacity : Nat} {clock : Instant}
    {pool : Pool Shared Task}
    (reached : managerMachine.Reaches SparesCondemned (initialPool writeQueueCapacity clock) pool) :
    EvictsOnlyTimedOut pool := by
  have timedOut : CondemnedTimedOut pool := by
    refine System.Reaches.invariant reached ?_ CondemnedTimedOut.step
    intro task member
    cases member
  intro index choice next cleanup timeout found placed condemned step id entry present gone
  obtain ⟨memory, tasks⟩ := pool
  rcases Machine.step_cases step with ⟨call, other, -⟩ |
    ⟨choice', earlier, task, later, memory', task', same, rfl, moved, rfl⟩ | ⟨event, other, -⟩
  · cases other
  · obtain ⟨rfl, -⟩ := Move.advance.inj same
    rw [getElem?_append_cons_self] at placed
    obtain rfl := Option.some.inj placed
    have isFound := (action_of_advance moved).evicts condemned present gone
    exact timedOut task (mem_append_cons.mpr (Or.inl rfl)) timeout found condemned id isFound entry
      present
  · cases other

end Cleanup

/-! ## Concrete runs -/

section Run

open scoped SingleShard

/-- A connection times out, and a cleanup scans all shards; then comes `rest`. -/
def scanMoves (rest : List (Move Call Bool Happening)) : List (Move Call Bool Happening) :=
  [.call (.addConnectionWithLimit "c" none false 10), .advance 0 false, .advance 0 false,
    .advance 0 false, .environment (.tick 10), .call (.cleanupTimeoutConnections 5 false)] ++
    List.replicate (shardCount + 1) (.advance 1 false) ++ rest

/-- The cleanup is about to remove the connection `c`, which has timed out or not. -/
def AboutToEvict (timedOut : Bool) (pool : Pool Shared Task) : Prop :=
  pool.tasks[1]?.bind Task.condemned = some (5, ["c"]) ∧
    ((pool.memory.manager.connections.get "c").map fun entry =>
      entry.info.isTimeout 5 pool.memory.clock) = some timedOut ∧
    ((managerMachine.step pool (.advance 1 false)).map fun next =>
      (next.memory.manager.connections.get "c").isNone) = some true

instance (timedOut : Bool) (pool : Pool Shared Task) : Decidable (AboutToEvict timedOut pool) :=
  inferInstanceAs (Decidable (_ ∧ _ ∧ _))

theorem cleanup_evicts_only_timedOut_scanned :
    ∃ pool, managerMachine.Reaches SparesCondemned (initialPool 8 0) pool ∧
      AboutToEvict true pool ∧ EvictsOnlyTimedOut pool := by
  have evaluated : ((managerMachine.run (initialPool 8 0) (scanMoves [])).any fun pool =>
      decide (AboutToEvict true pool)) = true := by
    decide +kernel
  obtain ⟨pool, reached, outcome⟩ := System.exists_reaches_of_run evaluated
    (by decide +kernel : managerMachine.Permits SparesCondemned (initialPool 8 0) _)
  exact ⟨pool, reached, of_decide_eq_true outcome, cleanup_evicts_only_timedOut reached⟩

/-- A connection that was refreshed after the scan is removed. -/
theorem cleanup_evicts_refreshed_connection :
    ¬∀ pool, managerMachine.Reaches System.always (initialPool 8 0) pool →
      EvictsOnlyTimedOut pool := by
  intro claimed
  have evaluated : ((managerMachine.run (initialPool 8 0) (scanMoves
      [.call (.updateConnectionActive "c"), .advance 2 false])).any fun pool =>
      decide (AboutToEvict false pool)) = true := by
    decide +kernel
  obtain ⟨pool, reached, outcome⟩ :=
    System.exists_reaches_of_run evaluated (System.permits_always _ _)
  obtain ⟨isCleanup, refreshed, evicts⟩ := of_decide_eq_true outcome
  obtain ⟨cleanup, placed, condemned⟩ := Option.bind_eq_some_iff.mp isCleanup
  obtain ⟨entry, present, active⟩ := Option.map_eq_some_iff.mp refreshed
  obtain ⟨next, step, gone⟩ := Option.map_eq_some_iff.mp evicts
  have timedOut := claimed pool reached 1 false next cleanup 5 ["c"] placed condemned step "c" entry
    present (Option.isNone_iff_eq_none.mp gone)
  rw [active] at timedOut
  cases timedOut

end Run

end FlareCore.Server

import FlareCore.Server.Connection.Actions

/-!
# Connection slots

A slot is reserved by a compare-exchange loop before the entry is inserted, given back
when the insertion is refused, and freed after an entry has left the table.  Between
these moments the counter and the table differ, by exactly the slots that calls in
progress have reserved or not yet released; `slots_accounted` says so for every
interleaving of any calls, together with the bound on the table and the fate of rejected
adds.

An add is told apart from every other by its connection object, which in the model is
the number of the call.  That a rejected add left no entry behind means that no entry of
the table holds its connection.
-/

namespace FlareCore.Server

open FlareCore.Common FlareCore.Foundations

set_option autoImplicit false

/-! ## Slots of a task -/

section Weights

/-- Slots a task has reserved or not yet released. -/
def Task.slots (task : Task) : Nat :=
  task.reserved + task.unreleased

theorem slots_afterInsert (call : AddCall) (owner : Option DeviceOwner) :
    (afterInsert call owner).slots = 0 := by
  cases owner <;> rfl

theorem slots_afterRelease (id : String) (owner : Option DeviceOwner)
    (resume : Option UserSend) : (afterRelease id owner resume).slots = 0 := by
  cases owner <;> cases resume <;> rfl

theorem slots_afterRegistryRelease (id : String) (owner : Option DeviceOwner) :
    (afterRegistryRelease id owner).slots = 0 := by
  cases owner <;> rfl

theorem slots_afterRemoval (resume : Option UserSend) (result : Result Unit) :
    (afterRemoval resume result).slots = 0 := by
  cases resume <;> rfl

theorem slots_afterUpdate (id : String) (before after : Option DeviceOwner) :
    (afterUpdate id before after).slots = 0 := by
  unfold afterUpdate
  split <;> rfl

theorem slots_afterUnlisting (id : String) (after : Option DeviceOwner) :
    (afterUnlisting id after).slots = 0 := by
  cases after <;> rfl

end Weights

section Slots

variable [Hashing]

variable {shared shared' : Shared} {others : List Task} {task task' : Task}

theorem Task.Light.slots (light : task.Light) : task.slots = 0 := by
  rw [Task.slots, light.reserved, light.unreleased]

/-! ## One step -/

/-- The counter stays ahead of the table by the slots of the moving task and those of
the others. -/
theorem Action.slots (action : Action shared others task shared' task') (pending : Nat)
    (counted : shared.manager.connectionCount.toNat =
      shared.manager.connections.size + (task.slots + pending)) :
    shared'.manager.connectionCount.toNat =
      shared'.manager.connections.size + (task'.slots + pending) := by
  cases action with
  | idle light =>
      rw [light.before.slots] at counted
      rw [light.after.slots]
      exact counted
  | refresh group now _ light =>
      obtain ⟨-, size, -, -, -, connectionCount⟩ := shared.manager.touchGroup_books group now
      rw [light.before.slots] at counted
      simp only [Shared.with_manager, light.after.slots, connectionCount, size]
      exact counted
  | enqueue light connections _ connectionCount =>
      rw [light.before.slots] at counted
      rw [light.after.slots, connections, connectionCount]
      exact counted
  | exchange call below =>
      have reserved := toNat_reserve below
      simp only [Shared.with_manager, ConnectionManager.reserveConnectionSlot, Task.slots,
        Task.reserved, Task.unreleased] at counted ⊢
      omega
  | duplicate call => exact counted
  | insert call _ missing =>
      have size := ConnectionManager.size_insertEntry call.connection (call.info shared.clock) missing
      rw [slots_afterInsert]
      simp only [Shared.with_manager, size, Task.slots, Task.reserved, Task.unreleased] at counted ⊢
      exact counted.trans (by omega)
  | giveBack call =>
      refine toNat_release (counted.trans ?_)
      simp only [Shared.with_manager, ConnectionManager.releaseConnectionSlots_connections,
        Task.slots, Task.reserved, Task.unreleased]
      omega
  | list call owner => exact counted
  | take id resume entry _ found =>
      have size := ConnectionManager.size_eraseEntry found
      simp only [Shared.with_manager, ConnectionManager.closeQueue, Task.slots, Task.reserved,
        Task.unreleased] at counted ⊢
      exact counted.trans (by omega)
  | release id owner resume =>
      rw [slots_afterRelease]
      refine toNat_release (counted.trans ?_)
      simp only [Shared.with_manager, ConnectionManager.releaseConnectionSlots_connections,
        Task.slots, Task.reserved, Task.unreleased]
      omega
  | unlist id owner resume =>
      rw [slots_afterRemoval]
      exact counted
  | registryTake id entry _ found =>
      have size := ConnectionManager.size_eraseEntry found
      simp only [Shared.with_manager, Task.slots, Task.reserved, Task.unreleased] at counted ⊢
      exact counted.trans (by omega)
  | registryRelease id owner =>
      rw [slots_afterRegistryRelease]
      refine toNat_release (counted.trans ?_)
      simp only [Shared.with_manager, ConnectionManager.releaseConnectionSlots_connections,
        Task.slots, Task.reserved, Task.unreleased]
      omega
  | registryUnlist id owner => exact counted
  | batchTake timeout group groups removed _ =>
      obtain ⟨-, -, connectionCount⟩ :=
        ConnectionManager.takeEntries_frame shared.manager removed group
      have size := ConnectionManager.size_takeEntries shared.manager removed group
      simp only [Shared.with_manager, Task.slots, Task.reserved, Task.unreleased] at counted ⊢
      rw [connectionCount, counted]
      omega
  | batchRelease timeout removed =>
      refine toNat_release (counted.trans ?_)
      simp only [Shared.with_manager, ConnectionManager.releaseConnectionSlots_connections,
        Task.slots, Task.reserved, Task.unreleased]
      omega
  | batchUnlist group groups emptied ids => exact counted
  | batchCount emptied ids => exact counted
  | write id update entry _ found =>
      have size := ConnectionManager.size_writeInfo (update.apply shared.clock entry.info) found
      rw [slots_afterUpdate]
      exact counted.trans (congrArg (· + _) size.symm)
  | reindexUnlist id before after =>
      rw [slots_afterUnlisting]
      exact counted
  | reindexList id owed after => cases owed <;> exact counted

/-- What a step does to the counter. -/
theorem Action.connectionCount (action : Action shared others task shared' task') :
    shared'.manager.connectionCount = shared.manager.connectionCount ∨
    (∃ slots, slots ≤ task.slots ∧
      shared'.manager.connectionCount = shared.manager.connectionCount - UInt64.ofNat slots) ∨
    (∃ call, task.addState = some (call, false) ∧
      ¬call.maxConnections ≤ shared.manager.connectionCount ∧
      shared'.manager.connectionCount = shared.manager.connectionCount + 1) := by
  cases action with
  | refresh group now =>
      exact Or.inl (shared.manager.touchGroup_books group now).2.2.2.2.2
  | enqueue _ _ _ connectionCount => exact Or.inl connectionCount
  | exchange call below => exact Or.inr (Or.inr ⟨call, rfl, below, rfl⟩)
  | giveBack | release | registryRelease => exact Or.inr (Or.inl ⟨1, Nat.le_refl 1, rfl⟩)
  | batchTake _ group _ removed =>
      exact Or.inl (ConnectionManager.takeEntries_frame shared.manager removed group).2.2
  | batchRelease _ removed =>
      exact Or.inr (Or.inl ⟨removed.ids.length, Nat.le_add_left _ _, rfl⟩)
  | _ => exact Or.inl rfl

/-- The counter grows only by the exchange of an add that saw it below its limit. -/
theorem Action.connectionCount_le (action : Action shared others task shared' task')
    {maxConnections : UInt64} (covered : task.slots ≤ shared.manager.connectionCount.toNat)
    (limited : shared.manager.connectionCount ≤ maxConnections)
    (limits : ∀ call, task.addState = some (call, false) → call.maxConnections = maxConnections) :
    shared'.manager.connectionCount ≤ maxConnections := by
  rcases action.connectionCount with same | ⟨slots, bound, released⟩ | ⟨call, adds, below, reserved⟩
  · rwa [same]
  · have remaining : (shared.manager.connectionCount - UInt64.ofNat slots).toNat =
        shared.manager.connectionCount.toNat - slots := toNat_release (by omega)
    rw [UInt64.le_iff_toNat_le] at limited ⊢
    rw [released, remaining]
    omega
  · have next := toNat_reserve below
    rw [limits call adds, UInt64.le_iff_toNat_le] at below
    rw [UInt64.le_iff_toNat_le, reserved, next]
    omega

/-! ## Which add an entry belongs to -/

/-- An add keeps its arguments, and its entry enters the table at most once. -/
theorem Action.addState (action : Action shared others task shared' task') :
    task'.addState = task.addState ∨
    ∃ call, task.addState = some (call, false) ∧ task'.addState = some (call, true) := by
  cases action with
  | idle light | refresh _ _ _ light | enqueue light => exact Or.inl light.sameAdd
  | insert call =>
      refine Or.inr ⟨call, rfl, ?_⟩
      cases (call.info shared.clock).owner <;> rfl
  | release id owner resume => cases owner <;> cases resume <;> exact Or.inl rfl
  | unlist id owner resume => cases resume <;> exact Or.inl rfl
  | registryRelease id owner => cases owner <;> exact Or.inl rfl
  | write id update entry =>
      left
      unfold afterUpdate
      split <;> rfl
  | reindexUnlist id before after => cases after <;> exact Or.inl rfl
  | _ => exact Or.inl rfl

namespace ConnectionManager

theorem get_takeEntries {manager : ConnectionManager} {removed : Removed} {ids : List String}
    {id : String} {entry : ConnectionEntry}
    (found : (takeEntries manager removed ids).1.connections.get id = some entry) :
    manager.connections.get id = some entry := by
  induction ids generalizing manager removed with
  | nil => exact found
  | cons head ids inductionHypothesis =>
      cases present : manager.connections.get head with
      | none =>
          rw [takeEntries_cons_of_none present] at found
          exact inductionHypothesis found
      | some taken =>
          rw [takeEntries_cons_of_some present] at found
          have remained := inductionHypothesis found
          simp only [closeQueue_connections, eraseEntry, ShardedMap.get_erase] at remained
          split_ifs at remained
          exact remained

theorem connection_touch {manager : ConnectionManager} {connectionId : String} {now : Instant}
    {id : String} {entry : ConnectionEntry}
    (found : (manager.touch connectionId now).connections.get id = some entry) :
    ∃ old, manager.connections.get id = some old ∧ old.connection = entry.connection := by
  unfold touch at found
  cases present : manager.connections.get connectionId with
  | none =>
      simp only [present] at found
      exact ⟨entry, found, rfl⟩
  | some old =>
      simp only [present, writeInfo, ShardedMap.get_insert] at found
      split_ifs at found with same
      · obtain rfl := Option.some.inj found
        exact ⟨old, same ▸ present, rfl⟩
      · exact ⟨entry, found, rfl⟩

theorem connection_touchGroup {manager : ConnectionManager} {group : List String} {now : Instant}
    {id : String} {entry : ConnectionEntry}
    (found : (manager.touchGroup group now).connections.get id = some entry) :
    ∃ old, manager.connections.get id = some old ∧ old.connection = entry.connection := by
  unfold touchGroup at found
  induction group generalizing manager with
  | nil => exact ⟨entry, found, rfl⟩
  | cons head group inductionHypothesis =>
      obtain ⟨middle, present, sameMiddle⟩ := inductionHypothesis found
      obtain ⟨old, before, sameOld⟩ := connection_touch present
      exact ⟨old, before, sameOld.trans sameMiddle⟩

end ConnectionManager

/-- The entry of an add is put into the table by that add and by no other call. -/
theorem Action.entries (action : Action shared others task shared' task') {id : String}
    {entry : ConnectionEntry} (found : shared'.manager.connections.get id = some entry) :
    (∃ old, shared.manager.connections.get id = some old ∧ old.connection = entry.connection) ∨
    ∃ call, task'.addState = some (call, true) ∧ entry.connection = call.connection := by
  cases action with
  | refresh group now => exact Or.inl (ConnectionManager.connection_touchGroup found)
  | enqueue _ connections => exact Or.inl ⟨entry, connections ▸ found, rfl⟩
  | insert call =>
      simp only [Shared.with_manager, ConnectionManager.insertEntry, ShardedMap.get_insert] at found
      split_ifs at found with same
      · obtain rfl := Option.some.inj found
        refine Or.inr ⟨call, ?_, rfl⟩
        cases (call.info shared.clock).owner <;> rfl
      · exact Or.inl ⟨entry, found, rfl⟩
  | take taken | registryTake taken =>
      simp only [Shared.with_manager, ConnectionManager.closeQueue_connections,
        ConnectionManager.eraseEntry, ShardedMap.get_erase] at found
      split_ifs at found
      exact Or.inl ⟨entry, found, rfl⟩
  | batchTake => exact Or.inl ⟨entry, ConnectionManager.get_takeEntries found, rfl⟩
  | write written update old _ present =>
      simp only [Shared.with_manager, ConnectionManager.writeInfo, ShardedMap.get_insert] at found
      split_ifs at found with same
      · obtain rfl := Option.some.inj found
        exact Or.inl ⟨old, same ▸ present, rfl⟩
      · exact Or.inl ⟨entry, found, rfl⟩
  | _ => exact Or.inl ⟨entry, found, rfl⟩

/-! ## Runs -/

/-- The counter is the table plus the slots of the calls in progress. -/
def SlotsCounted (pool : Pool Shared Task) : Prop :=
  pool.memory.manager.connectionCount.toNat =
    pool.memory.manager.connections.size + total Task.slots pool.tasks

/-- Each add keeps the number of its call as its connection, and every entry of the
table was put there by an add. -/
structure AddsTracked (pool : Pool Shared Task) : Prop where
  numbered : ∀ (index : Nat) (task : Task) (call : AddCall) (inserted : Bool),
    pool.tasks[index]? = some task → task.addState = some (call, inserted) →
      call.connection = index
  entered : ∀ (id : String) (entry : ConnectionEntry),
    pool.memory.manager.connections.get id = some entry →
      ∃ (task : Task) (call : AddCall), pool.tasks[entry.connection]? = some task ∧
        task.addState = some (call, true)

/-- The adds of a pool all use one limit, and the counter respects it. -/
structure Limited (maxConnections : UInt64) (pool : Pool Shared Task) : Prop where
  limits : ∀ task ∈ pool.tasks, ∀ (call : AddCall) (inserted : Bool),
    task.addState = some (call, inserted) → call.maxConnections = maxConnections
  limited : pool.memory.manager.connectionCount ≤ maxConnections

/-- Every add that is called uses the limit `maxConnections`. -/
def AddsUse (maxConnections : UInt64) (_ : Pool Shared Task) (move : Move Call Bool Happening) :
    Prop :=
  match move with
  | .call (.addConnectionWithLimit _ _ _ limit) => limit = maxConnections
  | _ => True

instance decidableAddsUse (maxConnections : UInt64) (pool : Pool Shared Task) :
    ∀ move, Decidable (AddsUse maxConnections pool move)
  | .call (.addConnectionWithLimit _ _ _ limit) =>
      inferInstanceAs (Decidable (limit = maxConnections))
  | .call (.removeConnection _) | .call (.registryRemoveConnection _)
  | .call (.removeConnectionSnapshots _) | .call (.cleanupTimeoutConnections _ _)
  | .call (.updateConnection _ _) | .call (.updateConnectionActive _)
  | .call (.sendToUser _ _ _) | .advance _ _ | .environment _ => isTrue trivial

variable {allowed : Pool Shared Task → Move Call Bool Happening → Prop}
  {before after : Pool Shared Task}

theorem SlotsCounted.step (step : managerMachine.Allowed allowed before after)
    (counted : SlotsCounted before) : SlotsCounted after := by
  refine Machine.step_preserves ?_ ?_ ?_ step counted
  · intro memory tasks call _ counted
    have light := (Task.Light.of_isLight (Task.isLight_startCall tasks.length call)).slots
    simp only [SlotsCounted, managerMachine, total_append_singleton, light, Nat.add_zero] at counted ⊢
    exact counted
  · intro memory earlier task later choice memory' task' _ counted moved
    simp only [SlotsCounted, total_append_cons] at counted ⊢
    exact (action_of_advance moved).slots _ counted
  · intro memory tasks event _ counted
    cases event <;> exact counted

theorem addState_startCall (number : Nat) (call : Call) {addCall : AddCall} {inserted : Bool}
    (adds : (startCall number call).addState = some (addCall, inserted)) :
    addCall.connection = number := by
  cases call <;> simp only [startCall, Task.addState, Option.some.injEq, Prod.mk.injEq,
    reduceCtorEq] at adds
  rw [← adds.1]

theorem AddsTracked.step (step : managerMachine.Allowed allowed before after)
    (tracked : AddsTracked before) : AddsTracked after := by
  refine Machine.step_preserves ?_ ?_ ?_ step tracked
  · intro memory tasks call _ tracked
    refine ⟨?_, ?_⟩
    · intro index task addCall inserted found adds
      rcases Nat.lt_or_ge index tasks.length with old | new
      · rw [List.getElem?_append_left old] at found
        exact tracked.numbered index task addCall inserted found adds
      · rw [List.getElem?_append_right new, List.getElem?_singleton] at found
        split_ifs at found with last
        obtain rfl := Option.some.inj found
        have position : tasks.length = index := by omega
        exact (addState_startCall tasks.length call adds).trans position
    · intro id entry found
      obtain ⟨task, addCall, present, adds⟩ := tracked.entered id entry found
      obtain ⟨inRange, -⟩ := List.getElem?_eq_some_iff.mp present
      exact ⟨task, addCall, (List.getElem?_append_left inRange).trans present, adds⟩
  · intro memory earlier task later choice memory' task' _ tracked moved
    have action := action_of_advance moved
    refine ⟨?_, ?_⟩
    · intro index other addCall inserted found adds
      by_cases here : index = earlier.length
      · subst here
        rw [getElem?_append_cons_self] at found
        obtain rfl := Option.some.inj found
        rcases action.addState with same | ⟨call, was, is⟩
        · exact tracked.numbered _ task addCall inserted (getElem?_append_cons_self ..)
            (same ▸ adds)
        · rw [is] at adds
          obtain ⟨rfl, -⟩ := Prod.mk.inj (Option.some.inj adds)
          exact tracked.numbered _ task call false (getElem?_append_cons_self ..) was
      · rw [getElem?_append_cons_of_ne task task' here] at found
        exact tracked.numbered index other addCall inserted found adds
    · intro id entry found
      rcases action.entries found with ⟨old, present, same⟩ | ⟨call, adds, same⟩
      · obtain ⟨other, addCall, placed, adds⟩ := tracked.entered id old present
        rw [same] at placed
        by_cases here : entry.connection = earlier.length
        · rw [here, getElem?_append_cons_self] at placed
          obtain rfl := Option.some.inj placed
          refine ⟨task', addCall, by rw [here, getElem?_append_cons_self], ?_⟩
          rcases action.addState with kept | ⟨call, was, -⟩
          · rw [kept]
            exact adds
          · rw [was] at adds
            exact absurd (Prod.mk.inj (Option.some.inj adds)).2 Bool.false_ne_true
        · exact ⟨other, addCall, by rw [getElem?_append_cons_of_ne task task' here, placed], adds⟩
      · have number : call.connection = earlier.length := by
          rcases action.addState with kept | ⟨call', was, is⟩
          · exact tracked.numbered _ task call true (getElem?_append_cons_self ..) (kept ▸ adds)
          · rw [is] at adds
            obtain ⟨rfl, -⟩ := Prod.mk.inj (Option.some.inj adds)
            exact tracked.numbered _ task call' false (getElem?_append_cons_self ..) was
        exact ⟨task', call, by rw [same, number, getElem?_append_cons_self], adds⟩
  · intro memory tasks event _ tracked
    cases event <;> exact ⟨tracked.numbered, tracked.entered⟩

theorem Limited.step {maxConnections : UInt64}
    (step : managerMachine.Allowed (AddsUse maxConnections) before after)
    (counted : SlotsCounted before) (limited : Limited maxConnections before) :
    Limited maxConnections after := by
  refine Machine.step_preserves_given ?_ ?_ ?_ step counted limited
  · intro memory tasks call uses _ limited
    refine ⟨?_, limited.limited⟩
    intro task member addCall inserted adds
    rcases List.mem_append.mp member with old | new
    · exact limited.limits task old addCall inserted adds
    · obtain rfl := List.mem_singleton.mp new
      cases call <;> simp only [managerMachine, startCall, Task.addState, Option.some.injEq,
        Prod.mk.injEq, reduceCtorEq] at adds
      rw [← adds.1]
      exact uses
  · intro memory earlier task later choice memory' task' _ counted limited moved
    have action := action_of_advance moved
    have limits : ∀ (call : AddCall) (inserted : Bool), task.addState = some (call, inserted) →
        call.maxConnections = maxConnections :=
      limited.limits task (mem_append_cons.mpr (Or.inl rfl))
    have covered : task.slots ≤ memory.manager.connectionCount.toNat := by
      simp only [SlotsCounted, total_append_cons] at counted
      omega
    refine ⟨?_, ?_⟩
    · intro other member addCall inserted adds
      rcases mem_append_cons.mp member with rfl | old
      · rcases action.addState with same | ⟨call, was, is⟩
        · exact limits addCall inserted (same ▸ adds)
        · rw [is] at adds
          obtain ⟨rfl, -⟩ := Prod.mk.inj (Option.some.inj adds)
          exact limits call false was
      · exact limited.limits other (mem_append_cons.mpr (Or.inr old)) addCall inserted adds
    · exact action.connectionCount_le covered limited.limited fun call adds => limits call false adds
  · intro memory tasks event _ _ limited
    cases event <;> exact ⟨limited.limits, limited.limited⟩

/-- The call was an add, and was refused. -/
def Task.isRejected : Task → Bool
  | .rejected _ _ => true
  | _ => false

/-- What holds of the slots in every state reached. -/
theorem slots_of_reaches {maxConnections : UInt64} {writeQueueCapacity : Nat} {clock : Instant}
    {pool : Pool Shared Task}
    (reached : managerMachine.Reaches (AddsUse maxConnections)
      (initialPool writeQueueCapacity clock) pool) :
    SlotsCounted pool ∧ AddsTracked pool ∧ Limited maxConnections pool := by
  refine System.Reaches.invariant
    (I := fun pool => SlotsCounted pool ∧ AddsTracked pool ∧ Limited maxConnections pool)
    reached ⟨rfl, ⟨?_, ?_⟩, ⟨?_, ?_⟩⟩ ?_
  · intro index task call inserted found
    exact absurd found (by simp [initialPool])
  · intro id entry found
    exact absurd found (by simp [initialPool, ConnectionManager.new, ShardedMap.get_empty])
  · intro task member
    exact absurd member List.not_mem_nil
  · exact UInt64.zero_le
  · rintro before after step ⟨counted, tracked, limited⟩
    exact ⟨counted.step step, tracked.step step, limited.step step counted⟩

/-- **Slots are accounted for in every interleaving.**  The table stays within the limit, and
the counter is the number of entries, plus the slots reserved for entries to come, plus the
slots of entries that have gone; so no call in progress is about to release more than the
counter holds.  An add that was rejected has no entry in the table and no share in the
counter. -/
theorem slots_accounted {maxConnections : UInt64} {writeQueueCapacity : Nat} {clock : Instant}
    {pool : Pool Shared Task}
    (reached : managerMachine.Reaches (AddsUse maxConnections)
      (initialPool writeQueueCapacity clock) pool) :
    pool.memory.manager.connections.size ≤ maxConnections.toNat ∧
    pool.memory.manager.connectionCount.toNat = pool.memory.manager.connections.size +
      (total Task.reserved pool.tasks + total Task.unreleased pool.tasks) ∧
    (∀ task ∈ pool.tasks,
      task.reserved + task.unreleased ≤ pool.memory.manager.connectionCount.toNat) ∧
    ∀ (index : Nat) (call : AddCall) (error : FlareError),
      pool.tasks[index]? = some (.rejected call error) →
        (∀ id entry, pool.memory.manager.connections.get id = some entry →
          entry.connection ≠ call.connection) ∧
        pool.memory.manager.connectionCount.toNat = pool.memory.manager.connections.size +
          (total Task.reserved (pool.tasks.eraseIdx index) +
            total Task.unreleased (pool.tasks.eraseIdx index)) := by
  obtain ⟨counted, tracked, limited⟩ := slots_of_reaches reached
  have split : ∀ tasks : List Task,
      total Task.slots tasks = total Task.reserved tasks + total Task.unreleased tasks :=
    total_add Task.reserved Task.unreleased
  have bound := UInt64.le_iff_toNat_le.mp limited.limited
  unfold SlotsCounted at counted
  refine ⟨by omega, by rw [counted, split], ?_, ?_⟩
  · intro task member
    have share : task.slots ≤ total Task.slots pool.tasks := weight_le_total member
    have own : task.slots = task.reserved + task.unreleased := rfl
    omega
  · intro index call error rejected
    refine ⟨?_, ?_⟩
    · intro id entry found same
      obtain ⟨task, other, placed, adds⟩ := tracked.entered id entry found
      rw [same, tracked.numbered index _ call false rejected rfl, rejected] at placed
      obtain rfl := Option.some.inj placed
      exact absurd (Prod.mk.inj (Option.some.inj adds)).2 Bool.false_ne_true
    · have share : total Task.slots pool.tasks = 0 + total Task.slots (pool.tasks.eraseIdx index) :=
        total_eraseIdx Task.slots rejected
      rw [counted, share, Nat.zero_add, split]

end Slots

/-! ## A concrete run -/

section Run

open scoped SingleShard

/-- Two adds of one id and an add beyond the limit of two. -/
def crowdedMoves : List (Move Call Bool Happening) :=
  [.call (.addConnectionWithLimit "c" (some "alice") false 2),
    .call (.addConnectionWithLimit "c" none false 2),
    .call (.addConnectionWithLimit "d" none false 2),
    .advance 0 false, .advance 0 false, .advance 1 false, .advance 1 false, .advance 0 false,
    .advance 2 false, .advance 0 false, .advance 1 false, .advance 1 false]

/-- The second add is refused as a duplicate, and the third one finds no slot. -/
theorem slots_accounted_crowded :
    ∃ pool, managerMachine.Reaches (AddsUse 2) (initialPool 8 0) pool ∧
      pool.tasks.map Task.isRejected = [false, true, true] ∧
      pool.memory.manager.connections.size ≤ 2 ∧
      pool.memory.manager.connectionCount.toNat = pool.memory.manager.connections.size +
        (total Task.reserved pool.tasks + total Task.unreleased pool.tasks) := by
  have evaluated : ((managerMachine.run (initialPool 8 0) crowdedMoves).any fun pool =>
      pool.tasks.map Task.isRejected = [false, true, true]) = true := by
    decide +kernel
  obtain ⟨pool, reached, outcome⟩ := System.exists_reaches_of_run evaluated
    (by decide +kernel : managerMachine.Permits (AddsUse 2) (initialPool 8 0) crowdedMoves)
  obtain ⟨bounded, counted, -⟩ := slots_accounted reached
  exact ⟨pool, reached, of_decide_eq_true outcome, bounded, counted⟩

end Run

end FlareCore.Server

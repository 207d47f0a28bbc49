import FlareCore.Server.Connection.Accounting

/-!
# Consistency of table, index and counters

A manager is consistent when the index lists every connection exactly once under
its owner and nowhere else, no index list is empty, and the counters are the sizes
of the two maps.  The main result, `consistent_of_operations`, is that every
sequence of calls, each run without interruption, leads from the empty manager to a
consistent one.

The invariant of the proof, `Settled`, keeps the user counter as a machine word: that
the word counts the owners exactly needs the bound `Settled.users_size_le`, which holds
because distinct owners list distinct connections and the connection counter, guarded
by the limit check, never wraps.
-/

namespace FlareCore.Server

open FlareCore.Common FlareCore.Foundations

set_option autoImplicit false

section Consistency

variable [Hashing]

namespace ConnectionManager

/-- **Table, index and counters agree.** -/
structure Consistent (manager : ConnectionManager) : Prop where
  listed : ∀ owner connectionId, (manager.getUserConnections owner).count connectionId =
    if manager.ownerOf connectionId = some owner then 1 else 0
  nonempty : ∀ owner ids, manager.users.get owner = some ids → ids ≠ []
  connectionCount : manager.connectionCount.toNat = manager.connections.size
  userCount : manager.userCount.toNat = manager.users.size

/-- The invariant behind `Consistent`. -/
structure Settled (manager : ConnectionManager) : Prop where
  wellFormed : IndexWellFormed manager.users
  listed : ∀ owner connectionId, manager.listed owner connectionId =
    manager.owns owner connectionId
  connectionCount : manager.connectionCount.toNat = manager.connections.size
  userCount : manager.userCount = UInt64.ofNat manager.users.size

variable {manager : ConnectionManager}

/-- Every owner in the index can be charged to a connection of its own. -/
theorem users_size_le (wellFormed : IndexWellFormed manager.users)
    (listed : ∀ owner connectionId, manager.listed owner connectionId ≤
      manager.owns owner connectionId) :
    manager.users.size ≤ manager.connections.size := by
  have charged : ∀ owner, (manager.users.get owner).isSome →
      manager.ownerOf ((manager.users.get owner).getD [] |>.headD "") = some owner := by
    intro owner bound
    obtain ⟨ids, found⟩ := Option.isSome_iff_exists.mp bound
    obtain ⟨first, rest, rfl⟩ := List.exists_cons_of_ne_nil (wellFormed owner ids found).2
    have present : 1 ≤ manager.listed owner first := by
      simp [ConnectionManager.listed, listedIn, found]
    have owned := listed owner first
    unfold owns at owned
    simp only [found, Option.getD_some, List.headD_cons]
    by_contra other
    rw [if_neg other] at owned
    omega
  refine ShardedMap.size_le_size_of_injOn
    (fun owner => (manager.users.get owner).getD [] |>.headD "") ?_ ?_
  · intro owner bound
    have owned := charged owner bound
    cases found : manager.connections.get ((manager.users.get owner).getD [] |>.headD "") with
    | none =>
        rw [ownerOf_eq_none_of_get found] at owned
        cases owned
    | some entry => rfl
  · intro first second inFirst inSecond same
    have firstOwned := charged first inFirst
    have secondOwned := charged second inSecond
    rw [same, secondOwned] at firstOwned
    exact (Option.some.inj firstOwned).symm

theorem Settled.consistent (settled : Settled manager) : Consistent manager where
  listed := settled.listed
  nonempty owner ids found := (settled.wellFormed owner ids found).2
  connectionCount := settled.connectionCount
  userCount := by
    have bound : manager.users.size ≤ manager.connections.size :=
      users_size_le settled.wellFormed fun owner id => (settled.listed owner id).le
    have word := manager.connectionCount.toNat_lt
    rw [settled.userCount, UInt64.toNat_ofNat']
    exact Nat.mod_eq_of_lt (by rw [settled.connectionCount] at word; omega)

theorem Settled.new (capacity : Nat) : Settled (ConnectionManager.new capacity) where
  wellFormed := indexWellFormed_empty
  listed owner connectionId := by
    simp [ConnectionManager.listed, listedIn, owns, ownerOf, ConnectionManager.new]
  connectionCount := by simp [ConnectionManager.new]
  userCount := by simp [ConnectionManager.new]

/-! ## Between the sections of a call

Within a call, one index entry of one connection may still have to be inserted and one
to be removed. -/

/-- Settled but for index entries of one connection that the running call still owes. -/
structure Owing (manager : ConnectionManager) (connectionId : String)
    (inserting removing : Option DeviceOwner) : Prop where
  wellFormed : IndexWellFormed manager.users
  listed : ∀ owner id, manager.listed owner id + mark inserting connectionId owner id =
    manager.owns owner id + mark removing connectionId owner id
  connectionCount : manager.connectionCount.toNat = manager.connections.size
  userCount : manager.userCount = UInt64.ofNat (manager.users.size + 0)

variable {connectionId : String} {inserting removing : Option DeviceOwner}

theorem Owing.settled (owing : Owing manager connectionId none none) : Settled manager where
  wellFormed := owing.wellFormed
  listed owner id := by
    have here := owing.listed owner id
    rwa [mark_none, Nat.add_zero, Nat.add_zero] at here
  connectionCount := owing.connectionCount
  userCount := owing.userCount

/-- The entry under the old owner goes first. -/
theorem Owing.removeOwnerConnection (owing : Owing manager connectionId inserting removing)
    (distinct : inserting ≠ removing ∨ removing = none) :
    Owing (manager.removeOwnerConnection removing connectionId) connectionId inserting none where
  wellFormed := removeOwnerConnection_wellFormed _ _ owing.wellFormed
  listed owner id := by
    have here := owing.listed owner id
    have bound := listedIn_le_one owing.wellFormed owner id
    rw [listed_removeOwnerConnection, owns_congr (removeOwnerConnection_connections _ _), mark_none]
    by_cases removed : removing = some owner ∧ connectionId = id
    · have kept : inserting ≠ some owner := by
        intro same
        rcases distinct with differ | empty
        · exact differ (same.trans removed.1.symm)
        · rw [empty] at removed
          cases removed.1
      obtain ⟨rfl, rfl⟩ := removed
      simp only [mark, kept, and_self, if_true, false_and, if_false] at here ⊢
      unfold ConnectionManager.listed at here
      omega
    · simp only [mark, removed, if_false] at here ⊢
      exact here
  connectionCount := by simpa using owing.connectionCount
  userCount := userCount_removeOwnerConnection _ _ owing.userCount

/-- The entry under the new owner comes last. -/
theorem Owing.insertOwnerConnection (owing : Owing manager connectionId inserting none) :
    Settled (manager.insertOwnerConnection inserting connectionId) where
  wellFormed := insertOwnerConnection_wellFormed _ _ owing.wellFormed
  listed owner id := by
    have here := owing.listed owner id
    have bound := manager.owns_le_one owner id
    rw [listed_insertOwnerConnection _ _ owing.wellFormed,
      owns_congr (insertOwnerConnection_connections _ _)]
    by_cases inserted : inserting = some owner ∧ connectionId = id
    · simp only [mark, inserted, and_self, if_true, reduceCtorEq, false_and, if_false] at here ⊢
      omega
    · simp only [mark, inserted, if_false, reduceCtorEq, false_and] at here ⊢
      exact here
  connectionCount := by simpa using owing.connectionCount
  userCount := userCount_insertOwnerConnection _ _ owing.userCount

/-- Inserting the entry of an owner that is listed already changes nothing. -/
theorem Settled.insertOwnerConnection (settled : Settled manager) (connectionId : String) :
    Settled (manager.insertOwnerConnection (manager.ownerOf connectionId) connectionId) where
  wellFormed := insertOwnerConnection_wellFormed _ _ settled.wellFormed
  listed owner id := by
    rw [listed_insertOwnerConnection _ _ settled.wellFormed,
      owns_congr (insertOwnerConnection_connections _ _)]
    split_ifs with here
    · rw [owns, ← here.2, if_pos here.1]
    · exact settled.listed owner id
  connectionCount := by simpa using settled.connectionCount
  userCount := by
    have counted : manager.userCount = UInt64.ofNat (manager.users.size + 0) := settled.userCount
    exact userCount_insertOwnerConnection _ _ counted

/-! ## One operation -/

/-- Adding keeps the books settled, whether it succeeds or is rejected. -/
theorem Settled.addConnectionWithLimit (settled : Settled manager) (connectionId : String)
    (connection : ConnectionHandle) (userId : Option String) (requiresAuth : Bool)
    (maxConnections : UInt64) (now : Instant) :
    Settled (manager.addConnectionWithLimit connectionId connection userId requiresAuth
      maxConnections now).1 := by
  unfold ConnectionManager.addConnectionWithLimit
  split_ifs with full taken
  · exact settled
  · rw [reserve_release]
    exact settled
  · have missing : manager.reserveConnectionSlot.connections.get connectionId = none :=
      Option.not_isSome_iff_eq_none.mp taken
    refine Owing.insertOwnerConnection ⟨settled.wellFormed, ?_, ?_, settled.userCount⟩
    · intro owner id
      rw [mark_none, owns_insertEntry connection _ missing]
      exact congrArg (· + _) (settled.listed owner id)
    · rw [size_insertEntry connection _ missing]
      exact (toNat_reserve full).trans (congrArg (· + 1) settled.connectionCount)

/-- Taking an entry out and freeing its slot leaves its index entry to be removed. -/
theorem Settled.eraseEntry (settled : Settled manager) {entry : ConnectionEntry}
    (found : manager.connections.get connectionId = some entry) :
    Owing ((manager.eraseEntry connectionId).releaseConnectionSlots 1) connectionId none
      entry.info.owner where
  wellFormed := settled.wellFormed
  listed owner id := by
    rw [mark_none, Nat.add_zero]
    exact (settled.listed owner id).trans (owns_eraseEntry found owner id).symm
  connectionCount := by
    refine toNat_release ?_
    exact settled.connectionCount.trans (size_eraseEntry found).symm
  userCount := settled.userCount

theorem Settled.removeConnection (settled : Settled manager) (connectionId : String) :
    Settled (manager.removeConnection connectionId).1 := by
  unfold ConnectionManager.removeConnection
  cases found : manager.connections.get connectionId with
  | none => exact settled
  | some entry =>
      -- closing the queue is invisible to the books
      have owing : Owing (((manager.eraseEntry connectionId).closeQueue
          ⟨connectionId, entry.serial⟩).releaseConnectionSlots 1) connectionId none
          entry.info.owner := by
        obtain ⟨wellFormed, listed, connectionCount, userCount⟩ := settled.eraseEntry found
        exact ⟨wellFormed, listed, connectionCount, userCount⟩
      exact (owing.removeOwnerConnection
        ((eq_or_ne none entry.info.owner).symm.imp_right Eq.symm)).settled

theorem Settled.registryRemoveConnection (settled : Settled manager) (connectionId : String) :
    Settled (manager.registryRemoveConnection connectionId).1 := by
  unfold ConnectionManager.registryRemoveConnection
  cases found : manager.connections.get connectionId with
  | none => exact settled
  | some entry =>
      exact ((settled.eraseEntry found).removeOwnerConnection
        ((eq_or_ne none entry.info.owner).symm.imp_right Eq.symm)).settled

/-- Every update moves the index entry to the owner it leaves in the table. -/
theorem Settled.updateConnection (settled : Settled manager) (connectionId : String)
    (update : InfoUpdate) (now : Instant) :
    Settled (manager.updateConnection connectionId update now).1 := by
  unfold ConnectionManager.updateConnection
  cases found : manager.connections.get connectionId with
  | none => exact settled
  | some entry =>
      have moved := owns_writeInfo (update.apply now entry.info) found
      have size := size_writeInfo (update.apply now entry.info) found
      by_cases same : entry.info.owner = (update.apply now entry.info).owner
      · have kept : Settled (manager.writeInfo connectionId entry (update.apply now entry.info)) := by
          refine ⟨settled.wellFormed, ?_, settled.connectionCount.trans size.symm,
            settled.userCount⟩
          intro owner id
          have here := moved owner id
          rw [same] at here
          exact (settled.listed owner id).trans (Nat.add_right_cancel here).symm
        have owned := ownerOf_writeInfo manager connectionId entry (update.apply now entry.info)
          connectionId
        rw [if_pos rfl] at owned
        simp only [reindexUserConnection, leftOwner, same, if_true, ← owned]
        exact kept.insertOwnerConnection connectionId
      · have owing : Owing (manager.writeInfo connectionId entry (update.apply now entry.info))
            connectionId (update.apply now entry.info).owner entry.info.owner := by
          refine ⟨settled.wellFormed, ?_, settled.connectionCount.trans size.symm,
            settled.userCount⟩
          intro owner id
          have here := moved owner id
          have listed : (manager.writeInfo connectionId entry
            (update.apply now entry.info)).listed owner id = _ := settled.listed owner id
          omega
        simp only [reindexUserConnection, leftOwner, same, if_false]
        exact (owing.removeOwnerConnection (Or.inl (Ne.symm same))).insertOwnerConnection

/-- Rewriting an entry without touching its owner is invisible to the books. -/
theorem Settled.writeInfo (settled : Settled manager) {entry : ConnectionEntry}
    (info : ConnectionInfo) (found : manager.connections.get connectionId = some entry)
    (same : info.owner = entry.info.owner) :
    Settled (manager.writeInfo connectionId entry info) where
  wellFormed := settled.wellFormed
  listed owner id := by
    have moved := owns_writeInfo info found owner id
    rw [same] at moved
    exact (settled.listed owner id).trans (Nat.add_right_cancel moved).symm
  connectionCount := settled.connectionCount.trans (size_writeInfo info found).symm
  userCount := settled.userCount

theorem Settled.touch (settled : Settled manager) (connectionId : String) (now : Instant) :
    Settled (manager.touch connectionId now) := by
  unfold ConnectionManager.touch
  cases found : manager.connections.get connectionId with
  | none => exact settled
  | some entry => exact settled.writeInfo _ found rfl

theorem Settled.markNegotiationConfirmed (settled : Settled manager) (connectionId : String) :
    Settled (manager.markNegotiationConfirmed connectionId).1 := by
  unfold ConnectionManager.markNegotiationConfirmed
  cases found : manager.connections.get connectionId with
  | none => exact settled
  | some entry =>
      simp only
      split_ifs with completed
      · exact settled.writeInfo _ found rfl
      · exact settled

/-- Settled but for a list of index entries that a batch still has to remove. -/
structure OwingBatch (manager : ConnectionManager) (entries : List (DeviceOwner × String)) :
    Prop where
  wellFormed : IndexWellFormed manager.users
  listed : ∀ owner id, manager.listed owner id =
    manager.owns owner id + entries.count (owner, id)
  connectionCount : manager.connectionCount.toNat = manager.connections.size
  userCount : manager.userCount = UInt64.ofNat manager.users.size

/-- The first half of a batch: entries leave the table and their slots are freed. -/
theorem Settled.takeEntries (settled : Settled manager) (ids : List String) :
    OwingBatch ((takeEntries manager ⟨[], []⟩ ids).1.releaseConnectionSlots
      (takeEntries manager ⟨[], []⟩ ids).2.ids.length)
      (takeEntries manager ⟨[], []⟩ ids).2.indexed := by
  obtain ⟨users, userCount, connectionCount⟩ := takeEntries_frame manager ⟨[], []⟩ ids
  refine ⟨?_, ?_, ?_, ?_⟩
  · simpa only [releaseConnectionSlots, users] using settled.wellFormed
  · intro owner id
    have moved := owns_takeEntries manager ⟨[], []⟩ ids owner id
    refine Eq.trans ?_ moved.symm
    simpa only [ConnectionManager.listed, releaseConnectionSlots, users, List.count_nil,
      Nat.add_zero] using settled.listed owner id
  · refine toNat_release ?_
    rw [connectionCount, settled.connectionCount]
    exact (size_takeEntries manager ⟨[], []⟩ ids).symm
  · simpa only [releaseConnectionSlots, users, userCount] using settled.userCount

/-- The second half: the index entries follow, and then the user counter. -/
theorem OwingBatch.removeUserConnectionsBatch {entries : List (DeviceOwner × String)}
    (owing : OwingBatch manager entries) :
    Settled (manager.removeUserConnectionsBatch entries) := by
  unfold ConnectionManager.removeUserConnectionsBatch
  simp only [foldl_removeIndexEntries, Nat.zero_add]
  have size := size_removeUserConnectionEntries manager.users (userGroups entries).flatten
  refine ⟨removeUserConnectionEntries_wellFormed _ owing.wellFormed, ?_, owing.connectionCount, ?_⟩
  · intro owner id
    have here := owing.listed owner id
    have bound := listedIn_le_one owing.wellFormed owner id
    refine (listedIn_removeUserConnectionEntries manager.users _ owner id).trans ?_
    have table : ((manager.removeIndexEntries (userGroups entries).flatten).1.releaseUsers
        (manager.removeIndexEntries (userGroups entries).flatten).2).owns owner id =
        manager.owns owner id := owns_congr rfl owner id
    simp only [table, (userGroups_perm entries).mem_iff]
    unfold ConnectionManager.listed at here
    split_ifs with owed
    · have positive := List.count_pos_iff.mpr owed
      omega
    · have zero := List.count_eq_zero.mpr owed
      omega
  · simp only [releaseUsers, removeIndexEntries, owing.userCount, ← size, UInt64.ofNat_add,
      UInt64.add_sub_cancel]

theorem Settled.removeConnectionSnapshots (settled : Settled manager) (ids : List String) :
    Settled (manager.removeConnectionSnapshots ids).1 := by
  unfold ConnectionManager.removeConnectionSnapshots
  simp only [foldl_takeEntries]
  exact (settled.takeEntries _).removeUserConnectionsBatch

end ConnectionManager

/-! ## Sequences of operations -/

/-- A call on the manager, with the time at which it is made. -/
inductive Operation where
  | addConnection (connectionId : String) (connection : ConnectionHandle)
      (userId : Option String) (requiresAuth : Bool) (now : Instant)
  | addConnectionWithLimit (connectionId : String) (connection : ConnectionHandle)
      (userId : Option String) (requiresAuth : Bool) (maxConnections : UInt64) (now : Instant)
  | removeConnection (connectionId : String)
  | registryRemoveConnection (connectionId : String)
  | removeConnectionSnapshots (ids : List String)
  | cleanupTimeoutConnections (timeout now : Instant)
  | bindUser (connectionId userId : String) (now : Instant)
  | setConnectionAuthenticated (connectionId : String) (userId : Option String) (now : Instant)
  | updateConnectionNegotiation (connectionId : String) (negotiation : Negotiation)
      (metadata : Option (StringMap String)) (now : Instant)
  | updateConnectionNegotiationWithPipeline (connectionId : String) (negotiation : Negotiation)
      (parser : MessageParser) (pipeline : Option Pipeline) (now : Instant)
  | markNegotiationConfirmed (connectionId : String)
  | updateConnectionActive (connectionId : String) (now : Instant)

/-- The manager after a call, whatever the call returned. -/
def Operation.perform (manager : ConnectionManager) : Operation → ConnectionManager
  | .addConnection connectionId connection userId requiresAuth now =>
      (manager.addConnection connectionId connection userId requiresAuth now).1
  | .addConnectionWithLimit connectionId connection userId requiresAuth maxConnections now =>
      (manager.addConnectionWithLimit connectionId connection userId requiresAuth
        maxConnections now).1
  | .removeConnection connectionId => (manager.removeConnection connectionId).1
  | .registryRemoveConnection connectionId => (manager.registryRemoveConnection connectionId).1
  | .removeConnectionSnapshots ids => (manager.removeConnectionSnapshots ids).1
  | .cleanupTimeoutConnections timeout now => (manager.cleanupTimeoutConnections timeout now).1
  | .bindUser connectionId userId now => (manager.bindUser connectionId userId now).1
  | .setConnectionAuthenticated connectionId userId now =>
      (manager.setConnectionAuthenticated connectionId userId now).1
  | .updateConnectionNegotiation connectionId negotiation metadata now =>
      (manager.updateConnectionNegotiation connectionId negotiation metadata now).1
  | .updateConnectionNegotiationWithPipeline connectionId negotiation parser pipeline now =>
      (manager.updateConnectionNegotiationWithPipeline connectionId negotiation parser pipeline
        now).1
  | .markNegotiationConfirmed connectionId => (manager.markNegotiationConfirmed connectionId).1
  | .updateConnectionActive connectionId now => (manager.updateConnectionActive connectionId now).1

namespace ConnectionManager

theorem Settled.perform {manager : ConnectionManager} (settled : Settled manager)
    (operation : Operation) : Settled (operation.perform manager) := by
  cases operation with
  | addConnection => exact settled.addConnectionWithLimit ..
  | addConnectionWithLimit => exact settled.addConnectionWithLimit ..
  | removeConnection => exact settled.removeConnection _
  | registryRemoveConnection => exact settled.registryRemoveConnection _
  | removeConnectionSnapshots => exact settled.removeConnectionSnapshots _
  | cleanupTimeoutConnections => exact settled.removeConnectionSnapshots _
  | bindUser => exact settled.updateConnection ..
  | setConnectionAuthenticated => exact settled.updateConnection ..
  | updateConnectionNegotiation => exact settled.updateConnection ..
  | updateConnectionNegotiationWithPipeline => exact settled.updateConnection ..
  | markNegotiationConfirmed => exact settled.markNegotiationConfirmed _
  | updateConnectionActive => exact settled.touch ..

theorem Settled.performAll {manager : ConnectionManager} (settled : Settled manager)
    (operations : List Operation) : Settled (operations.foldl Operation.perform manager) := by
  induction operations generalizing manager with
  | nil => exact settled
  | cons operation operations inductionHypothesis =>
      exact inductionHypothesis (settled.perform operation)

/-- **Every sequence of uninterrupted calls on a new manager leaves table, index and
counters consistent.** -/
theorem consistent_of_operations (writeQueueCapacity : Nat) (operations : List Operation) :
    Consistent (operations.foldl Operation.perform (new writeQueueCapacity)) :=
  ((Settled.new writeQueueCapacity).performAll operations).consistent

end ConnectionManager

end Consistency

end FlareCore.Server

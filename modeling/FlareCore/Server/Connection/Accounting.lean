import FlareCore.Server.Connection.Operations

/-!
# What each critical section does to the books

Table, user index and counters are four books of one account.  This module says,
for every critical section of the manager, how it changes each of them:

* `listed owner id`, how often an id occurs in the index list of an owner;
* `owns owner id`, one or zero, whether the table holds the id with that owner;
* the numbers of table entries and of index keys.

The statements are equations at an arbitrary owner and id.  Both the sequential and
the concurrent development derive their invariants from them and never open the
definition of a section again.
-/

namespace FlareCore.Server

open FlareCore.Common FlareCore.Foundations

set_option autoImplicit false

/-! ## The books -/

/-- One for the given owner and id, zero elsewhere. -/
def mark (owner : Option DeviceOwner) (connectionId : String) (owner' : DeviceOwner)
    (connectionId' : String) : Nat :=
  if owner = some owner' ∧ connectionId = connectionId' then 1 else 0

theorem mark_none (connectionId : String) (owner' : DeviceOwner) (connectionId' : String) :
    mark none connectionId owner' connectionId' = 0 := by
  simp [mark]

theorem mark_of_ne_id {connectionId connectionId' : String} (owner : Option DeviceOwner)
    (owner' : DeviceOwner) (distinct : connectionId ≠ connectionId') :
    mark owner connectionId owner' connectionId' = 0 :=
  if_neg fun both => distinct both.2

theorem count_ownerEntries (owner : Option DeviceOwner) (id : String) (owner' : DeviceOwner)
    (id' : String) :
    (owner.toList.map fun owner => (owner, id)).count (owner', id') = mark owner id owner' id' := by
  cases owner with
  | none => rw [mark_none]; rfl
  | some owner =>
      simp only [Option.toList_some, List.map_cons, List.map_nil, List.count_singleton, mark,
        Option.some.injEq, beq_iff_eq, Prod.mk.injEq]

/-! ## The connection counter

The counter is guarded by the limit and never wraps, so it is compared as a number. -/

theorem toNat_reserve {count maxConnections : UInt64} (below : ¬maxConnections ≤ count) :
    (count + 1).toNat = count.toNat + 1 := by
  have bound := maxConnections.toNat_lt
  have strict : count.toNat < maxConnections.toNat := UInt64.lt_iff_toNat_lt.mp (by simpa using below)
  rw [UInt64.toNat_add, UInt64.toNat_one]
  exact Nat.mod_eq_of_lt (by omega)

theorem toNat_release {count : UInt64} {remaining slots : Nat}
    (counted : count.toNat = remaining + slots) :
    (count - UInt64.ofNat slots).toNat = remaining := by
  have bound := count.toNat_lt
  have slotsWord : (UInt64.ofNat slots).toNat = slots := by
    rw [UInt64.toNat_ofNat']
    exact Nat.mod_eq_of_lt (by omega)
  rw [UInt64.toNat_sub_of_le _ _ (UInt64.le_iff_toNat_le.mpr (by omega))]
  omega

section Accounting

variable [Hashing]

/-- Every list of the index is free of repetitions and not empty. -/
def IndexWellFormed (users : UserIndex) : Prop :=
  ∀ owner ids, users.get owner = some ids → ids.Nodup ∧ ids ≠ []

/-- How often the index lists an id under an owner. -/
def listedIn (users : UserIndex) (owner : DeviceOwner) (connectionId : String) : Nat :=
  ((users.get owner).getD []).count connectionId

namespace ConnectionManager

/-- How often the index lists an id under an owner. -/
def listed (manager : ConnectionManager) : DeviceOwner → String → Nat :=
  listedIn manager.users

/-- Whether the table holds an id with an owner. -/
def owns (manager : ConnectionManager) (owner : DeviceOwner) (connectionId : String) : Nat :=
  if manager.ownerOf connectionId = some owner then 1 else 0

end ConnectionManager

theorem listedIn_le_one {users : UserIndex} (wellFormed : IndexWellFormed users)
    (owner : DeviceOwner) (connectionId : String) : listedIn users owner connectionId ≤ 1 := by
  unfold listedIn
  cases found : users.get owner with
  | none => simp
  | some ids => exact List.nodup_iff_count_le_one.mp (wellFormed owner ids found).1 connectionId

theorem indexWellFormed_empty : IndexWellFormed (∅ : UserIndex) := by
  intro owner ids found
  rw [ShardedMap.get_empty] at found
  cases found

/-! ## Insertion into the index -/

section Insert

variable (users : UserIndex) (owner : DeviceOwner) (connectionId : String)

theorem insertUserConnectionIndex_get :
    ∃ ids, (insertUserConnectionIndex users owner connectionId).1.get owner = some ids ∧
      connectionId ∈ ids ∧
      (∀ other, other ≠ owner →
        (insertUserConnectionIndex users owner connectionId).1.get other = users.get other) ∧
      ids = if connectionId ∈ (users.get owner).getD [] then (users.get owner).getD []
        else (users.get owner).getD [] ++ [connectionId] := by
  unfold insertUserConnectionIndex
  cases found : users.get owner with
  | none =>
      exact ⟨[connectionId], ShardedMap.get_insert_self .., by simp,
        fun _ distinct => ShardedMap.get_insert_of_ne _ _ distinct, by simp⟩
  | some ids =>
      by_cases member : connectionId ∈ ids
      · exact ⟨ids, by simp [member, found], member, by simp [member], by simp [member]⟩
      · refine ⟨ids ++ [connectionId], by simp [member], by simp, ?_, by simp [member]⟩
        intro other distinct
        simp only [member, if_false]
        exact ShardedMap.get_insert_of_ne _ _ distinct

theorem insertUserConnectionIndex_wellFormed (wellFormed : IndexWellFormed users) :
    IndexWellFormed (insertUserConnectionIndex users owner connectionId).1 := by
  obtain ⟨ids, here, member, elsewhere, shape⟩ :=
    insertUserConnectionIndex_get users owner connectionId
  have old : ((users.get owner).getD []).Nodup := by
    cases found : users.get owner with
    | none => exact List.nodup_nil
    | some ids => exact (wellFormed owner ids found).1
  intro other others found
  by_cases same : other = owner
  · rw [same, here] at found
    obtain rfl := Option.some.inj found
    refine ⟨?_, List.ne_nil_of_mem member⟩
    rw [shape]
    split_ifs with listed
    · exact old
    · exact List.Nodup.append old (List.nodup_singleton _) (by simpa using listed)
  · rw [elsewhere other same] at found
    exact wellFormed other others found

theorem listedIn_insertUserConnectionIndex (wellFormed : IndexWellFormed users)
    (owner' : DeviceOwner) (connectionId' : String) :
    listedIn (insertUserConnectionIndex users owner connectionId).1 owner' connectionId' =
      if owner' = owner ∧ connectionId' = connectionId then 1
      else listedIn users owner' connectionId' := by
  have kept := insertUserConnectionIndex_wellFormed users owner connectionId wellFormed
  obtain ⟨ids, here, member, elsewhere, shape⟩ :=
    insertUserConnectionIndex_get users owner connectionId
  by_cases sameOwner : owner' = owner
  · subst sameOwner
    simp only [listedIn, here, Option.getD_some, true_and]
    split_ifs with sameId
    · subst sameId
      exact List.count_eq_one_of_mem (kept _ _ here).1 member
    · rw [shape]
      split_ifs with listed
      · rfl
      · rw [List.count_append, List.count_singleton, beq_false_of_ne (Ne.symm sameId)]
        rfl
  · rw [if_neg fun both => sameOwner both.1]
    simp only [listedIn, elsewhere owner' sameOwner]

theorem size_insertUserConnectionIndex :
    (insertUserConnectionIndex users owner connectionId).1.size =
      users.size + (insertUserConnectionIndex users owner connectionId).2.toNat := by
  unfold insertUserConnectionIndex
  cases found : users.get owner with
  | none => exact ShardedMap.size_insert_of_get_eq_none _ found
  | some ids =>
      by_cases member : connectionId ∈ ids
      · simp [member]
      · simp [member, ShardedMap.size_insert_of_get_eq_some _ found]

end Insert

/-! ## Removal from the index -/

section Remove

variable (users : UserIndex) (owner : DeviceOwner) (connectionId : String)

theorem removeUserConnectionIndex_getD (owner' : DeviceOwner) :
    ((removeUserConnectionIndex users owner connectionId).1.get owner').getD [] =
      if owner' = owner then ((users.get owner).getD []).filter (· ≠ connectionId)
      else (users.get owner').getD [] := by
  unfold removeUserConnectionIndex
  cases found : users.get owner with
  | none =>
      split_ifs with same
      · rw [same, found]
        rfl
      · rfl
  | some ids =>
      simp only [Option.getD_some]
      by_cases empty : ids.filter (· ≠ connectionId) = []
      · rw [if_pos empty, ShardedMap.get_erase]
        split_ifs with same
        · rw [empty]
          rfl
        · rfl
      · rw [if_neg empty, ShardedMap.get_insert]
        split_ifs with same <;> rfl

theorem removeUserConnectionIndex_wellFormed (wellFormed : IndexWellFormed users) :
    IndexWellFormed (removeUserConnectionIndex users owner connectionId).1 := by
  unfold removeUserConnectionIndex
  cases found : users.get owner with
  | none => exact wellFormed
  | some ids =>
      simp only
      intro other others
      split_ifs with empty
      · rw [ShardedMap.get_erase]
        split_ifs with same
        · intro impossible
          cases impossible
        · exact wellFormed other others
      · rw [ShardedMap.get_insert]
        split_ifs with same
        · intro equal
          obtain rfl := Option.some.inj equal
          exact ⟨(wellFormed owner ids found).1.filter _, empty⟩
        · exact wellFormed other others

theorem listedIn_removeUserConnectionIndex (owner' : DeviceOwner) (connectionId' : String) :
    listedIn (removeUserConnectionIndex users owner connectionId).1 owner' connectionId' =
      if owner' = owner ∧ connectionId' = connectionId then 0
      else listedIn users owner' connectionId' := by
  unfold listedIn
  rw [removeUserConnectionIndex_getD]
  by_cases sameOwner : owner' = owner
  · subst sameOwner
    simp only [if_true, true_and]
    split_ifs with sameId
    · subst sameId
      exact List.count_eq_zero.mpr (by simp)
    · exact List.count_filter (by simpa using sameId)
  · rw [if_neg sameOwner, if_neg fun both => sameOwner both.1]

theorem size_removeUserConnectionIndex :
    (removeUserConnectionIndex users owner connectionId).1.size +
      (removeUserConnectionIndex users owner connectionId).2.toNat = users.size := by
  unfold removeUserConnectionIndex
  cases found : users.get owner with
  | none => rfl
  | some ids =>
      by_cases empty : ids.filter (· ≠ connectionId) = []
      · simp only [empty, if_true, Bool.toNat_true]
        exact ShardedMap.size_erase_of_get_eq_some found
      · simp only [empty, if_false, Bool.toNat_false, Nat.add_zero]
        exact ShardedMap.size_insert_of_get_eq_some _ found

end Remove

/-! ## Removal of several index entries under one lock -/

theorem removeUserConnectionEntries_wellFormed {users : UserIndex}
    (entries : List (DeviceOwner × String)) (wellFormed : IndexWellFormed users) :
    IndexWellFormed (removeUserConnectionEntries users entries).1 := by
  induction entries generalizing users with
  | nil => exact wellFormed
  | cons entry entries inductionHypothesis =>
      exact inductionHypothesis
        (removeUserConnectionIndex_wellFormed users entry.1 entry.2 wellFormed)

theorem listedIn_removeUserConnectionEntries (users : UserIndex)
    (entries : List (DeviceOwner × String)) (owner : DeviceOwner) (connectionId : String) :
    listedIn (removeUserConnectionEntries users entries).1 owner connectionId =
      if (owner, connectionId) ∈ entries then 0 else listedIn users owner connectionId := by
  induction entries generalizing users with
  | nil => simp [removeUserConnectionEntries]
  | cons entry entries inductionHypothesis =>
      rw [removeUserConnectionEntries, inductionHypothesis, listedIn_removeUserConnectionIndex]
      by_cases rest : (owner, connectionId) ∈ entries
      · rw [if_pos rest, if_pos (List.mem_cons_of_mem _ rest)]
      · simp only [rest, if_false, List.mem_cons, or_false, Prod.ext_iff]

theorem size_removeUserConnectionEntries (users : UserIndex)
    (entries : List (DeviceOwner × String)) :
    (removeUserConnectionEntries users entries).1.size +
      (removeUserConnectionEntries users entries).2 = users.size := by
  induction entries generalizing users with
  | nil => rfl
  | cons entry entries inductionHypothesis =>
      have first := size_removeUserConnectionIndex users entry.1 entry.2
      have rest := inductionHypothesis (removeUserConnectionIndex users entry.1 entry.2).1
      simp only [removeUserConnectionEntries]
      omega

namespace ConnectionManager

variable (manager : ConnectionManager)

/-! ## What the sections leave alone -/

@[simp] theorem insertUserConnection_connections (owner : DeviceOwner) (id : String) :
    (manager.insertUserConnection owner id).connections = manager.connections := rfl

@[simp] theorem insertUserConnection_connectionCount (owner : DeviceOwner) (id : String) :
    (manager.insertUserConnection owner id).connectionCount = manager.connectionCount := rfl

@[simp] theorem insertUserConnection_queues (owner : DeviceOwner) (id : String) :
    (manager.insertUserConnection owner id).queues = manager.queues := rfl

@[simp] theorem removeUserConnection_connections (owner : DeviceOwner) (id : String) :
    (manager.removeUserConnection owner id).connections = manager.connections := rfl

@[simp] theorem removeUserConnection_connectionCount (owner : DeviceOwner) (id : String) :
    (manager.removeUserConnection owner id).connectionCount = manager.connectionCount := rfl

@[simp] theorem removeUserConnection_queues (owner : DeviceOwner) (id : String) :
    (manager.removeUserConnection owner id).queues = manager.queues := rfl

@[simp] theorem reserveConnectionSlot_connections :
    (manager.reserveConnectionSlot).connections = manager.connections := rfl

@[simp] theorem reserveConnectionSlot_users :
    (manager.reserveConnectionSlot).users = manager.users := rfl

@[simp] theorem reserveConnectionSlot_userCount :
    (manager.reserveConnectionSlot).userCount = manager.userCount := rfl

@[simp] theorem reserveConnectionSlot_queues :
    (manager.reserveConnectionSlot).queues = manager.queues := rfl

@[simp] theorem releaseConnectionSlots_connections (slots : Nat) :
    (manager.releaseConnectionSlots slots).connections = manager.connections := rfl

@[simp] theorem releaseConnectionSlots_users (slots : Nat) :
    (manager.releaseConnectionSlots slots).users = manager.users := rfl

@[simp] theorem releaseConnectionSlots_userCount (slots : Nat) :
    (manager.releaseConnectionSlots slots).userCount = manager.userCount := rfl

/-- A slot that is reserved and given back leaves everything as it was. -/
theorem reserve_release :
    manager.reserveConnectionSlot.releaseConnectionSlots 1 = manager := by
  simp only [reserveConnectionSlot, releaseConnectionSlots, UInt64.ofNat_one,
    UInt64.add_sub_cancel]

@[simp] theorem releaseConnectionSlots_queues (slots : Nat) :
    (manager.releaseConnectionSlots slots).queues = manager.queues := rfl

@[simp] theorem insertEntry_users (id : String) (connection : ConnectionHandle)
    (info : ConnectionInfo) :
    (manager.insertEntry id connection info).users = manager.users := rfl

@[simp] theorem insertEntry_userCount (id : String) (connection : ConnectionHandle)
    (info : ConnectionInfo) :
    (manager.insertEntry id connection info).userCount = manager.userCount := rfl

@[simp] theorem insertEntry_connectionCount (id : String) (connection : ConnectionHandle)
    (info : ConnectionInfo) :
    (manager.insertEntry id connection info).connectionCount = manager.connectionCount := rfl

@[simp] theorem eraseEntry_users (id : String) :
    (manager.eraseEntry id).users = manager.users := rfl

@[simp] theorem eraseEntry_userCount (id : String) :
    (manager.eraseEntry id).userCount = manager.userCount := rfl

@[simp] theorem eraseEntry_connectionCount (id : String) :
    (manager.eraseEntry id).connectionCount = manager.connectionCount := rfl

@[simp] theorem eraseEntry_queues (id : String) :
    (manager.eraseEntry id).queues = manager.queues := rfl

@[simp] theorem closeQueue_connections (handle : WriteHandle) :
    (manager.closeQueue handle).connections = manager.connections := rfl

@[simp] theorem closeQueue_users (handle : WriteHandle) :
    (manager.closeQueue handle).users = manager.users := rfl

@[simp] theorem closeQueue_userCount (handle : WriteHandle) :
    (manager.closeQueue handle).userCount = manager.userCount := rfl

@[simp] theorem closeQueue_connectionCount (handle : WriteHandle) :
    (manager.closeQueue handle).connectionCount = manager.connectionCount := rfl

@[simp] theorem writeInfo_users (id : String) (entry : ConnectionEntry)
    (info : ConnectionInfo) :
    (manager.writeInfo id entry info).users = manager.users := rfl

@[simp] theorem writeInfo_userCount (id : String) (entry : ConnectionEntry)
    (info : ConnectionInfo) :
    (manager.writeInfo id entry info).userCount = manager.userCount := rfl

@[simp] theorem writeInfo_connectionCount (id : String) (entry : ConnectionEntry)
    (info : ConnectionInfo) :
    (manager.writeInfo id entry info).connectionCount = manager.connectionCount := rfl

@[simp] theorem writeInfo_queues (id : String) (entry : ConnectionEntry)
    (info : ConnectionInfo) :
    (manager.writeInfo id entry info).queues = manager.queues := rfl

@[simp] theorem removeIndexEntries_connections (entries : List (DeviceOwner × String)) :
    (manager.removeIndexEntries entries).1.connections = manager.connections := rfl

@[simp] theorem removeIndexEntries_userCount (entries : List (DeviceOwner × String)) :
    (manager.removeIndexEntries entries).1.userCount = manager.userCount := rfl

@[simp] theorem removeIndexEntries_connectionCount (entries : List (DeviceOwner × String)) :
    (manager.removeIndexEntries entries).1.connectionCount = manager.connectionCount := rfl

@[simp] theorem removeIndexEntries_queues (entries : List (DeviceOwner × String)) :
    (manager.removeIndexEntries entries).1.queues = manager.queues := rfl

@[simp] theorem releaseUsers_connections (users : Nat) :
    (manager.releaseUsers users).connections = manager.connections := rfl

@[simp] theorem releaseUsers_users (users : Nat) :
    (manager.releaseUsers users).users = manager.users := rfl

@[simp] theorem releaseUsers_connectionCount (users : Nat) :
    (manager.releaseUsers users).connectionCount = manager.connectionCount := rfl

@[simp] theorem releaseUsers_queues (users : Nat) :
    (manager.releaseUsers users).queues = manager.queues := rfl

end ConnectionManager

namespace ConnectionManager

variable (manager : ConnectionManager)

/-! ## Ownership after a section on the table -/

theorem ownerOf_insertEntry (connectionId : String) (connection : ConnectionHandle)
    (info : ConnectionInfo) (connectionId' : String) :
    (manager.insertEntry connectionId connection info).ownerOf connectionId' =
      if connectionId' = connectionId then info.owner else manager.ownerOf connectionId' := by
  simp only [ownerOf, insertEntry, ShardedMap.get_insert]
  split_ifs <;> rfl

theorem ownerOf_eraseEntry (connectionId connectionId' : String) :
    (manager.eraseEntry connectionId).ownerOf connectionId' =
      if connectionId' = connectionId then none else manager.ownerOf connectionId' := by
  simp only [ownerOf, eraseEntry, ShardedMap.get_erase]
  split_ifs <;> rfl

theorem ownerOf_writeInfo (connectionId : String) (entry : ConnectionEntry)
    (info : ConnectionInfo) (connectionId' : String) :
    (manager.writeInfo connectionId entry info).ownerOf connectionId' =
      if connectionId' = connectionId then info.owner else manager.ownerOf connectionId' := by
  simp only [ownerOf, writeInfo, ShardedMap.get_insert]
  split_ifs <;> rfl

variable {manager}

theorem ownerOf_eq_of_get {connectionId : String} {entry : ConnectionEntry}
    (found : manager.connections.get connectionId = some entry) :
    manager.ownerOf connectionId = entry.info.owner := by
  simp only [ownerOf, found, Option.bind_some]

theorem ownerOf_eq_none_of_get {connectionId : String}
    (missing : manager.connections.get connectionId = none) :
    manager.ownerOf connectionId = none := by
  simp only [ownerOf, missing, Option.bind_none]

theorem owns_congr {manager' : ConnectionManager}
    (sameTable : manager'.connections = manager.connections) (owner : DeviceOwner)
    (connectionId : String) : manager'.owns owner connectionId = manager.owns owner connectionId := by
  have sameOwner : manager'.ownerOf connectionId = manager.ownerOf connectionId := by
    rw [ownerOf, sameTable, ownerOf]
  rw [owns, sameOwner, owns]

theorem owns_le_one (owner : DeviceOwner) (connectionId : String) :
    manager.owns owner connectionId ≤ 1 := by
  unfold owns
  split_ifs <;> omega

/-- Ownership of a manager whose owner at one id was replaced. -/
theorem owns_of_replace {manager' : ConnectionManager} {connectionId : String}
    {before after : Option DeviceOwner} (old : manager.ownerOf connectionId = before)
    (replaced : ∀ id, manager'.ownerOf id = if id = connectionId then after else manager.ownerOf id)
    (owner : DeviceOwner) (connectionId' : String) :
    manager'.owns owner connectionId' + mark before connectionId owner connectionId' =
      manager.owns owner connectionId' + mark after connectionId owner connectionId' := by
  simp only [owns, mark, replaced]
  by_cases same : connectionId' = connectionId
  · subst same
    simp only [if_true, and_true, old]
    exact Nat.add_comm _ _
  · simp only [same, Ne.symm same, if_false, and_false]

theorem owns_insertEntry {connectionId : String} (connection : ConnectionHandle)
    (info : ConnectionInfo) (missing : manager.connections.get connectionId = none)
    (owner : DeviceOwner) (connectionId' : String) :
    (manager.insertEntry connectionId connection info).owns owner connectionId' =
      manager.owns owner connectionId' + mark info.owner connectionId owner connectionId' := by
  have replaced := owns_of_replace (ownerOf_eq_none_of_get missing)
    (ownerOf_insertEntry manager connectionId connection info) owner connectionId'
  rwa [mark_none, Nat.add_zero] at replaced

theorem owns_eraseEntry {connectionId : String} {entry : ConnectionEntry}
    (found : manager.connections.get connectionId = some entry) (owner : DeviceOwner)
    (connectionId' : String) :
    (manager.eraseEntry connectionId).owns owner connectionId' +
        mark entry.info.owner connectionId owner connectionId' =
      manager.owns owner connectionId' := by
  have replaced := owns_of_replace (ownerOf_eq_of_get found)
    (ownerOf_eraseEntry manager connectionId) owner connectionId'
  rwa [mark_none, Nat.add_zero] at replaced

theorem owns_writeInfo {connectionId : String} {entry : ConnectionEntry} (info : ConnectionInfo)
    (found : manager.connections.get connectionId = some entry) (owner : DeviceOwner)
    (connectionId' : String) :
    (manager.writeInfo connectionId entry info).owns owner connectionId' +
        mark entry.info.owner connectionId owner connectionId' =
      manager.owns owner connectionId' + mark info.owner connectionId owner connectionId' :=
  owns_of_replace (ownerOf_eq_of_get found)
    (ownerOf_writeInfo manager connectionId entry info) owner connectionId'

/-! ## Table sizes -/

theorem size_insertEntry {connectionId : String} (connection : ConnectionHandle)
    (info : ConnectionInfo) (missing : manager.connections.get connectionId = none) :
    (manager.insertEntry connectionId connection info).connections.size =
      manager.connections.size + 1 :=
  ShardedMap.size_insert_of_get_eq_none _ missing

theorem size_eraseEntry {connectionId : String} {entry : ConnectionEntry}
    (found : manager.connections.get connectionId = some entry) :
    (manager.eraseEntry connectionId).connections.size + 1 = manager.connections.size :=
  ShardedMap.size_erase_of_get_eq_some found

theorem size_writeInfo {connectionId : String} {entry : ConnectionEntry} (info : ConnectionInfo)
    (found : manager.connections.get connectionId = some entry) :
    (manager.writeInfo connectionId entry info).connections.size = manager.connections.size :=
  ShardedMap.size_insert_of_get_eq_some _ found

/-! ## The user counter

The counter is compared as a word.  Owners that have left the index but are still
counted are the parameter `emptied`. -/

theorem userCount_insertUserConnection {emptied : Nat}
    (counted : manager.userCount = UInt64.ofNat (manager.users.size + emptied))
    (owner : DeviceOwner) (connectionId : String) :
    (manager.insertUserConnection owner connectionId).userCount =
      UInt64.ofNat ((manager.insertUserConnection owner connectionId).users.size + emptied) := by
  have size := size_insertUserConnectionIndex manager.users owner connectionId
  simp only [insertUserConnection, size, counted]
  cases (insertUserConnectionIndex manager.users owner connectionId).2 with
  | false => rfl
  | true =>
      simp only [if_true, Bool.toNat_true, Nat.add_right_comm _ 1 emptied]
      rw [UInt64.ofNat_add _ 1, UInt64.ofNat_one]

theorem userCount_removeUserConnection {emptied : Nat}
    (counted : manager.userCount = UInt64.ofNat (manager.users.size + emptied))
    (owner : DeviceOwner) (connectionId : String) :
    (manager.removeUserConnection owner connectionId).userCount =
      UInt64.ofNat ((manager.removeUserConnection owner connectionId).users.size + emptied) := by
  have size := size_removeUserConnectionIndex manager.users owner connectionId
  simp only [removeUserConnection, counted, ← size]
  cases (removeUserConnectionIndex manager.users owner connectionId).2 with
  | false => rfl
  | true =>
      simp only [if_true, Bool.toNat_true, Nat.add_right_comm _ 1 emptied]
      rw [UInt64.ofNat_add _ 1, UInt64.ofNat_one, UInt64.add_sub_cancel]

/-! ## Index sections for an optional owner -/

section OptionalOwner

variable (owner : Option DeviceOwner) (connectionId : String)

@[simp]
theorem insertOwnerConnection_connections :
    (manager.insertOwnerConnection owner connectionId).connections = manager.connections := by
  cases owner <;> rfl

@[simp]
theorem removeOwnerConnection_connections :
    (manager.removeOwnerConnection owner connectionId).connections = manager.connections := by
  cases owner <;> rfl

@[simp]
theorem insertOwnerConnection_connectionCount :
    (manager.insertOwnerConnection owner connectionId).connectionCount =
      manager.connectionCount := by
  cases owner <;> rfl

@[simp]
theorem removeOwnerConnection_queues :
    (manager.removeOwnerConnection owner connectionId).queues = manager.queues := by
  cases owner <;> rfl

@[simp]
theorem removeOwnerConnection_connectionCount :
    (manager.removeOwnerConnection owner connectionId).connectionCount =
      manager.connectionCount := by
  cases owner <;> rfl

theorem insertOwnerConnection_wellFormed (wellFormed : IndexWellFormed manager.users) :
    IndexWellFormed (manager.insertOwnerConnection owner connectionId).users := by
  cases owner with
  | none => exact wellFormed
  | some owner => exact insertUserConnectionIndex_wellFormed _ _ _ wellFormed

theorem removeOwnerConnection_wellFormed (wellFormed : IndexWellFormed manager.users) :
    IndexWellFormed (manager.removeOwnerConnection owner connectionId).users := by
  cases owner with
  | none => exact wellFormed
  | some owner => exact removeUserConnectionIndex_wellFormed _ _ _ wellFormed

theorem listed_insertOwnerConnection (wellFormed : IndexWellFormed manager.users)
    (owner' : DeviceOwner) (connectionId' : String) :
    (manager.insertOwnerConnection owner connectionId).listed owner' connectionId' =
      if owner = some owner' ∧ connectionId = connectionId' then 1
      else manager.listed owner' connectionId' := by
  cases owner with
  | none => simp [insertOwnerConnection]
  | some owner =>
      refine (listedIn_insertUserConnectionIndex manager.users owner connectionId wellFormed
        owner' connectionId').trans ?_
      simp only [Option.some.injEq, eq_comm (a := owner'), eq_comm (a := connectionId')]
      rfl

theorem listed_removeOwnerConnection (owner' : DeviceOwner) (connectionId' : String) :
    (manager.removeOwnerConnection owner connectionId).listed owner' connectionId' =
      if owner = some owner' ∧ connectionId = connectionId' then 0
      else manager.listed owner' connectionId' := by
  cases owner with
  | none => simp [removeOwnerConnection]
  | some owner =>
      refine (listedIn_removeUserConnectionIndex manager.users owner connectionId owner'
        connectionId').trans ?_
      simp only [Option.some.injEq, eq_comm (a := owner'), eq_comm (a := connectionId')]
      rfl

theorem userCount_insertOwnerConnection {emptied : Nat}
    (counted : manager.userCount = UInt64.ofNat (manager.users.size + emptied)) :
    (manager.insertOwnerConnection owner connectionId).userCount =
      UInt64.ofNat ((manager.insertOwnerConnection owner connectionId).users.size + emptied) := by
  cases owner with
  | none => exact counted
  | some owner => exact userCount_insertUserConnection counted owner connectionId

theorem userCount_removeOwnerConnection {emptied : Nat}
    (counted : manager.userCount = UInt64.ofNat (manager.users.size + emptied)) :
    (manager.removeOwnerConnection owner connectionId).userCount =
      UInt64.ofNat ((manager.removeOwnerConnection owner connectionId).users.size + emptied) := by
  cases owner with
  | none => exact counted
  | some owner => exact userCount_removeUserConnection counted owner connectionId

end OptionalOwner

/-! ## Batch removal from the table -/

/-- One entry taken out by a batch. -/
theorem takeEntries_cons_of_some {removed : Removed} {id : String} {ids : List String}
    {entry : ConnectionEntry} (found : manager.connections.get id = some entry) :
    takeEntries manager removed (id :: ids) =
      takeEntries ((manager.eraseEntry id).closeQueue ⟨id, entry.serial⟩)
        ⟨removed.ids ++ [id],
          removed.indexed ++ (entry.info.owner.toList.map fun owner => (owner, id))⟩ ids := by
  rw [takeEntries, found]

theorem takeEntries_cons_of_none {removed : Removed} {id : String} {ids : List String}
    (missing : manager.connections.get id = none) :
    takeEntries manager removed (id :: ids) = takeEntries manager removed ids := by
  rw [takeEntries, missing]

/-- Only the table changes. -/
theorem takeEntries_frame (manager : ConnectionManager) (removed : Removed) (ids : List String) :
    (takeEntries manager removed ids).1.users = manager.users ∧
      (takeEntries manager removed ids).1.userCount = manager.userCount ∧
      (takeEntries manager removed ids).1.connectionCount = manager.connectionCount := by
  induction ids generalizing manager removed with
  | nil => exact ⟨rfl, rfl, rfl⟩
  | cons id ids inductionHypothesis =>
      cases found : manager.connections.get id with
      | none =>
          rw [takeEntries_cons_of_none found]
          exact inductionHypothesis manager removed
      | some entry =>
          rw [takeEntries_cons_of_some found]
          exact inductionHypothesis _ _

/-- What ownership the table loses, the list of pending index removals gains. -/
theorem owns_takeEntries (manager : ConnectionManager) (removed : Removed) (ids : List String)
    (owner : DeviceOwner) (connectionId : String) :
    (takeEntries manager removed ids).1.owns owner connectionId +
        (takeEntries manager removed ids).2.indexed.count (owner, connectionId) =
      manager.owns owner connectionId + removed.indexed.count (owner, connectionId) := by
  induction ids generalizing manager removed with
  | nil => rfl
  | cons id ids inductionHypothesis =>
      cases found : manager.connections.get id with
      | none =>
          rw [takeEntries_cons_of_none found]
          exact inductionHypothesis manager removed
      | some entry =>
          have erased : ((manager.eraseEntry id).closeQueue ⟨id, entry.serial⟩).owns owner
              connectionId + mark entry.info.owner id owner connectionId =
              manager.owns owner connectionId := owns_eraseEntry found owner connectionId
          rw [takeEntries_cons_of_some found, inductionHypothesis, List.count_append,
            count_ownerEntries]
          omega

/-- A batch removal leaves the connections it was not given alone. -/
theorem get_takeEntries_of_not_mem {removed : Removed} {ids : List String} {id : String}
    (absent : id ∉ ids) :
    (takeEntries manager removed ids).1.connections.get id = manager.connections.get id := by
  induction ids generalizing manager removed with
  | nil => rfl
  | cons head ids inductionHypothesis =>
      rw [List.mem_cons, not_or] at absent
      obtain ⟨other, absent⟩ := absent
      cases found : manager.connections.get head with
      | none =>
          rw [takeEntries_cons_of_none found]
          exact inductionHypothesis absent
      | some entry =>
          rw [takeEntries_cons_of_some found, inductionHypothesis absent]
          exact ShardedMap.get_erase_of_ne _ other

theorem ownerOf_takeEntries_of_not_mem {removed : Removed} {ids : List String} {id : String}
    (absent : id ∉ ids) : (takeEntries manager removed ids).1.ownerOf id = manager.ownerOf id := by
  unfold ownerOf
  rw [get_takeEntries_of_not_mem absent]

/-- What entries the table loses, the list of removed ids gains. -/
theorem size_takeEntries (manager : ConnectionManager) (removed : Removed) (ids : List String) :
    (takeEntries manager removed ids).1.connections.size +
        (takeEntries manager removed ids).2.ids.length =
      manager.connections.size + removed.ids.length := by
  induction ids generalizing manager removed with
  | nil => rfl
  | cons id ids inductionHypothesis =>
      cases found : manager.connections.get id with
      | none =>
          rw [takeEntries_cons_of_none found]
          exact inductionHypothesis manager removed
      | some entry =>
          have erased : ((manager.eraseEntry id).closeQueue ⟨id, entry.serial⟩).connections.size + 1
              = manager.connections.size := size_eraseEntry found
          rw [takeEntries_cons_of_some found, inductionHypothesis, List.length_append]
          simp only [List.length_cons, List.length_nil]
          omega

/-! ## A batch visits its shards one after the other -/

theorem takeEntries_append (manager : ConnectionManager) (removed : Removed)
    (first second : List String) :
    takeEntries manager removed (first ++ second) =
      takeEntries (takeEntries manager removed first).1 (takeEntries manager removed first).2
        second := by
  induction first generalizing manager removed with
  | nil => rfl
  | cons id ids inductionHypothesis =>
      cases found : manager.connections.get id with
      | none =>
          rw [List.cons_append, takeEntries_cons_of_none found, takeEntries_cons_of_none found]
          exact inductionHypothesis manager removed
      | some entry =>
          rw [List.cons_append, takeEntries_cons_of_some found, takeEntries_cons_of_some found]
          exact inductionHypothesis _ _

theorem foldl_takeEntries (groups : List (List String)) (state : ConnectionManager × Removed) :
    groups.foldl (fun state group => takeEntries state.1 state.2 group) state =
      takeEntries state.1 state.2 groups.flatten := by
  induction groups generalizing state with
  | nil => rfl
  | cons group groups inductionHypothesis =>
      rw [List.foldl_cons, inductionHypothesis, List.flatten_cons, takeEntries_append]

end ConnectionManager

theorem removeUserConnectionEntries_append (users : UserIndex)
    (first second : List (DeviceOwner × String)) :
    removeUserConnectionEntries users (first ++ second) =
      ((removeUserConnectionEntries (removeUserConnectionEntries users first).1 second).1,
        (removeUserConnectionEntries users first).2 +
          (removeUserConnectionEntries (removeUserConnectionEntries users first).1 second).2) := by
  induction first generalizing users with
  | nil => simp [removeUserConnectionEntries]
  | cons entry entries inductionHypothesis =>
      simp only [List.cons_append, removeUserConnectionEntries, inductionHypothesis, Nat.add_assoc]

namespace ConnectionManager

theorem foldl_removeIndexEntries (groups : List (List (DeviceOwner × String)))
    (state : ConnectionManager × Nat) :
    groups.foldl (fun state group => ((state.1.removeIndexEntries group).1,
        state.2 + (state.1.removeIndexEntries group).2)) state =
      ((state.1.removeIndexEntries groups.flatten).1,
        state.2 + (state.1.removeIndexEntries groups.flatten).2) := by
  induction groups generalizing state with
  | nil => rfl
  | cons group groups inductionHypothesis =>
      rw [List.foldl_cons, inductionHypothesis, List.flatten_cons]
      simp only [removeIndexEntries, removeUserConnectionEntries_append, Nat.add_assoc]

/-- The groups of a batch hold the index entries of the batch. -/
theorem userGroups_perm (entries : List (DeviceOwner × String)) :
    (userGroups entries).flatten.Perm entries :=
  ShardedMap.flatten_groups_perm entries

end ConnectionManager

end Accounting

end FlareCore.Server

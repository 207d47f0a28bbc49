import FlareCore.Server.Connection.Consistency
import FlareCore.Server.Connection.Slots

/-!
# Consistency under interleaving

Between the sections of its calls the table and the index disagree, by what the calls in
progress still owe the index.  `Books` collects what holds in every state of every
interleaving: the locks exclude each other, a task that is about to list a connection
finds it in the table under that owner, and an index entry without a table entry is one
that some call is about to remove.

The converse, that the index lists every connection of the table once nothing is owed,
can fail.  A removal through the registry and a batch removal let go of the table shard
before they edit the index; when the id comes back under the same owner in between, the
late removal deletes the new index entry (`interleaving_loses_index_entry`).  It holds in
every run in which no call inserts an index entry that such a removal is still about to
delete (`consistent_of_interleaving`).

The steps of `Action` fall into four kinds by what they do to table and index, `BookStep`;
the invariants are proved on these.
-/

namespace FlareCore.Server

open FlareCore.Common FlareCore.Foundations

set_option autoImplicit false

section Interleaving

variable [Hashing]

/-! ## Locks and announcements -/

namespace Task

/-- One if the task keeps the shard locked. -/
def holding (shard : Fin shardCount) (task : Task) : Nat :=
  if task.holds = some shard then 1 else 0

/-- One if the task is about to list the connection for the owner. -/
def listing (owner : DeviceOwner) (connectionId : String) (task : Task) : Nat :=
  if task.lists = some (connectionId, owner) then 1 else 0

/-- The index entry that the next section of a task inserts. -/
def indexes : Task → Option (DeviceOwner × String)
  | .addIndex call owner => some (owner, call.connectionId)
  | .reindexInsert id true after => some (after, id)
  | _ => none

/-- A task that is about to list a connection keeps its shard locked. -/
theorem holds_of_lists {task : Task} {connectionId : String} {owner : DeviceOwner}
    (lists : task.lists = some (connectionId, owner)) :
    task.holds = some (connectionShard connectionId) := by
  cases task with
  | addIndex call after =>
      obtain ⟨rfl, -⟩ := Prod.mk.inj (Option.some.inj lists)
      rfl
  | reindexRemove id before after =>
      cases after with
      | none => cases lists
      | some after =>
          obtain ⟨rfl, -⟩ := Prod.mk.inj (Option.some.inj lists)
          rfl
  | reindexInsert id owed after =>
      obtain ⟨rfl, -⟩ := Prod.mk.inj (Option.some.inj lists)
      rfl
  | _ => cases lists

omit [Hashing] in
/-- An index entry is inserted only for a connection that is about to be listed. -/
theorem inserting_le_listing (task : Task) (owner : DeviceOwner) (connectionId : String) :
    task.inserting owner connectionId ≤ task.listing owner connectionId := by
  have announced : ∀ (id : String) (after : DeviceOwner),
      mark (some after) id owner connectionId =
        if some (id, after) = some (connectionId, owner) then 1 else 0 := by
    intro id after
    simp only [mark, Option.some.injEq, Prod.mk.injEq, and_comm]
  cases task with
  | addIndex call after => exact (announced _ _).le
  | reindexRemove id before after =>
      cases after with
      | none => exact (mark_none _ _ _).le
      | some after => exact (announced _ _).le
  | reindexInsert id owed after =>
      cases owed with
      | false => exact Nat.zero_le _
      | true => exact (announced _ _).le
  | _ => exact Nat.zero_le _

/-- A locked removal keeps the shard of its connection locked. -/
theorem holds_of_lockedRemoving {task : Task} {owner : DeviceOwner} {connectionId : String}
    (removes : task.lockedRemoving owner connectionId ≠ 0) :
    task.holds = some (connectionShard connectionId) := by
  have same : ∀ (before : Option DeviceOwner) (id : String),
      mark before id owner connectionId ≠ 0 → connectionShard id = connectionShard connectionId := by
    intro before id marked
    by_contra other
    exact marked (mark_of_ne_id before owner fun eq => other (congrArg connectionShard eq))
  cases task with
  | removeRelease id before | removeIndex id before | reindexRemove id before =>
      exact congrArg some (same _ _ removes)
  | _ => exact absurd rfl removes

end Task

/-- No task among the others holds a lock on a free connection's shard. -/
theorem holds_ne_of_free {others : List Task} {connectionId : String}
    (isFree : free others connectionId = true) {task : Task} (member : task ∈ others) :
    task.holds ≠ some (connectionShard connectionId) :=
  of_decide_eq_true (List.all_eq_true.mp isFree task member)

theorem listing_eq_zero_of_free {others : List Task} {connectionId : String}
    (isFree : free others connectionId = true) (owner : DeviceOwner) :
    total (Task.listing owner connectionId) others = 0 := by
  refine total_eq_zero.mpr ?_
  intro task member
  refine if_neg ?_
  intro lists
  exact holds_ne_of_free isFree member (Task.holds_of_lists lists)

theorem lockedRemoving_eq_zero_of_free {others : List Task} {connectionId : String}
    (isFree : free others connectionId = true) (owner : DeviceOwner) :
    total (fun task => task.lockedRemoving owner connectionId) others = 0 := by
  refine total_eq_zero.mpr ?_
  intro task member
  by_contra removes
  exact holds_ne_of_free isFree member (Task.holds_of_lockedRemoving removes)

/-! ## The four kinds of step -/

/-- What a step does to table and index, and to what its task owes. -/
inductive BookStep (others : List Task) (before after : ConnectionManager) (task task' : Task) :
    Prop where
  | quiet (owner : ∀ id, after.ownerOf id = before.ownerOf id) (users : after.users = before.users)
      (lists : task'.lists = task.lists)
      (inserting : ∀ owner id, task'.inserting owner id = task.inserting owner id)
      (removing : ∀ owner id, task'.removing owner id = task.removing owner id)
  | table (ids : List String) (isFree : ∀ id ∈ ids, free others id = true)
      (owner : ∀ id, id ∉ ids → after.ownerOf id = before.ownerOf id)
      (users : after.users = before.users)
      (inserting : ∀ owner id, task.inserting owner id = 0)
      (owns : ∀ owner id, after.owns owner id + task'.removing owner id =
        before.owns owner id + task.removing owner id + task'.inserting owner id)
      (lists : ∀ id owner, task'.lists = some (id, owner) →
        id ∈ ids ∧ after.ownerOf id = some owner)
  | list (id : String) (owner : DeviceOwner) (connections : after.connections = before.connections)
      (users : after.users = (insertUserConnectionIndex before.users owner id).1)
      (lists : task.lists = some (id, owner)) (light : task'.Light)
      (inserting : (task.indexes = some (owner, id) ∧
          ∀ owner' id', task.inserting owner' id' = mark (some owner) id owner' id') ∨
        ∀ owner' id', task.inserting owner' id' = 0)
      (removing : ∀ owner id, task.removing owner id = 0)
  | unlist (entries : List (DeviceOwner × String))
      (connections : after.connections = before.connections)
      (users : after.users = (removeUserConnectionEntries before.users entries).1)
      (lists : task'.lists = task.lists)
      (inserting : ∀ owner id, task'.inserting owner id = task.inserting owner id)
      (removing : ∀ owner id, task.removing owner id =
        task'.removing owner id + entries.count (owner, id))

variable {shared shared' : Shared} {others : List Task} {task task' : Task}

/-- A step between two tasks that owe nothing. -/
theorem BookStep.ofLight {after : ConnectionManager} (light : LightStep shared task task')
    (owner : ∀ id, after.ownerOf id = shared.manager.ownerOf id)
    (users : after.users = shared.manager.users) :
    BookStep others shared.manager after task task' :=
  .quiet owner users (light.after.lists.trans light.before.lists.symm)
    (fun o id => (light.after.inserting o id).trans (light.before.inserting o id).symm)
    (fun o id => (light.after.removing o id).trans (light.before.removing o id).symm)

/-- The removal of one index entry. -/
theorem BookStep.unlistOne {before after : ConnectionManager} {id : String} {owner : DeviceOwner}
    (connections : after.connections = before.connections)
    (users : after.users = (removeUserConnectionIndex before.users owner id).1)
    (lists : task'.lists = task.lists)
    (inserting : ∀ owner id, task'.inserting owner id = task.inserting owner id)
    (removing : ∀ owner' id', task.removing owner' id' =
      task'.removing owner' id' + mark (some owner) id owner' id') :
    BookStep others before after task task' := by
  refine .unlist [(owner, id)] connections users lists inserting ?_
  intro owner' id'
  rw [removing]
  exact congrArg (_ + ·) (count_ownerEntries (some owner) id owner' id').symm

/-- A removal of one table entry, whose index entry the task still has to delete. -/
theorem BookStep.ofErase {manager after : ConnectionManager} {id : String}
    {entry : ConnectionEntry} (isFree : free others id = true)
    (found : manager.connections.get id = some entry)
    (erased : after.connections = (manager.eraseEntry id).connections)
    (users : after.users = manager.users) (light : task.Light) (lists : task'.lists = none)
    (inserting : ∀ owner id, task'.inserting owner id = 0)
    (removing : ∀ owner id', task'.removing owner id' = mark entry.info.owner id owner id') :
    BookStep others manager after task task' := by
  refine .table [id] (by simpa using isFree) ?_ users light.inserting ?_ ?_
  · intro id' absent
    have other := manager.ownerOf_eraseEntry id id'
    rw [if_neg (by simpa using absent)] at other
    rw [← other]
    unfold ConnectionManager.ownerOf
    rw [erased]
  · intro owner id'
    have change := ConnectionManager.owns_eraseEntry found owner id'
    rw [removing, inserting, light.removing, ConnectionManager.owns_congr erased]
    omega
  · intro id' owner announced
    rw [lists] at announced
    cases announced

/-- The write of an update, with the index edits that follow it. -/
theorem BookStep.ofWrite {manager : ConnectionManager} {id : String} {entry : ConnectionEntry}
    (update : InfoUpdate) (info : ConnectionInfo) (isFree : free others id = true)
    (found : manager.connections.get id = some entry) :
    BookStep others manager (manager.writeInfo id entry info) (.update id update)
      (afterUpdate id entry.info.owner info.owner) := by
  have written : ∀ id', (manager.writeInfo id entry info).ownerOf id' =
      if id' = id then info.owner else manager.ownerOf id' := manager.ownerOf_writeInfo id entry info
  have owns := ConnectionManager.owns_writeInfo info found
  refine .table [id] (by simpa using isFree) ?_ rfl (fun _ _ => rfl) ?_ ?_
  · intro id' absent
    rw [written, if_neg (by simpa using absent)]
  · intro owner id'
    have change := owns owner id'
    unfold afterUpdate leftOwner
    by_cases same : entry.info.owner = info.owner
    · rw [same] at change
      cases after : info.owner <;>
        simp only [same, after, if_true, ne_eq, not_true, decide_false, Task.removing,
          Task.lockedRemoving, Task.unlockedRemoving, Task.inserting] <;>
        omega
    · cases before : entry.info.owner <;> cases after : info.owner <;>
        simp only [before, after, if_false, reduceCtorEq, ne_eq, not_false_eq_true, decide_true,
          Task.removing, Task.lockedRemoving, Task.unlockedRemoving, Task.inserting, mark_none]
          at same change ⊢ <;>
        first
        | omega
        | (rw [if_neg same]; simp only; omega)
  · intro id' owner lists
    unfold afterUpdate at lists
    have target : id' = id ∧ info.owner = some owner := by
      split at lists
      · cases after : info.owner with
        | none => simp [after, Task.lists] at lists
        | some after => simpa [after, Task.lists, eq_comm] using lists
      · next after _ => simpa [Task.lists, eq_comm, ‹info.owner = _›] using lists
      · cases lists
    obtain ⟨rfl, owned⟩ := target
    exact ⟨List.mem_singleton_self _, by rw [written, if_pos rfl, owned]⟩

/-- **Every action is one of the four kinds.** -/
theorem Action.bookStep (action : Action shared others task shared' task') :
    BookStep others shared.manager shared'.manager task task' := by
  cases action with
  | idle light => exact .ofLight light (fun _ => rfl) rfl
  | refresh group now _ light =>
      obtain ⟨owner, -, -, users, -, -⟩ := shared.manager.touchGroup_books group now
      exact .ofLight light owner users
  | enqueue light connections users =>
      refine .ofLight light ?_ users
      intro id
      unfold ConnectionManager.ownerOf
      rw [connections]
  | exchange | duplicate | giveBack =>
      exact .quiet (fun _ => rfl) rfl rfl (fun _ _ => rfl) (fun _ _ => rfl)
  | insert call isFree missing =>
      have replaced := shared.manager.ownerOf_insertEntry call.connectionId call.connection
        (call.info shared.clock)
      have owns := ConnectionManager.owns_insertEntry call.connection (call.info shared.clock) missing
      refine .table [call.connectionId] (by simpa using isFree) ?_ rfl (fun _ _ => rfl) ?_ ?_
      · intro id absent
        exact (replaced id).trans (if_neg (by simpa using absent))
      · intro owner id
        have change := owns owner id
        cases after : (call.info shared.clock).owner with
        | none =>
            rw [after, mark_none] at change
            exact change
        | some after' =>
            rw [after] at change
            exact change
      · intro id owner lists
        cases after : (call.info shared.clock).owner with
        | none =>
            rw [after] at lists
            cases lists
        | some after' =>
            rw [after] at lists
            obtain ⟨rfl, rfl⟩ := Prod.mk.inj (Option.some.inj lists)
            exact ⟨List.mem_singleton_self _, ((replaced _).trans (if_pos rfl)).trans after⟩
  | list call owner =>
      exact .list call.connectionId owner rfl rfl rfl (.of_isLight rfl)
        (Or.inl ⟨rfl, fun _ _ => rfl⟩) (fun _ _ => rfl)
  | take id resume entry isFree found =>
      exact .ofErase isFree found rfl rfl (.of_isLight rfl) rfl (fun _ _ => rfl) (fun _ _ => rfl)
  | release id owner resume =>
      cases owner with
      | none =>
          have light := Task.Light.of_isLight (Task.isLight_afterRemoval resume (.ok ()))
          refine .quiet (fun _ => rfl) rfl light.lists light.inserting ?_
          intro owner id'
          exact (light.removing owner id').trans (mark_none id owner id').symm
      | some owner => exact .quiet (fun _ => rfl) rfl rfl (fun _ _ => rfl) (fun _ _ => rfl)
  | unlist id owner resume =>
      have light := Task.Light.of_isLight (Task.isLight_afterRemoval resume (.ok ()))
      exact .unlistOne rfl rfl light.lists light.inserting fun owner' id' => by
        rw [light.removing, Nat.zero_add]
        rfl
  | registryTake id entry isFree found =>
      refine .ofErase isFree found rfl rfl (.of_isLight rfl) rfl (fun _ _ => rfl) ?_
      intro owner id'
      exact Nat.zero_add _
  | registryRelease id owner =>
      cases owner with
      | none =>
          refine .quiet (fun _ => rfl) rfl rfl (fun _ _ => rfl) ?_
          intro owner id'
          exact ((Nat.zero_add _).trans (mark_none id owner id')).symm
      | some owner => exact .quiet (fun _ => rfl) rfl rfl (fun _ _ => rfl) (fun _ _ => rfl)
  | registryUnlist id owner =>
      exact .unlistOne rfl rfl rfl (fun _ _ => rfl) fun _ _ => rfl
  | batchTake timeout group groups removed isFree =>
      obtain ⟨users, -, -⟩ := ConnectionManager.takeEntries_frame shared.manager removed group
      refine .table group isFree ?_ users (fun _ _ => rfl) ?_ (fun _ _ lists => nomatch lists)
      · intro id absent
        exact ConnectionManager.ownerOf_takeEntries_of_not_mem absent
      · intro owner id
        have change := ConnectionManager.owns_takeEntries shared.manager removed group owner id
        simp only [Shared.with_manager, Task.removing, Task.lockedRemoving, Task.unlockedRemoving,
          Task.inserting]
        omega
  | batchRelease timeout removed =>
      refine .quiet (fun _ => rfl) rfl rfl (fun _ _ => rfl) ?_
      intro owner id
      exact congrArg (0 + ·) ((ConnectionManager.userGroups_perm removed.indexed).count_eq (owner, id))
  | batchUnlist group groups emptied ids =>
      refine .unlist group rfl rfl rfl (fun _ _ => rfl) ?_
      intro owner id
      simp only [Task.removing, Task.lockedRemoving, Task.unlockedRemoving, List.flatten_cons,
        List.count_append]
      omega
  | batchCount emptied ids =>
      exact .quiet (fun _ => rfl) rfl rfl (fun _ _ => rfl) (fun _ _ => rfl)
  | write id update entry isFree found => exact .ofWrite update _ isFree found
  | reindexUnlist id before after =>
      cases after with
      | none =>
          exact .unlistOne rfl rfl rfl (fun o i => (mark_none id o i).symm)
            fun _ _ => Nat.add_comm _ _
      | some after =>
          exact .unlistOne rfl rfl rfl (fun _ _ => rfl) fun _ _ => Nat.add_comm _ _
  | reindexList id owed after =>
      refine .list id after rfl rfl rfl (.of_isLight rfl) ?_ (fun _ _ => rfl)
      cases owed
      · exact Or.inr fun _ _ => rfl
      · exact Or.inl ⟨rfl, fun _ _ => rfl⟩

/-! ## One step -/

/-- A lock is kept, let go of, or taken while no other task has it. -/
theorem Action.holds (action : Action shared others task shared' task') :
    task'.holds = none ∨ task'.holds = task.holds ∨
      ∃ id, task'.holds = some (connectionShard id) ∧ free others id = true := by
  cases action with
  | idle light | refresh _ _ _ light | enqueue light => exact Or.inl light.after.holds
  | duplicate call isFree => exact Or.inr (Or.inr ⟨_, rfl, isFree⟩)
  | insert call isFree =>
      cases (call.info shared.clock).owner with
      | none => exact Or.inl rfl
      | some owner => exact Or.inr (Or.inr ⟨_, rfl, isFree⟩)
  | take id resume entry isFree => exact Or.inr (Or.inr ⟨id, rfl, isFree⟩)
  | release id owner resume =>
      cases owner with
      | none => exact Or.inl (Task.Light.of_isLight (Task.isLight_afterRemoval _ _)).holds
      | some owner => exact Or.inr (Or.inl rfl)
  | unlist => exact Or.inl (Task.Light.of_isLight (Task.isLight_afterRemoval _ _)).holds
  | registryRelease id owner => cases owner <;> exact Or.inl rfl
  | write id update entry isFree =>
      unfold afterUpdate
      split
      · exact Or.inr (Or.inr ⟨id, rfl, isFree⟩)
      · exact Or.inr (Or.inr ⟨id, rfl, isFree⟩)
      · exact Or.inl rfl
  | reindexUnlist id before after =>
      cases after with
      | none => exact Or.inl rfl
      | some after => exact Or.inr (Or.inl rfl)
  | _ => exact Or.inl rfl

/-- A shard is locked by one task at most. -/
theorem Action.exclusive (action : Action shared others task shared' task')
    (shard : Fin shardCount)
    (exclusive : task.holding shard + total (Task.holding shard) others ≤ 1) :
    task'.holding shard + total (Task.holding shard) others ≤ 1 := by
  unfold Task.holding at exclusive ⊢
  rcases action.holds with released | kept | ⟨id, taken, isFree⟩
  · rw [released, if_neg (by simp)]
    omega
  · rw [kept]
    exact exclusive
  · split_ifs with here
    · have none : total (Task.holding shard) others = 0 := by
        refine total_eq_zero.mpr ?_
        intro other member
        refine if_neg ?_
        intro holds
        exact holds_ne_of_free isFree member (holds.trans (here.symm.trans taken))
      unfold Task.holding at none
      omega
    · omega

/-- Whoever keeps a shard locked finds it free of all others. -/
theorem free_of_holds {connectionId : String}
    (exclusive : ∀ shard, task.holding shard + total (Task.holding shard) others ≤ 1)
    (holds : task.holds = some (connectionShard connectionId)) :
    free others connectionId = true := by
  have alone := exclusive (connectionShard connectionId)
  have own : task.holding (connectionShard connectionId) = 1 := if_pos holds
  have none : total (Task.holding (connectionShard connectionId)) others = 0 := by omega
  refine List.all_eq_true.mpr ?_
  intro other member
  refine decide_eq_true ?_
  intro same
  have unheld := total_eq_zero.mp none other member
  rw [Task.holding, if_pos same] at unheld
  cases unheld

namespace BookStep

variable {before after : ConnectionManager}

/-- A connection that is about to be listed is in the table under that owner. -/
theorem agreed (step : BookStep others before after task task')
    (agreed : ∀ owner id, task.listing owner id + total (Task.listing owner id) others ≤
      before.owns owner id) (owner : DeviceOwner) (id : String) :
    task'.listing owner id + total (Task.listing owner id) others ≤ after.owns owner id := by
  have here := agreed owner id
  unfold Task.listing ConnectionManager.owns at here ⊢
  cases step with
  | quiet sameOwner _ lists =>
      rw [sameOwner, lists]
      exact here
  | table ids isFree sameOwner _ _ _ announced =>
      by_cases touched : id ∈ ids
      · have none := listing_eq_zero_of_free (isFree id touched) owner
        unfold Task.listing at none
        rw [none]
        split_ifs with lists unowned
        · exact Nat.le_refl 1
        · exact absurd (announced id owner lists).2 unowned
        · exact Nat.zero_le _
        · exact Nat.zero_le _
      · rw [sameOwner id touched, if_neg fun lists => touched (announced id owner lists).1]
        omega
  | list listedId listedOwner connections _ _ light =>
      rw [light.lists, if_neg (by simp)]
      unfold ConnectionManager.ownerOf at here ⊢
      rw [connections]
      omega
  | unlist entries connections _ lists =>
      unfold ConnectionManager.ownerOf at here ⊢
      rw [lists, connections]
      exact here

theorem wellFormed (step : BookStep others before after task task')
    (wellFormed : IndexWellFormed before.users) : IndexWellFormed after.users := by
  cases step with
  | quiet _ users | table _ _ _ users => rwa [users]
  | list id owner _ users =>
      rw [users]
      exact insertUserConnectionIndex_wellFormed _ owner id wellFormed
  | unlist entries _ users =>
      rw [users]
      exact removeUserConnectionEntries_wellFormed entries wellFormed

/-- An index entry without a table entry is about to be removed. -/
theorem covered (step : BookStep others before after task task') {pending : DeviceOwner → String → Nat}
    (wellFormed : IndexWellFormed before.users)
    (agreed : ∀ owner id, task.listing owner id + total (Task.listing owner id) others ≤
      before.owns owner id)
    (covered : ∀ owner id, before.listed owner id ≤
      before.owns owner id + (task.removing owner id + pending owner id))
    (owner : DeviceOwner) (id : String) :
    after.listed owner id ≤ after.owns owner id + (task'.removing owner id + pending owner id) := by
  have here := covered owner id
  unfold ConnectionManager.listed at here ⊢
  cases step with
  | quiet sameOwner users _ _ removing =>
      unfold ConnectionManager.owns at here ⊢
      rw [sameOwner, users, removing]
      exact here
  | table ids _ _ users _ owns _ =>
      have change := owns owner id
      rw [users]
      omega
  | list listedId listedOwner connections users lists light _ removing =>
      rw [users, listedIn_insertUserConnectionIndex _ _ _ wellFormed,
        ConnectionManager.owns_congr connections, light.removing]
      rw [removing] at here
      split_ifs with new
      · obtain ⟨rfl, rfl⟩ := new
        have announced := agreed owner id
        have own : task.listing owner id = 1 := if_pos lists
        omega
      · exact here
  | unlist entries connections users _ _ removing =>
      have change := removing owner id
      rw [users, listedIn_removeUserConnectionEntries, ConnectionManager.owns_congr connections]
      split_ifs with removed
      · exact Nat.zero_le _
      · rw [List.count_eq_zero_of_not_mem removed] at change
        omega

/-- Nothing is missing from the index but what is about to be inserted, provided that an
entry is never inserted while a removal without lock is about to delete it. -/
theorem balanced (step : BookStep others before after task task')
    (wellFormed : IndexWellFormed before.users)
    (exclusive : ∀ shard, task.holding shard + total (Task.holding shard) others ≤ 1)
    (agreed : ∀ owner id, task.listing owner id + total (Task.listing owner id) others ≤
      before.owns owner id)
    (clear : ∀ owner id, task.indexes = some (owner, id) →
      total (fun other => other.unlockedRemoving owner id) others = 0)
    (balanced : ∀ owner id, before.listed owner id +
        (task.inserting owner id + total (fun other => other.inserting owner id) others) =
      before.owns owner id +
        (task.removing owner id + total (fun other => other.removing owner id) others))
    (owner : DeviceOwner) (id : String) :
    after.listed owner id +
        (task'.inserting owner id + total (fun other => other.inserting owner id) others) =
      after.owns owner id +
        (task'.removing owner id + total (fun other => other.removing owner id) others) := by
  have here := balanced owner id
  have atMostOne := listedIn_le_one wellFormed owner id
  have owned := before.owns_le_one owner id
  unfold ConnectionManager.listed at here ⊢
  cases step with
  | quiet sameOwner users _ inserting removing =>
      unfold ConnectionManager.owns at here ⊢
      rw [sameOwner, users, inserting, removing]
      exact here
  | table ids _ _ users inserting owns _ =>
      have change := owns owner id
      rw [inserting] at here
      rw [users]
      omega
  | list listedId listedOwner connections users lists light inserting removing =>
      rw [users, listedIn_insertUserConnectionIndex _ _ _ wellFormed,
        ConnectionManager.owns_congr connections, light.inserting, light.removing]
      rw [removing] at here
      split_ifs with new
      · obtain ⟨rfl, rfl⟩ := new
        have isFree : free others id = true := free_of_holds exclusive (Task.holds_of_lists lists)
        have announced := agreed owner id
        have own : task.listing owner id = 1 := if_pos lists
        have others_inserting : total (fun other => other.inserting owner id) others = 0 := by
          have bound := total_le_total (fun other => Task.inserting_le_listing other owner id) others
          rw [listing_eq_zero_of_free isFree owner] at bound
          exact Nat.le_zero.mp bound
        rcases inserting with ⟨indexes, owed⟩ | listedAlready
        · -- the entry was missing: a removal that could have kept it is excluded
          have mine : task.inserting owner id = 1 := by
            rw [owed]
            exact if_pos ⟨rfl, rfl⟩
          have others_removing : total (fun other => other.removing owner id) others = 0 := by
            have locked := lockedRemoving_eq_zero_of_free isFree owner
            have unlocked := clear owner id indexes
            have split := total_add (fun other => Task.lockedRemoving other owner id)
              (fun other => Task.unlockedRemoving other owner id) others
            rw [locked, unlocked] at split
            exact split
          omega
        · rw [listedAlready] at here
          omega
      · have mine : task.inserting owner id = 0 := by
          rcases inserting with ⟨-, owed⟩ | listedAlready
          · rw [owed]
            refine if_neg ?_
            rintro ⟨sameOwner, sameId⟩
            exact new ⟨(Option.some.inj sameOwner).symm, sameId.symm⟩
          · exact listedAlready owner id
        rw [mine] at here
        exact here
  | unlist entries connections users lists inserting removing =>
      have change := removing owner id
      have announced := agreed owner id
      have own := task.inserting_le_listing owner id
      have others_inserting := total_le_total
        (fun other => Task.inserting_le_listing other owner id) others
      rw [users, listedIn_removeUserConnectionEntries, ConnectionManager.owns_congr connections,
        inserting]
      split_ifs with removed
      · have counted := List.count_pos_iff.mpr removed
        omega
      · rw [List.count_eq_zero_of_not_mem removed] at change
        omega

end BookStep

/-- The user counter stays ahead of the index by the owners that batches have emptied. -/
theorem Action.userCount (action : Action shared others task shared' task') (pending : Nat)
    (counted : shared.manager.userCount =
      UInt64.ofNat (shared.manager.users.size + (task.emptied + pending))) :
    shared'.manager.userCount =
      UInt64.ofNat (shared'.manager.users.size + (task'.emptied + pending)) := by
  cases action with
  | idle light =>
      rw [light.after.emptied, ← light.before.emptied]
      exact counted
  | refresh group now _ light =>
      obtain ⟨-, -, -, users, userCount, -⟩ := shared.manager.touchGroup_books group now
      rw [Shared.with_manager, userCount, users, light.after.emptied, ← light.before.emptied]
      exact counted
  | enqueue light _ users _ userCount =>
      rw [userCount, users, light.after.emptied, ← light.before.emptied]
      exact counted
  | insert call => cases (call.info shared.clock).owner <;> exact counted
  | list call owner =>
      exact ConnectionManager.userCount_insertUserConnection counted owner call.connectionId
  | release id owner resume => cases owner <;> cases resume <;> exact counted
  | unlist id owner resume =>
      rw [(Task.Light.of_isLight (Task.isLight_afterRemoval resume (.ok ()))).emptied]
      exact ConnectionManager.userCount_removeUserConnection counted owner id
  | registryRelease id owner => cases owner <;> exact counted
  | registryUnlist id owner =>
      exact ConnectionManager.userCount_removeUserConnection counted owner id
  | batchTake timeout group groups removed =>
      obtain ⟨users, userCount, -⟩ :=
        ConnectionManager.takeEntries_frame shared.manager removed group
      rw [Shared.with_manager, userCount, users]
      exact counted
  | batchUnlist group groups emptied ids =>
      have size := size_removeUserConnectionEntries shared.manager.users group
      refine counted.trans (congrArg UInt64.ofNat ?_)
      simp only [Shared.with_manager, ConnectionManager.removeIndexEntries, Task.emptied]
      omega
  | batchCount emptied ids =>
      simp only [Shared.with_manager, ConnectionManager.releaseUsers, Task.emptied] at counted ⊢
      have regrouped : shared.manager.users.size + (emptied + pending) =
          shared.manager.users.size + (0 + pending) + emptied := by omega
      rw [counted, regrouped, UInt64.ofNat_add _ emptied, UInt64.add_sub_cancel]
  | write id update entry =>
      unfold afterUpdate
      split <;> exact counted
  | reindexUnlist id before after =>
      cases after <;> exact ConnectionManager.userCount_removeUserConnection counted before id
  | reindexList id owed after =>
      exact ConnectionManager.userCount_insertUserConnection counted after id
  | _ => exact counted

/-! ## Every interleaving -/

/-- What holds in every state of every interleaving. -/
structure Books (pool : Pool Shared Task) : Prop where
  exclusive : ∀ shard, total (Task.holding shard) pool.tasks ≤ 1
  agreed : ∀ owner id, total (Task.listing owner id) pool.tasks ≤
    pool.memory.manager.owns owner id
  wellFormed : IndexWellFormed pool.memory.manager.users
  covered : ∀ owner id, pool.memory.manager.listed owner id ≤ pool.memory.manager.owns owner id +
    total (fun task => task.removing owner id) pool.tasks
  userCount : pool.memory.manager.userCount =
    UInt64.ofNat (pool.memory.manager.users.size + total Task.emptied pool.tasks)

variable {allowed : Pool Shared Task → Move Call Bool Happening → Prop}
  {before after : Pool Shared Task}

theorem Books.initial (writeQueueCapacity : Nat) (clock : Instant) :
    Books (initialPool writeQueueCapacity clock) := by
  have settled := ConnectionManager.Settled.new writeQueueCapacity
  exact ⟨fun _ => Nat.zero_le _, fun _ _ => Nat.zero_le _, settled.wellFormed,
    fun owner id => (settled.listed owner id).le, settled.userCount⟩

theorem Books.step (step : managerMachine.Allowed allowed before after) (books : Books before) :
    Books after := by
  refine Machine.step_preserves ?_ ?_ ?_ step books
  · intro memory tasks call _ books
    have light := Task.Light.of_isLight (Task.isLight_startCall tasks.length call)
    refine ⟨?_, ?_, books.wellFormed, ?_, ?_⟩
    · intro shard
      have idle : (startCall tasks.length call).holding shard = 0 := by
        rw [Task.holding, light.holds, if_neg (by simp)]
      simpa [managerMachine, idle] using books.exclusive shard
    · intro owner id
      have idle : (startCall tasks.length call).listing owner id = 0 := by
        rw [Task.listing, light.lists, if_neg (by simp)]
      simpa [managerMachine, idle] using books.agreed owner id
    · intro owner id
      simpa [managerMachine, light.removing] using books.covered owner id
    · simpa [managerMachine, light.emptied] using books.userCount
  · intro memory earlier task later choice memory' task' _ books moved
    have action := action_of_advance moved
    obtain ⟨exclusive, agreed, wellFormed, covered, userCount⟩ := books
    simp only [total_append_cons] at exclusive agreed covered userCount
    refine ⟨?_, ?_, action.bookStep.wellFormed wellFormed, ?_, ?_⟩
    · intro shard
      simpa only [total_append_cons] using action.exclusive shard (exclusive shard)
    · intro owner id
      simpa only [total_append_cons] using action.bookStep.agreed agreed owner id
    · intro owner id
      simpa only [total_append_cons] using
        action.bookStep.covered wellFormed agreed covered owner id
    · simpa only [total_append_cons] using action.userCount _ userCount
  · intro memory tasks event _ books
    cases event <;>
      exact ⟨books.exclusive, books.agreed, books.wellFormed, books.covered, books.userCount⟩

/-- The index lists the table, but for the entries that calls in progress still owe it. -/
def Balanced (pool : Pool Shared Task) : Prop :=
  ∀ owner id, pool.memory.manager.listed owner id +
      total (fun task => task.inserting owner id) pool.tasks =
    pool.memory.manager.owns owner id + total (fun task => task.removing owner id) pool.tasks

/-- No task inserts an index entry that a removal without lock is still about to delete. -/
def InsertionsClear (pool : Pool Shared Task) : Move Call Bool Happening → Prop
  | .advance index _ => ∀ task ∈ pool.tasks[index]?, ∀ entry ∈ task.indexes,
      ∀ other ∈ pool.tasks, other.unlockedRemoving entry.1 entry.2 = 0
  | .call _ | .environment _ => True

instance decidableInsertionsClear (pool : Pool Shared Task) :
    ∀ move, Decidable (InsertionsClear pool move)
  | .advance index _ => inferInstanceAs (Decidable (∀ task ∈ pool.tasks[index]?,
      ∀ entry ∈ task.indexes, ∀ other ∈ pool.tasks, other.unlockedRemoving entry.1 entry.2 = 0))
  | .call _ | .environment _ => isTrue trivial

theorem Balanced.step (step : managerMachine.Allowed InsertionsClear before after)
    (books : Books before) (balanced : Balanced before) : Balanced after := by
  refine Machine.step_preserves_given ?_ ?_ ?_ step books balanced
  · intro memory tasks call _ _ balanced owner id
    have light := Task.Light.of_isLight (Task.isLight_startCall tasks.length call)
    simpa [managerMachine, light.inserting, light.removing] using balanced owner id
  · intro memory earlier task later choice memory' task' clear books balanced moved
    obtain ⟨exclusive, agreed, wellFormed, -, -⟩ := books
    simp only [Balanced, total_append_cons] at exclusive agreed balanced ⊢
    refine (action_of_advance moved).bookStep.balanced wellFormed exclusive agreed ?_ balanced
    intro owner id indexes
    refine total_eq_zero.mpr ?_
    intro other member
    exact clear task (getElem?_append_cons_self ..) (owner, id) indexes other
      (mem_append_cons.mpr (Or.inr member))
  · intro memory tasks event _ _ balanced
    cases event <;> exact balanced

/-- Once every call has returned, nothing is owed. -/
theorem total_eq_zero_of_returned {weight : Task → Nat} {tasks : List Task}
    (returned : ∀ task ∈ tasks, task.isReturned = true)
    (light : ∀ task : Task, task.Light → weight task = 0) : total weight tasks = 0 := by
  refine total_eq_zero.mpr ?_
  intro task member
  exact light task (.of_isReturned (returned task member))

/-- **Interleaved calls leave the manager consistent.**  In every run in which no call
inserts an index entry that a removal without lock is still about to delete, the manager is
consistent whenever all calls have returned. -/
theorem consistent_of_interleaving {writeQueueCapacity : Nat} {clock : Instant}
    {pool : Pool Shared Task}
    (reached : managerMachine.Reaches InsertionsClear (initialPool writeQueueCapacity clock) pool)
    (returned : ∀ task ∈ pool.tasks, task.isReturned = true) :
    pool.memory.manager.Consistent := by
  have start := ConnectionManager.Settled.new writeQueueCapacity
  obtain ⟨counted, books, balanced⟩ : SlotsCounted pool ∧ Books pool ∧ Balanced pool := by
    refine System.Reaches.invariant
      (I := fun pool => SlotsCounted pool ∧ Books pool ∧ Balanced pool) reached
      ⟨start.connectionCount, Books.initial _ _, start.listed⟩ ?_
    intro before after step ⟨counted, books, balanced⟩
    exact ⟨counted.step step, books.step step, balanced.step step books⟩
  have settled : pool.memory.manager.Settled := by
    refine ⟨books.wellFormed, ?_, ?_, ?_⟩
    · intro owner id
      have here := balanced owner id
      rwa [total_eq_zero_of_returned returned fun _ light => light.inserting owner id,
        total_eq_zero_of_returned returned fun _ light => light.removing owner id] at here
    · have here := counted
      rwa [SlotsCounted, total_eq_zero_of_returned returned fun _ light => light.slots] at here
    · have here := books.userCount
      rwa [total_eq_zero_of_returned returned fun _ light => light.emptied] at here
  exact settled.consistent

end Interleaving

/-! ## Concrete runs -/

section Run

open scoped SingleShard

/-- A connection of alice leaves the table through the registry, and an add of the same id
gets as far as the insertion into the table; `rest` decides who edits the index first. -/
def readdMoves (rest : List (Move Call Bool Happening)) : List (Move Call Bool Happening) :=
  [.call (.addConnectionWithLimit "c" (some "alice") false 10),
    .advance 0 false, .advance 0 false, .advance 0 false, .advance 0 false,
    .call (.registryRemoveConnection "c"), .advance 1 false,
    .call (.addConnectionWithLimit "c" (some "alice") false 10),
    .advance 2 false, .advance 2 false, .advance 2 false] ++ rest

/-- The removal edits the index before the new entry is inserted. -/
theorem consistent_of_interleaving_readded :
    ∃ pool, managerMachine.Reaches InsertionsClear (initialPool 8 0) pool ∧
      pool.memory.manager.ownerOf "c" = some (.new none "alice") ∧
      pool.memory.manager.Consistent := by
  have evaluated : ((managerMachine.run (initialPool 8 0) (readdMoves
      [.advance 1 false, .advance 1 false, .advance 2 false])).any fun pool =>
      decide ((∀ task ∈ pool.tasks, task.isReturned = true) ∧
        pool.memory.manager.ownerOf "c" = some (.new none "alice"))) = true := by
    decide +kernel
  obtain ⟨pool, reached, outcome⟩ := System.exists_reaches_of_run evaluated
    (by decide +kernel : managerMachine.Permits InsertionsClear (initialPool 8 0) _)
  obtain ⟨returned, owned⟩ := of_decide_eq_true outcome
  exact ⟨pool, reached, owned, consistent_of_interleaving reached returned⟩

/-- The new entry is inserted first, and the late removal deletes it. -/
theorem interleaving_loses_index_entry :
    ¬∀ pool, managerMachine.Reaches System.always (initialPool 8 0) pool →
      (∀ task ∈ pool.tasks, task.isReturned = true) → pool.memory.manager.Consistent := by
  intro claimed
  have evaluated : ((managerMachine.run (initialPool 8 0) (readdMoves
      [.advance 2 false, .advance 1 false, .advance 1 false])).any fun pool =>
      decide ((∀ task ∈ pool.tasks, task.isReturned = true) ∧
        pool.memory.manager.ownerOf "c" = some (.new none "alice") ∧
        pool.memory.manager.getUserConnections (.new none "alice") = [])) = true := by
    decide +kernel
  obtain ⟨pool, reached, outcome⟩ :=
    System.exists_reaches_of_run evaluated (System.permits_always _ _)
  obtain ⟨returned, owned, unlisted⟩ := of_decide_eq_true outcome
  have listed := (claimed pool reached returned).listed (.new none "alice") "c"
  rw [owned, unlisted, if_pos rfl] at listed
  cases listed

end Run

end FlareCore.Server

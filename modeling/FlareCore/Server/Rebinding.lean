import FlareCore.Foundations.Transition
import FlareCore.Server.Core
import FlareCore.Server.Connection.Consistency

/-!
# What the end of a negotiation writes back

`finalize_negotiation_after_ack` looks a connection up, waits for the pipeline of its profile,
and then writes the profile together with the user and the device that it has read at the
beginning.  The wait is a gap: an update of the same connection may be performed in it, and the
write then puts the older user back.  A device, a format or a compression that is written in the
gap is lost with it; only the user has an index that depends on it.  Each update holds the lock of
the connection's shard until the user index is edited, so between the two halves of a finalization
the updates are atomic.

`lost_bind` is such a run.  In every run in which a finalization that has read a user still
finds that user when it writes, each connection has the user that was set last, and is listed
under the owner that follows from it and nowhere else (`last_bind_kept`).
-/

namespace FlareCore.Server

open FlareCore.Common FlareCore.Foundations

set_option autoImplicit false

/-- The user that an update sets, if it sets one. -/
def InfoUpdate.sets : InfoUpdate → Option String
  | .bindUser userId => some userId
  | .setAuthenticated userId => userId
  | .negotiation profile _ | .negotiationWithPipeline profile _ _ => profile.userId

theorem InfoUpdate.userId_apply (update : InfoUpdate) (now : Instant) (info : ConnectionInfo) :
    (update.apply now info).userId = update.sets.or info.userId := by
  cases update <;> rfl

/-! ## Finalizations in progress -/

/-- A `finalize_negotiation_after_ack` between its read and its write. -/
structure Finalization where
  connectionId : String
  device : Option DeviceInfo
  userId : Option String
  profile : Profile

section Finalizing

variable [Hashing]

/-- The connections, and the finalizations that have read and not written yet. -/
structure Negotiating where
  manager : ConnectionManager
  finalizing : List Finalization

/-- An update is performed, or a finalization reads or writes. -/
inductive NegotiationMove where
  | update (connectionId : String) (update : InfoUpdate) (now : Instant)
  | read (connectionId : String) (profile : Profile)
  | write (index : Nat) (now : Instant)

namespace Negotiating

/-- A finalization of a connection that is not in the table returns at once. -/
def step (core : ServerCore) (state : Negotiating) : NegotiationMove → Option Negotiating
  | .update connectionId update now =>
      some { state with manager := (state.manager.updateConnection connectionId update now).1 }
  | .read connectionId profile =>
      match state.manager.connections.get connectionId with
      | none => some state
      | some entry =>
          some { state with finalizing := state.finalizing ++
            [⟨connectionId, entry.info.deviceInfo, entry.info.userId, profile⟩] }
  | .write index now =>
      (state.finalizing[index]?).map fun call =>
        { manager := state.manager.completeNegotiation core call.connectionId call.device
            call.userId call.profile now
          finalizing := state.finalizing.eraseIdx index }

end Negotiating

/-- Updates and finalizations in any order. -/
def negotiatingSystem (core : ServerCore) : System Negotiating NegotiationMove where
  step := Negotiating.step core

/-- The user of a connection in the table. -/
def ConnectionManager.userOf (manager : ConnectionManager) (id : String) : Option String :=
  (manager.connections.get id).bind fun entry => entry.info.userId

/-- The user that was set last, for each connection; finalizations set none of their own. -/
def recordBind (state : Negotiating) (move : NegotiationMove) (_ : Negotiating)
    (bound : String → Option String) : String → Option String :=
  match move with
  | .update id update _ =>
      if (state.manager.connections.get id).isSome then
        Function.update bound id (update.sets.or (bound id))
      else bound
  | .read _ _ | .write _ _ => bound

/-- A finalization that has read a user writes only while the connection has that user. -/
def WritesCurrentUser (state : Negotiating) : NegotiationMove → Prop
  | .write index _ => ∀ call ∈ state.finalizing[index]?, ∀ user ∈ call.userId,
      state.manager.userOf call.connectionId = some user
  | .update _ _ _ | .read _ _ => True

instance (state : Negotiating) : DecidablePred (WritesCurrentUser state)
  | .write index _ => inferInstanceAs (Decidable (∀ call ∈ state.finalizing[index]?, _))
  | .update _ _ _ | .read _ _ => isTrue trivial

/-! ## A finalization without interruption -/

/-- Read and write in one go are the finalization of the handshake. -/
theorem read_write_eq_finalize (core : ServerCore) (manager : ConnectionManager) (id : String)
    (profile : Profile) (now : Instant) (present : (manager.connections.get id).isSome) :
    (negotiatingSystem core).run ⟨manager, []⟩ [.read id profile, .write 0 now] =
      some ⟨manager.finalizeNegotiationAfterAck core id profile now, []⟩ := by
  obtain ⟨entry, found⟩ := Option.isSome_iff_exists.mp present
  simp only [System.run, negotiatingSystem, Negotiating.step, found, Option.bind_some,
    ConnectionManager.finalizeNegotiationAfterAck]
  rfl

/-! ## The user that was set last -/

namespace ConnectionManager

variable {manager : ConnectionManager} {id : String} {entry : ConnectionEntry}

theorem userOf_of_get (found : manager.connections.get id = some entry) :
    manager.userOf id = entry.info.userId := by
  rw [userOf, found, Option.bind_some]

/-- What an update makes of the users. -/
theorem userOf_updateConnection (manager : ConnectionManager) (id other : String)
    (update : InfoUpdate) (now : Instant) :
    (manager.updateConnection id update now).1.userOf other =
      if other = id ∧ (manager.connections.get id).isSome then update.sets.or (manager.userOf id)
      else manager.userOf other := by
  by_cases same : other = id
  · subst same
    cases found : manager.connections.get other with
    | none => simp [updateConnection, userOf, found]
    | some entry =>
        rw [userOf_of_get (get_updateConnection found update now), userOf_of_get found,
          InfoUpdate.userId_apply]
        simp
  · rw [userOf, get_updateConnection_of_ne same, if_neg fun both => same both.1, userOf]

end ConnectionManager

/-- The table is consistent, and its users are those that were set last. -/
structure LastBindKept (state : Negotiating × (String → Option String)) : Prop where
  settled : state.1.manager.Settled
  users : ∀ id, (state.1.manager.connections.get id).isSome → state.1.manager.userOf id = state.2 id

namespace LastBindKept

variable {state : Negotiating} {bound : String → Option String}

theorem update (kept : LastBindKept (state, bound)) (id : String) (update : InfoUpdate)
    (now : Instant) :
    LastBindKept ({ state with manager := (state.manager.updateConnection id update now).1 },
      recordBind state (.update id update now) state bound) where
  settled := kept.settled.updateConnection id update now
  users other present := by
    dsimp only at present ⊢
    rw [ConnectionManager.userOf_updateConnection, recordBind]
    by_cases same : other = id
    · subst same
      have before : (state.manager.connections.get other).isSome := by
        cases found : state.manager.connections.get other with
        | none => simp [ConnectionManager.updateConnection, found] at present
        | some entry => rfl
      rw [if_pos ⟨rfl, before⟩, if_pos before, Function.update_self, kept.users other before]
    · rw [if_neg fun both => same both.1]
      rw [ConnectionManager.get_updateConnection_of_ne same] at present
      rw [kept.users other present]
      split_ifs
      · rw [Function.update_of_ne same]
      · rfl

/-- **A finalization keeps the user that was set last exactly if it writes that user**, or
none. -/
theorem write_iff (kept : LastBindKept (state, bound)) (core : ServerCore) {call : Finalization}
    (present : (state.manager.connections.get call.connectionId).isSome) (now : Instant)
    (finalizing : List Finalization) :
    LastBindKept (⟨state.manager.completeNegotiation core call.connectionId call.device call.userId
        call.profile now, finalizing⟩, bound) ↔
      ∀ user ∈ call.userId, state.manager.userOf call.connectionId = some user := by
  have written : ∀ other, (state.manager.completeNegotiation core call.connectionId call.device
      call.userId call.profile now).userOf other =
        if other = call.connectionId ∧ (state.manager.connections.get call.connectionId).isSome then
          call.userId.or (state.manager.userOf call.connectionId)
        else state.manager.userOf other :=
    fun other => ConnectionManager.userOf_updateConnection ..
  have stillPresent : ∀ other, ((state.manager.completeNegotiation core call.connectionId
      call.device call.userId call.profile now).connections.get other).isSome ↔
        (state.manager.connections.get other).isSome := by
    intro other
    by_cases same : other = call.connectionId
    · subst same
      obtain ⟨entry, found⟩ := Option.isSome_iff_exists.mp present
      rw [ConnectionManager.completeNegotiation,
        ConnectionManager.updateConnectionNegotiationWithPipeline,
        ConnectionManager.get_updateConnection found, found]
      simp
    · rw [ConnectionManager.completeNegotiation,
        ConnectionManager.updateConnectionNegotiationWithPipeline,
        ConnectionManager.get_updateConnection_of_ne same]
  constructor
  · intro after user isUser
    have same := after.users call.connectionId ((stillPresent _).mpr present)
    rw [written, if_pos ⟨rfl, present⟩, isUser, Option.some_or] at same
    rw [kept.users call.connectionId present, same]
  · intro current
    refine ⟨kept.settled.updateConnection _ _ _, fun other isPresent => ?_⟩
    rw [written]
    split_ifs with here
    · obtain ⟨rfl, -⟩ := here
      rw [← kept.users call.connectionId present]
      cases isUser : call.userId with
      | none => rfl
      | some user => exact (current user isUser).symm
    · exact kept.users other ((stillPresent other).mp isPresent)

theorem step {core : ServerCore} {move : NegotiationMove} {next : Negotiating}
    (kept : LastBindKept (state, bound)) (current : WritesCurrentUser state move)
    (stepped : state.step core move = some next) :
    LastBindKept (next, recordBind state move next bound) := by
  cases move with
  | update id update now =>
      obtain rfl := Option.some.inj stepped
      exact kept.update id update now
  | read id profile =>
      simp only [Negotiating.step] at stepped
      split at stepped
      · obtain rfl := Option.some.inj stepped
        exact kept
      · obtain rfl := Option.some.inj stepped
        exact ⟨kept.settled, kept.users⟩
  | write index now =>
      obtain ⟨call, isCall, rfl⟩ := Option.map_eq_some_iff.mp stepped
      cases found : state.manager.connections.get call.connectionId with
      | none =>
          have unchanged : state.manager.completeNegotiation core call.connectionId call.device
              call.userId call.profile now = state.manager := by
            simp only [ConnectionManager.completeNegotiation,
              ConnectionManager.updateConnectionNegotiationWithPipeline,
              ConnectionManager.updateConnection, found]
          rw [unchanged]
          exact ⟨kept.settled, kept.users⟩
      | some entry =>
          have present : (state.manager.connections.get call.connectionId).isSome := by
            rw [found, Option.isSome_some]
          exact (kept.write_iff core present now _).mpr (current call isCall)

end LastBindKept

/-- **No bind is lost in a run whose finalizations write the user that the connection still
has**: in every state reached, a connection has the user that was set last, its owner is that
user in the connection's tenant, and it is listed under this owner once and nowhere else. -/
theorem last_bind_kept (core : ServerCore) (writeQueueCapacity : Nat)
    (operations : List Operation) {state : Negotiating}
    {bound : String → Option String}
    (reached : ((negotiatingSystem core).recording recordBind).Reaches
      (fun state move => WritesCurrentUser state.1 move)
      (⟨operations.foldl Operation.perform (.new writeQueueCapacity), []⟩,
        ConnectionManager.userOf (operations.foldl Operation.perform (.new writeQueueCapacity)))
      (state, bound))
    {id : String} {entry : ConnectionEntry}
    (found : state.manager.connections.get id = some entry) :
    entry.info.userId = bound id ∧
      entry.info.owner =
        (bound id).map (DeviceOwner.new (entry.info.metadata.lookup "tenant_id")) ∧
      ∀ owner, (state.manager.getUserConnections owner).count id =
        if entry.info.owner = some owner then 1 else 0 := by
  have kept : LastBindKept (state, bound) := by
    refine System.Reaches.invariant (I := LastBindKept) reached ⟨?_, fun _ _ => rfl⟩ ?_
    · exact (ConnectionManager.Settled.new writeQueueCapacity).performAll operations
    · rintro ⟨before, earlier⟩ ⟨after, later⟩ ⟨move, current, stepped⟩ kept
      obtain ⟨taken, recorded⟩ := System.recording_step_eq_some stepped
      dsimp only at taken recorded current
      rw [recorded]
      exact kept.step current taken
  have user : entry.info.userId = bound id := by
    rw [← ConnectionManager.userOf_of_get found]
    refine kept.users id ?_
    rw [found, Option.isSome_some]
  have owned : state.manager.ownerOf id = entry.info.owner := by
    rw [ConnectionManager.ownerOf, found, Option.bind_some]
  refine ⟨user, ?_, fun owner => ?_⟩
  · rw [ConnectionInfo.owner, user]
  · rw [kept.settled.consistent.listed, owned]

end Finalizing

/-! ## Concrete runs -/

section Runs

open scoped SingleShard

/-- A server core without authentication. -/
def plainCore : ServerCore where
  defaultSerializationFormat := .json
  defaultCompression := .none
  defaultEncryption := .none
  authConfigured := false
  authenticator := none
  pipelineForNegotiationProfile := fun _ => none

/-- A manager with one connection, of alice. -/
def connectionOfAlice : ConnectionManager :=
  [Operation.addConnection "c" 0 (some "alice") false 0].foldl Operation.perform (.new 8)

/-- The user that was set last, the user in the table, and how often the connection is listed
under each of the two. -/
def bindings (state : Negotiating × (String → Option String)) :
    Option String × Option String × Nat × Nat :=
  (state.2 "c", state.1.manager.userOf "c",
    (state.1.manager.getUserConnections ⟨"0", "alice"⟩).count "c",
    (state.1.manager.getUserConnections ⟨"0", "bob"⟩).count "c")

/-- The user is bound before the finalization reads it: the theorem applies. -/
theorem last_bind_kept_before_read :
    ∃ state bound, ((negotiatingSystem plainCore).recording recordBind).Reaches
        (fun state move => WritesCurrentUser state.1 move)
        (⟨connectionOfAlice, []⟩, connectionOfAlice.userOf) (state, bound) ∧
      bound "c" = some "bob" ∧ ∃ entry, state.manager.connections.get "c" = some entry ∧
        entry.info.userId = some "bob" := by
  have run : (((negotiatingSystem plainCore).recording recordBind).run
      (⟨connectionOfAlice, []⟩, connectionOfAlice.userOf)
      [.update "c" (.bindUser "bob") 0, .read "c" ⟨.json, .none, .none⟩, .write 0 0]).any
      (fun state => decide (state.2 "c" = some "bob") &&
        (state.1.manager.connections.get "c").isSome) = true := by
    decide +kernel
  have permitted : ((negotiatingSystem plainCore).recording recordBind).Permits
      (fun state move => WritesCurrentUser state.1 move)
      (⟨connectionOfAlice, []⟩, connectionOfAlice.userOf)
      [.update "c" (.bindUser "bob") 0, .read "c" ⟨.json, .none, .none⟩, .write 0 0] := by
    decide +kernel
  obtain ⟨⟨state, bound⟩, reached, holds⟩ := System.exists_reaches_of_run run permitted
  simp only [Bool.and_eq_true, decide_eq_true_eq] at holds
  obtain ⟨entry, found⟩ := Option.isSome_iff_exists.mp holds.2
  have kept := last_bind_kept plainCore 8 [.addConnection "c" 0 (some "alice") false 0] reached
    found
  exact ⟨state, bound, reached, holds.1, entry, found, kept.1.trans holds.1⟩

/-- **A bind between the read and the write of a finalization is lost**: bob is bound last, but
the connection has alice again, and is listed under her. -/
theorem lost_bind :
    ∃ state bound, ((negotiatingSystem plainCore).recording recordBind).Reaches System.always
        (⟨connectionOfAlice, []⟩, connectionOfAlice.userOf) (state, bound) ∧
      bound "c" = some "bob" ∧ state.manager.userOf "c" = some "alice" ∧
      (state.manager.getUserConnections ⟨"0", "alice"⟩).count "c" = 1 ∧
      (state.manager.getUserConnections ⟨"0", "bob"⟩).count "c" = 0 := by
  have run : (((negotiatingSystem plainCore).recording recordBind).run
      (⟨connectionOfAlice, []⟩, connectionOfAlice.userOf)
      [.read "c" ⟨.json, .none, .none⟩, .update "c" (.bindUser "bob") 0, .write 0 0]).any
      (fun state => decide (bindings state = (some "bob", some "alice", 1, 0))) = true := by
    decide +kernel
  obtain ⟨⟨state, bound⟩, reached, holds⟩ :=
    System.exists_reaches_of_run run (System.permits_always _ _)
  simp only [bindings, decide_eq_true_eq, Prod.mk.injEq] at holds
  exact ⟨state, bound, reached, holds⟩

end Runs

end FlareCore.Server

import FlareCore.Foundations.Transition
import Mathlib.Tactic.Tauto

/-!
# Locks that are handed over

A lock whose holder may pass it on when it lets go, and which nobody can take once it was passed to
someone who is gone.  A system is described by such a lock when every step of it is a step of the
lock, and a condition on state and move says which steps lose it (`Tracks`).

`Tracks.run` is the rule for a run: the lock has gone through steps of its own, and it is lost
exactly if one of the steps taken was one that loses it.
-/

namespace FlareCore.Foundations

set_option autoImplicit false

universe u v

/-- Who has a lock.  A lost lock is taken and has no holder. -/
inductive HandedLock (Caller : Type v) where
  | free
  | held (caller : Caller)
  | lost

namespace HandedLock

/-- What a step can do to a lock. -/
inductive Step {Caller : Type v} : HandedLock Caller → HandedLock Caller → Prop where
  | stay (lock : HandedLock Caller) : Step lock lock
  | take (caller : Caller) : Step .free (.held caller)
  | hand (caller next : Caller) : Step (.held caller) (.held next)
  | release (caller : Caller) : Step (.held caller) .free
  | lose (caller : Caller) : Step (.held caller) .lost

variable {Caller : Type v}

/-- A lost lock is lost for good. -/
theorem Step.lost {after : HandedLock Caller} (step : Step lost after) : after = lost := by
  cases step with
  | stay => rfl

/-- The states of a system show who has the lock, and `loses` says which steps lose it. -/
structure Tracks {State Move : Type u} (S : System State Move)
    (shows : State → HandedLock Caller → Prop) (loses : State → Move → Prop) : Prop where
  step : ∀ {before after : State} {move : Move} {lock : HandedLock Caller}, shows before lock →
    S.step before move = some after →
      ∃ next, shows after next ∧ Step lock next ∧ (next = .lost ↔ lock = .lost ∨ loses before move)

/-- **The lock in a run**: it is lost exactly if one of the steps loses it. -/
theorem Tracks.run {State Move : Type u} {S : System State Move}
    {shows : State → HandedLock Caller → Prop} {loses : State → Move → Prop}
    (tracks : Tracks S shows loses) {start finish : State} {moves : List Move}
    {lock : HandedLock Caller} (shown : shows start lock)
    (evaluated : S.run start moves = some finish) :
    ∃ last, shows finish last ∧ Relation.ReflTransGen Step lock last ∧
      (last = .lost ↔ lock = .lost ∨ ¬ S.Permits (fun state move => ¬ loses state move)
        start moves) := by
  induction moves generalizing start lock with
  | nil =>
      obtain rfl := Option.some.inj evaluated
      refine ⟨lock, shown, .refl, ?_⟩
      simp [System.Permits]
  | cons move moves inductionHypothesis =>
      obtain ⟨next, stepped, rest⟩ := Option.bind_eq_some_iff.mp evaluated
      obtain ⟨middle, shownNext, taken, lostNow⟩ := tracks.step shown stepped
      obtain ⟨last, shownLast, steps, lostLater⟩ := inductionHypothesis shownNext rest
      refine ⟨last, shownLast, .head taken steps, ?_⟩
      have split : S.Permits (fun state move => ¬ loses state move) start (move :: moves) ↔
          ¬ loses start move ∧ S.Permits (fun state move => ¬ loses state move) next moves := by
        simp [System.Permits, stepped]
      rw [lostLater, lostNow, split]
      tauto

end HandedLock

end FlareCore.Foundations

import FlareCore.Foundations.Transition
import Mathlib.Tactic.SplitIfs

/-!
# Switching the encoding on an ordered channel

Several writers share an encoding and an ordered channel.  A writer encodes a message with the
encoding in use, holds it, and posts it some time later; nothing orders two writers.  At some
time the encoding is switched, and after that the switch is announced on the channel by a mark.
Up to the mark the reader takes both encodings.  Afterwards it may refuse the old one.

A message is lost exactly if it was encoded before the switch and is posted after the mark
(`Switching.Late`), which the writers cannot see.  `Switching.Shows.run` carries this over to a
system whose steps are steps of the writers, steps of the reader, or neither.
-/

namespace FlareCore.Foundations

set_option autoImplicit false

universe u

inductive Encoding where
  | old
  | new
  deriving DecidableEq

/-- What is on the channel. -/
inductive Posting (Message : Type u) where
  | mark
  | message (encoding : Encoding) (message : Message)

namespace Posting

variable {Message : Type u}

def isMark : Posting Message → Bool
  | mark => true
  | message _ _ => false

/-- The messages that were posted. -/
def messages : List (Posting Message) → List Message
  | [] => []
  | mark :: rest => messages rest
  | message _ text :: rest => text :: messages rest

/-- The messages that a reader takes, who refuses the old encoding after the mark or does not. -/
def taken (refuses : Bool) : Bool → List (Posting Message) → List Message
  | _, [] => []
  | _, mark :: rest => taken refuses true rest
  | marked, message encoding text :: rest =>
      if refuses ∧ marked ∧ encoding = .old then taken refuses marked rest
      else text :: taken refuses marked rest

/-- The messages posted after the mark in the old encoding. -/
def stale : Bool → List (Posting Message) → List Message
  | _, [] => []
  | _, mark :: rest => stale true rest
  | marked, message encoding text :: rest =>
      if marked ∧ encoding = .old then text :: stale marked rest else stale marked rest

theorem messages_append (first second : List (Posting Message)) :
    messages (first ++ second) = messages first ++ messages second := by
  induction first with
  | nil => rfl
  | cons posting first inductionHypothesis =>
      cases posting with
      | mark => exact inductionHypothesis
      | message encoding text => exact congrArg (text :: ·) inductionHypothesis

theorem taken_append (refuses marked : Bool) (first second : List (Posting Message)) :
    taken refuses marked (first ++ second) =
      taken refuses marked first ++ taken refuses (marked || first.any isMark) second := by
  induction first generalizing marked with
  | nil => rw [List.any_nil, Bool.or_false, List.nil_append, taken, List.nil_append]
  | cons posting first inductionHypothesis =>
      cases posting with
      | mark =>
          rw [List.cons_append, taken, taken, inductionHypothesis]
          simp [isMark]
      | message encoding text =>
          rw [List.cons_append, taken, taken, inductionHypothesis]
          simp only [List.any_cons, isMark, Bool.false_or]
          split_ifs <;> rfl

theorem stale_append (marked : Bool) (first second : List (Posting Message)) :
    stale marked (first ++ second) =
      stale marked first ++ stale (marked || first.any isMark) second := by
  induction first generalizing marked with
  | nil => rw [List.any_nil, Bool.or_false, List.nil_append, stale, List.nil_append]
  | cons posting first inductionHypothesis =>
      cases posting with
      | mark =>
          rw [List.cons_append, stale, stale, inductionHypothesis]
          simp [isMark]
      | message encoding text =>
          rw [List.cons_append, stale, stale, inductionHypothesis]
          simp only [List.any_cons, isMark, Bool.false_or]
          split_ifs <;> rfl

/-- A reader takes messages in the order in which they were posted, and each of them once. -/
theorem taken_sublist (refuses marked : Bool) (posted : List (Posting Message)) :
    (taken refuses marked posted).Sublist (messages posted) := by
  induction posted generalizing marked with
  | nil => exact .slnil
  | cons posting posted inductionHypothesis =>
      cases posting with
      | mark => exact inductionHypothesis true
      | message encoding text =>
          rw [taken, messages]
          split_ifs
          · exact (inductionHypothesis marked).cons text
          · exact (inductionHypothesis marked).cons_cons text

/-- A reader takes all that was posted and is not stale. -/
theorem length_taken (marked : Bool) (posted : List (Posting Message)) :
    (taken true marked posted).length + (stale marked posted).length =
      (messages posted).length := by
  induction posted generalizing marked with
  | nil => rfl
  | cons posting posted inductionHypothesis =>
      cases posting with
      | mark => exact inductionHypothesis true
      | message encoding text =>
          have rest := inductionHypothesis marked
          rw [taken, stale, messages]
          simp only [true_and]
          split_ifs <;> simp only [List.length_cons] <;> omega

theorem taken_of_stale_eq_nil {marked : Bool} {posted : List (Posting Message)}
    (fresh : stale marked posted = []) : taken true marked posted = messages posted := by
  induction posted generalizing marked with
  | nil => rfl
  | cons posting posted inductionHypothesis =>
      cases posting with
      | mark => exact inductionHypothesis fresh
      | message encoding text =>
          rw [stale] at fresh
          rw [taken, messages]
          simp only [true_and]
          split_ifs at fresh ⊢
          exact congrArg (text :: ·) (inductionHypothesis fresh)

/-- A reader who refuses nothing takes everything. -/
theorem taken_false (marked : Bool) (posted : List (Posting Message)) :
    taken false marked posted = messages posted := by
  induction posted generalizing marked with
  | nil => rfl
  | cons posting posted inductionHypothesis =>
      cases posting with
      | mark => exact inductionHypothesis true
      | message encoding text =>
          rw [taken, if_neg fun refused => Bool.false_ne_true refused.1, inductionHypothesis]
          rfl

/-- Everything is taken exactly if nothing is refused or nothing is stale. -/
theorem taken_eq_messages_iff (refuses : Bool) (posted : List (Posting Message)) :
    taken refuses false posted = messages posted ↔ refuses = false ∨ stale false posted = [] := by
  cases refuses with
  | false => exact iff_of_true (taken_false false posted) (.inl rfl)
  | true =>
      constructor
      · intro all
        have lengths := length_taken false posted
        rw [all] at lengths
        exact .inr (List.eq_nil_of_length_eq_zero (by omega))
      · rintro (impossible | fresh)
        · cases impossible
        · exact taken_of_stale_eq_nil fresh

end Posting

/-! ## The writers -/

/-- How far the switch has come. -/
inductive Progress where
  | before
  | switched
  | announced
  deriving DecidableEq

/-- The writers and the channel.  `held` is encoded and not yet posted. -/
structure Switching (Message : Type u) where
  progress : Progress
  held : List (Encoding × Message)
  posted : List (Posting Message)

namespace Switching

variable {Message : Type u}

/-- The encoding in use. -/
def encoding (state : Switching Message) : Encoding :=
  if state.progress = .before then .old else .new

inductive Move (Message : Type u) where
  | encode (message : Message)
  | post (index : Nat)
  | switch
  | announce

def step (state : Switching Message) : Move Message → Option (Switching Message)
  | .encode message => some { state with held := state.held ++ [(state.encoding, message)] }
  | .post index =>
      state.held[index]?.map fun item =>
        { state with
          held := state.held.eraseIdx index
          posted := state.posted ++ [.message item.1 item.2] }
  | .switch => if state.progress = .before then some { state with progress := .switched } else none
  | .announce =>
      if state.progress = .switched then
        some { state with progress := .announced, posted := state.posted ++ [.mark] }
      else none

def initial : Switching Message where
  progress := .before
  held := []
  posted := []

/-- A message in the old encoding is posted after the mark. -/
def Late (state : Switching Message) : Move Message → Prop
  | .post index =>
      state.progress = .announced ∧ ∃ message, state.held[index]? = some (.old, message)
  | _ => False

/-- The mark is on the channel when the switch was announced. -/
def Marked (state : Switching Message) : Prop :=
  state.posted.any Posting.isMark = decide (state.progress = .announced)

theorem marked_initial : (initial : Switching Message).Marked :=
  rfl

/-- Each step keeps the mark where it belongs, and leaves a message behind exactly if it is
late. -/
theorem step_spec {before after : Switching Message} {move : Move Message}
    (marked : before.Marked) (stepped : before.step move = some after) :
    after.Marked ∧ (Posting.stale false after.posted = [] ↔
      Posting.stale false before.posted = [] ∧ ¬before.Late move) := by
  cases move with
  | encode message =>
      obtain rfl := Option.some.inj stepped
      exact ⟨marked, (and_iff_left id).symm⟩
  | post index =>
      obtain ⟨⟨encoding, message⟩, isHeld, rfl⟩ := Option.map_eq_some_iff.mp stepped
      refine ⟨?_, ?_⟩
      · unfold Marked at marked ⊢
        simp [List.any_append, Posting.isMark, marked]
      · have late : before.Late (.post index) ↔
            before.progress = .announced ∧ encoding = .old := by
          simp only [Late, isHeld, Option.some.injEq, Prod.mk.injEq, exists_and_left,
            exists_eq', and_true]
        rw [Posting.stale_append, Bool.false_or, marked, late]
        simp only [Posting.stale, decide_eq_true_eq]
        split_ifs with isLate <;> simp [isLate]
  | switch =>
      simp only [step] at stepped
      split_ifs at stepped with early
      obtain rfl := Option.some.inj stepped
      refine ⟨?_, (and_iff_left id).symm⟩
      unfold Marked at marked ⊢
      rw [marked, early]
      rfl
  | announce =>
      simp only [step] at stepped
      split_ifs at stepped
      obtain rfl := Option.some.inj stepped
      refine ⟨?_, ?_⟩
      · simp [Marked, Posting.isMark]
      · rw [Posting.stale_append]
        simp [Posting.stale, Late]

/-! ## Systems in which writers switch -/

/-- A system shows writers that switch: every step of it is one of theirs or leaves them alone,
and `late` says which steps post a message late. -/
structure Shows {State Step : Type u} (S : System State Step)
    (shows : State → Switching Message → Prop) (permitted : State → Step → Prop)
    (late : State → Step → Prop) : Prop where
  step : ∀ {before after : State} {move : Step} {writers : Switching Message},
    shows before writers → permitted before move → S.step before move = some after →
      (shows after writers ∧ ¬late before move) ∨
      ∃ own next, writers.step own = some next ∧ shows after next ∧
        (late before move ↔ writers.Late own)

/-- **The switch in a run**: nothing posted is stale exactly if no step is late. -/
theorem Shows.run {State Step : Type u} {S : System State Step}
    {shows : State → Switching Message → Prop} {permitted late : State → Step → Prop}
    (described : Shows S shows permitted late) {start finish : State} {moves : List Step}
    {writers : Switching Message} (shown : shows start writers) (marked : writers.Marked)
    (allowed : S.Permits permitted start moves) (evaluated : S.run start moves = some finish) :
    ∃ last, shows finish last ∧ last.Marked ∧ (Posting.stale false last.posted = [] ↔
      Posting.stale false writers.posted = [] ∧
        S.Permits (fun state move => ¬late state move) start moves) := by
  induction moves generalizing start writers with
  | nil =>
      obtain rfl := Option.some.inj evaluated
      exact ⟨writers, shown, marked, (and_iff_left trivial).symm⟩
  | cons move moves inductionHypothesis =>
      obtain ⟨next, stepped, rest⟩ := Option.bind_eq_some_iff.mp evaluated
      have split : S.Permits (fun state move => ¬late state move) start (move :: moves) ↔
          ¬late start move ∧ S.Permits (fun state move => ¬late state move) next moves := by
        simp [System.Permits, stepped]
      obtain ⟨now, later⟩ := allowed
      rw [split]
      obtain ⟨still, onTime⟩ | ⟨own, middle, taken, shownNext, sameLate⟩ :=
        described.step shown now stepped
      · obtain ⟨last, shownLast, markedLast, fresh⟩ :=
          inductionHypothesis still marked (later next stepped) rest
        refine ⟨last, shownLast, markedLast, fresh.trans ?_⟩
        rw [and_iff_right onTime]
      · obtain ⟨markedNext, freshNext⟩ := step_spec marked taken
        obtain ⟨last, shownLast, markedLast, fresh⟩ :=
          inductionHypothesis shownNext markedNext (later next stepped) rest
        refine ⟨last, shownLast, markedLast, fresh.trans ?_⟩
        rw [freshNext, sameLate, and_assoc]

end Switching

end FlareCore.Foundations

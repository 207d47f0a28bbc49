import Mathlib.Algebra.Ring.Nat

/-!
# The heartbeat policy

A heartbeat policy has an interval for each state of the application, bounds for it and the idle
timeout of a NAT on the way.  `HeartbeatConfig.effectiveInterval` makes one interval of them, which
is always positive (`HeartbeatConfig.effectiveInterval_pos`).  Durations count nanoseconds.

The bounds have the last word.  They keep the interval in the range they describe, but the lower one
lifts it again above what the NAT allows (`HeartbeatConfig.effectiveInterval_sound_iff`).
-/

namespace FlareCore.Common

set_option autoImplicit false

/-! ## Durations -/

def durationOfMillis (millis : Nat) : Nat :=
  millis * 1000000

def durationOfSecs (secs : Nat) : Nat :=
  secs * 1000000000

def durationAsMillis (duration : Nat) : Nat :=
  duration / 1000000

/-- `Ord::clamp`, which panics unless its bounds are ordered. -/
def clamp (value low high : Nat) (_ : low ≤ high) : Nat :=
  if value < low then low else if high < value then high else value

theorem le_clamp {value low high : Nat} (ordered : low ≤ high) :
    low ≤ clamp value low high ordered := by
  rw [clamp]
  split
  · exact Nat.le_refl low
  · split <;> omega

theorem clamp_le {value low high : Nat} (ordered : low ≤ high) :
    clamp value low high ordered ≤ high := by
  rw [clamp]
  split
  · exact ordered
  · split <;> omega

/-- The lower bound is all that lifts a value. -/
theorem clamp_le_iff {value low high bound : Nat} (ordered : low ≤ high)
    (bounded : value ≤ bound) : clamp value low high ordered ≤ bound ↔ low ≤ bound := by
  refine ⟨Nat.le_trans (le_clamp ordered), fun lowBounded => ?_⟩
  rw [clamp]
  split
  · exact lowBounded
  · split <;> omega

/-- `Ord::clamp` with its panic, for which there is nothing. -/
def clampOrPanic (value low high : Nat) : Option Nat :=
  if ordered : low ≤ high then some (clamp value low high ordered) else none

theorem clampOrPanic_of_ordered (value : Nat) {low high : Nat} (ordered : low ≤ high) :
    clampOrPanic value low high = some (clamp value low high ordered) :=
  dif_pos ordered

/-! ## The policy -/

/-- The state of the application, as far as its heartbeat is concerned. -/
inductive HeartbeatAppState where
  | foreground
  | background
  deriving DecidableEq, Repr

structure HeartbeatConfig where
  interval : Nat
  timeout : Nat
  adaptive : Bool
  foregroundInterval : Option Nat
  backgroundInterval : Option Nat
  minInterval : Option Nat
  maxInterval : Option Nat
  natTimeout : Option Nat
  appState : HeartbeatAppState
  deriving DecidableEq, Repr

def positiveDuration (duration : Nat) : Nat :=
  if duration = 0 then durationOfMillis 1 else duration

theorem positiveDuration_pos (duration : Nat) : 0 < positiveDuration duration := by
  rw [positiveDuration]
  split
  · decide
  · omega

/-- At most 70% of the timeout, in whole milliseconds.  The multiplication saturates in 128 bits. -/
def natSafeInterval (timeout : Nat) : Nat :=
  let millis := min (durationAsMillis timeout * 70) (2 ^ 128 - 1) / 100
  durationOfMillis (clamp millis 1 (2 ^ 64 - 1) (by decide))

/-- `natSafeInterval` with the panic of its `clamp`. -/
def natSafeIntervalOrPanic (timeout : Nat) : Option Nat :=
  let millis := min (durationAsMillis timeout * 70) (2 ^ 128 - 1) / 100
  (clampOrPanic millis 1 (2 ^ 64 - 1)).map durationOfMillis

theorem natSafeInterval_returns (timeout : Nat) :
    natSafeIntervalOrPanic timeout = some (natSafeInterval timeout) := by
  rw [natSafeIntervalOrPanic, clampOrPanic_of_ordered _ (by decide)]
  rfl

/-- What the NAT allows: 70% of its timeout, but a millisecond at least. -/
def natBound (timeout : Nat) : Nat :=
  max (durationOfMillis 1) (timeout * 70 / 100)

/-- Rounding down to milliseconds and saturating only make the interval shorter. -/
theorem natSafeInterval_le_natBound (timeout : Nat) :
    natSafeInterval timeout ≤ natBound timeout := by
  have rounded : min (durationAsMillis timeout * 70) (2 ^ 128 - 1) / 100 * 1000000 ≤
      timeout * 70 / 100 := by
    have saturated : min (durationAsMillis timeout * 70) (2 ^ 128 - 1) / 100 ≤
        durationAsMillis timeout * 70 / 100 :=
      Nat.div_le_div_right (Nat.min_le_left _ _)
    rw [durationAsMillis] at *
    omega
  rw [natSafeInterval, natBound, durationOfMillis, durationOfMillis, clamp]
  split
  · exact Nat.le_max_left _ _
  · refine Nat.le_trans ?_ (Nat.le_max_right _ _)
    split
    · exact Nat.le_trans (Nat.mul_le_mul_right _ (by omega)) rounded
    · exact rounded

theorem natBound_lt {timeout : Nat} (longer : durationOfMillis 1 < timeout) :
    natBound timeout < timeout := by
  refine Nat.max_lt.mpr ⟨longer, ?_⟩
  omega

namespace HeartbeatConfig

/-- The defaults of the source. -/
def default : HeartbeatConfig where
  interval := durationOfSecs 30
  timeout := durationOfSecs 90
  adaptive := true
  foregroundInterval := none
  backgroundInterval := some (durationOfSecs 120)
  minInterval := some (durationOfSecs 15)
  maxInterval := some (durationOfSecs 120)
  natTimeout := none
  appState := .foreground

def effectiveInterval (config : HeartbeatConfig) : Nat :=
  if !config.adaptive then
    positiveDuration config.interval
  else
    let base := match config.appState with
      | .foreground => config.foregroundInterval.getD config.interval
      | .background => config.backgroundInterval.getD (durationOfSecs 120)
    let natLimited := (config.natTimeout.map natSafeInterval).getD (positiveDuration base)
    let candidate := min (positiveDuration base) natLimited
    let low := positiveDuration (config.minInterval.getD (min config.interval (durationOfSecs 15)))
    let high := max (config.maxInterval.getD (durationOfSecs 120)) low
    clamp candidate low high (Nat.le_max_right _ low)

/-- **The interval is positive**, whatever the policy. -/
theorem effectiveInterval_pos (config : HeartbeatConfig) : 0 < config.effectiveInterval := by
  rw [effectiveInterval]
  split
  · exact positiveDuration_pos config.interval
  · exact Nat.lt_of_lt_of_le (positiveDuration_pos _) (le_clamp _)

/-! ## What bounds the interval -/

/-- The interval for the state of the application. -/
def baseInterval (config : HeartbeatConfig) : Nat :=
  match config.appState with
  | .foreground => config.foregroundInterval.getD config.interval
  | .background => config.backgroundInterval.getD (durationOfSecs 120)

/-- The minimum that is configured, or else the default one, where zero counts as a
millisecond. -/
def minimum (config : HeartbeatConfig) : Nat :=
  positiveDuration (config.minInterval.getD (min config.interval (durationOfSecs 15)))

/-- The maximum that is configured, or else the default one. -/
def maximum (config : HeartbeatConfig) : Nat :=
  config.maxInterval.getD (durationOfSecs 120)

/-- The interval before the bounds are applied to it. -/
def candidate (config : HeartbeatConfig) : Nat :=
  min (positiveDuration config.baseInterval)
    ((config.natTimeout.map natSafeInterval).getD (positiveDuration config.baseInterval))

/-- `effectiveInterval` with the panics of its `clamp`s. -/
def effectiveIntervalOrPanic (config : HeartbeatConfig) : Option Nat :=
  if !config.adaptive then
    some (positiveDuration config.interval)
  else
    let natLimited := match config.natTimeout with
      | none => some (positiveDuration config.baseInterval)
      | some timeout => natSafeIntervalOrPanic timeout
    natLimited.bind fun natLimited =>
      clampOrPanic (min (positiveDuration config.baseInterval) natLimited) config.minimum
        (max config.maximum config.minimum)

theorem effectiveInterval_of_adaptive {config : HeartbeatConfig}
    (adaptive : config.adaptive = true) :
    config.effectiveInterval = clamp config.candidate config.minimum
      (max config.maximum config.minimum) (Nat.le_max_right _ _) := by
  rw [effectiveInterval, adaptive]
  rfl

/-- No `clamp` is called with bounds that contradict each other. -/
theorem effectiveInterval_returns (config : HeartbeatConfig) :
    config.effectiveIntervalOrPanic = some config.effectiveInterval := by
  cases adaptive : config.adaptive with
  | false =>
      rw [effectiveIntervalOrPanic, effectiveInterval, adaptive]
      rfl
  | true =>
      rw [effectiveIntervalOrPanic, effectiveInterval_of_adaptive adaptive, adaptive, candidate]
      cases config.natTimeout with
      | none => exact clampOrPanic_of_ordered _ (Nat.le_max_right _ _)
      | some timeout =>
          simp only [Bool.not_true, Bool.false_eq_true, if_false, natSafeInterval_returns timeout,
            Option.bind_some]
          exact clampOrPanic_of_ordered _ (Nat.le_max_right _ _)

theorem candidate_le_natBound {config : HeartbeatConfig} {timeout : Nat}
    (limited : config.natTimeout = some timeout) : config.candidate ≤ natBound timeout := by
  rw [candidate, limited]
  exact Nat.le_trans (Nat.min_le_right _ _) (natSafeInterval_le_natBound timeout)

/-- What the policy is for: an interval that is positive, that lies within the bounds as far as no
NAT is known, and that else comes before the NAT forgets the connection. -/
structure Sound (config : HeartbeatConfig) : Prop where
  returns : ∃ interval, config.effectiveIntervalOrPanic = some interval ∧ 0 < interval
  bounded : config.adaptive = true → config.natTimeout = none →
    config.minimum ≤ config.effectiveInterval ∧
      config.effectiveInterval ≤ max config.minimum config.maximum
  /-- A timeout of a millisecond is too short for any interval of whole milliseconds. -/
  beforeNat : config.adaptive = true → ∀ timeout, config.natTimeout = some timeout →
    config.effectiveInterval ≤ natBound timeout ∧
      (durationOfMillis 1 < timeout → config.effectiveInterval < timeout)

/-- **The policy does what it is for exactly if its minimum does not exceed what the NAT
allows.** -/
theorem effectiveInterval_sound_iff (config : HeartbeatConfig) :
    config.Sound ↔
      (config.adaptive = true → ∀ timeout, config.natTimeout = some timeout →
        config.minimum ≤ natBound timeout) := by
  have limitedBy : config.adaptive = true → ∀ timeout, config.natTimeout = some timeout →
      (config.effectiveInterval ≤ natBound timeout ↔ config.minimum ≤ natBound timeout) := by
    intro adaptive timeout limited
    rw [effectiveInterval_of_adaptive adaptive]
    exact clamp_le_iff _ (candidate_le_natBound limited)
  constructor
  · intro sound adaptive timeout limited
    exact (limitedBy adaptive timeout limited).mp (sound.beforeNat adaptive timeout limited).1
  · intro compatible
    refine ⟨⟨_, config.effectiveInterval_returns, config.effectiveInterval_pos⟩, ?_, ?_⟩
    · intro adaptive _
      rw [effectiveInterval_of_adaptive adaptive, Nat.max_comm config.minimum]
      exact ⟨le_clamp _, clamp_le _⟩
    · intro adaptive timeout limited
      have within := (limitedBy adaptive timeout limited).mpr (compatible adaptive timeout limited)
      exact ⟨within, fun longer => Nat.lt_of_le_of_lt within (natBound_lt longer)⟩

/-- The default policy behind a NAT that forgets after ten seconds: a heartbeat every fifteen. -/
theorem default_later_than_nat :
    { default with natTimeout := some (durationOfSecs 10) }.effectiveInterval =
        durationOfSecs 15 ∧
      ¬Sound { default with natTimeout := some (durationOfSecs 10) } := by
  refine ⟨by decide, fun sound => ?_⟩
  have before := (sound.beforeNat rfl (durationOfSecs 10) rfl).1
  exact absurd before (by decide)

end HeartbeatConfig

end FlareCore.Common

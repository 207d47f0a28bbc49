import FlareCore.Common.HeartbeatConfig
import Mathlib.Algebra.Order.Field.Basic
import Mathlib.Algebra.Order.Floor.Semiring
import Mathlib.Data.Rat.Floor

/-!
# Waiting before the next attempt to reconnect

Before each attempt to reconnect the client waits for a random time between two bounds, which double
from one attempt to the next until they reach a cap.  `exactBounds` states them with the arithmetic
of rational numbers, and the code computes them in 64 bits without ever overflowing
(`autoReconnectDelayBounds_eq`).  So the bounds are never inverted and the draw never panics
(`autoReconnectDelay_within`).

Only the milliseconds of the configured interval are cut to 64 bits instead of saturating.  An
interval so long is taken for a short one (`autoReconnectDelayBounds_sound_iff`).
-/

namespace FlareCore.Client

set_option autoImplicit false

open Common

/-! ## The code -/

/-- `as u64`. -/
def asU64 (value : Nat) : Nat :=
  value % 2 ^ 64

/-- `u64::saturating_mul`. -/
def saturatingMul (left right : Nat) : Nat :=
  min (left * right) (2 ^ 64 - 1)

/-- `u64::div_ceil`. -/
def divCeil (value divisor : Nat) : Nat :=
  if 0 < value % divisor then value / divisor + 1 else value / divisor

def autoReconnectMaxDelay : Nat :=
  durationOfSecs 30

def autoReconnectMinNominal : Nat :=
  durationOfSecs 1

/-- The two bounds of the wait; nothing where a `clamp` panics. -/
def autoReconnectDelayBounds (base attempt : Nat) : Option (Nat × Nat) := do
  let shift := min (attempt - 1) 4
  let capMs := asU64 (durationAsMillis autoReconnectMaxDelay)
  let nominalMs ← clampOrPanic (saturatingMul (asU64 (durationAsMillis base)) (1 <<< shift))
    (asU64 (durationAsMillis autoReconnectMinNominal)) capMs
  let minMs := divCeil (saturatingMul nominalMs 80) 100
  let maxMs ← clampOrPanic (divCeil (saturatingMul nominalMs 120) 100) minMs capMs
  return (durationOfMillis minMs, durationOfMillis maxMs)

/-- The wait, where `genRange` draws from the numbers between two bounds, both included; nothing
where the draw panics because there are none. -/
def autoReconnectDelay (genRange : Nat → Nat → Nat) (base attempt : Nat) : Option Nat := do
  let (low, high) ← autoReconnectDelayBounds base attempt
  let lowMs := asU64 (durationAsMillis low)
  let highMs := asU64 (durationAsMillis high)
  if lowMs ≤ highMs then some (durationOfMillis (genRange lowMs highMs)) else none

/-! ## The bounds as they are meant -/

/-- Doubled with each attempt, four times at most, and kept between a second and thirty. -/
def nominalMillis (millis attempt : Nat) : Nat :=
  max 1000 (min 30000 (millis * 2 ^ min (attempt - 1) 4))

/-- From 80% to 120%, rounded up to milliseconds, and no more than thirty seconds. -/
def exactBounds (nominal : Nat) : Nat × Nat :=
  (durationOfMillis ⌈(80 / 100 * nominal : ℚ)⌉₊,
    durationOfMillis (min ⌈(120 / 100 * nominal : ℚ)⌉₊ 30000))

theorem divCeil_le_iff {value divisor bound : Nat} (positive : 0 < divisor) :
    divCeil value divisor ≤ bound ↔ value ≤ divisor * bound := by
  have parts := Nat.div_add_mod value divisor
  have remainder := Nat.mod_lt value positive
  rw [divCeil]
  constructor
  · intro bounded
    split at bounded
    · calc value ≤ divisor * (value / divisor + 1) := by rw [Nat.mul_succ]; omega
        _ ≤ divisor * bound := Nat.mul_le_mul_left _ bounded
    · calc value ≤ divisor * (value / divisor) := by omega
        _ ≤ divisor * bound := Nat.mul_le_mul_left _ bounded
  · intro bounded
    split
    · refine Nat.lt_of_mul_lt_mul_left (a := divisor) ?_
      omega
    · exact Nat.div_le_of_le_mul bounded

/-- Rounding up in natural numbers is rounding up the quotient. -/
theorem divCeil_eq_ceil (value percent : Nat) :
    divCeil (value * percent) 100 = ⌈(percent / 100 * value : ℚ)⌉₊ := by
  refine eq_of_forall_ge_iff fun bound => ?_
  rw [divCeil_le_iff (by decide), Nat.ceil_le, div_mul_eq_mul_div, div_le_iff₀ (by decide)]
  rw [← Nat.cast_mul, mul_comm percent value]
  norm_cast
  rw [mul_comm 100 bound]

theorem divCeil_mono {value larger divisor : Nat} (below : value ≤ larger)
    (positive : 0 < divisor) : divCeil value divisor ≤ divCeil larger divisor := by
  rw [divCeil_le_iff positive]
  exact Nat.le_trans below ((divCeil_le_iff positive).mp (Nat.le_refl _))

theorem divCeil_percent_le (nominal : Nat) :
    divCeil (nominal * 80) 100 ≤ divCeil (nominal * 120) 100 :=
  divCeil_mono (Nat.mul_le_mul_left nominal (by decide)) (by decide)

theorem exactBounds_eq (nominal : Nat) :
    exactBounds nominal = (durationOfMillis (divCeil (nominal * 80) 100),
      durationOfMillis (min (divCeil (nominal * 120) 100) 30000)) := by
  rw [divCeil_eq_ceil, divCeil_eq_ceil]
  rfl

theorem nominalMillis_within (millis attempt : Nat) :
    1000 ≤ nominalMillis millis attempt ∧ nominalMillis millis attempt ≤ 30000 := by
  rw [nominalMillis]
  omega

theorem nominalMillis_mono {millis longer attempt later : Nat} (notLonger : millis ≤ longer)
    (notLater : attempt ≤ later) :
    nominalMillis millis attempt ≤ nominalMillis longer later := by
  have doublings : 2 ^ min (attempt - 1) 4 ≤ 2 ^ min (later - 1) 4 :=
    Nat.pow_le_pow_right (by decide) (by omega)
  have product := Nat.mul_le_mul notLonger doublings
  rw [nominalMillis, nominalMillis]
  omega

theorem exactBounds_mono {nominal larger : Nat} (below : nominal ≤ larger) :
    (exactBounds nominal).1 ≤ (exactBounds larger).1 ∧
      (exactBounds nominal).2 ≤ (exactBounds larger).2 := by
  have low : divCeil (nominal * 80) 100 ≤ divCeil (larger * 80) 100 :=
    divCeil_mono (Nat.mul_le_mul_right 80 below) (by decide)
  have high : divCeil (nominal * 120) 100 ≤ divCeil (larger * 120) 100 :=
    divCeil_mono (Nat.mul_le_mul_right 120 below) (by decide)
  rw [exactBounds_eq, exactBounds_eq]
  simp only [durationOfMillis]
  omega

theorem exactBounds_within {nominal : Nat} (least : 1000 ≤ nominal) (most : nominal ≤ 30000) :
    durationOfMillis 800 ≤ (exactBounds nominal).1 ∧
      (exactBounds nominal).1 ≤ (exactBounds nominal).2 ∧
      (exactBounds nominal).2 ≤ durationOfSecs 30 := by
  have low : divCeil (1000 * 80) 100 ≤ divCeil (nominal * 80) 100 :=
    divCeil_mono (Nat.mul_le_mul_right 80 least) (by decide)
  have ordered := divCeil_percent_le nominal
  have high : divCeil (nominal * 80) 100 ≤ 30000 :=
    (divCeil_le_iff (by decide)).mpr (by omega)
  rw [exactBounds_eq]
  simp only [durationOfMillis, durationOfSecs]
  have least : divCeil (1000 * 80) 100 = 800 := by decide
  omega

/-- The last millisecond of the nominal value is lost when the bounds are rounded up. -/
theorem exactBounds_eq_longest_iff {nominal : Nat} (most : nominal ≤ 30000) :
    exactBounds nominal = exactBounds 30000 ↔ 29999 ≤ nominal := by
  constructor
  · intro same
    by_contra shorter
    have lower : divCeil (nominal * 80) 100 ≤ 23999 :=
      (divCeil_le_iff (by decide)).mpr (by omega)
    have longest : divCeil (30000 * 80) 100 = 24000 := by decide
    rw [exactBounds_eq, exactBounds_eq, Prod.mk.injEq] at same
    simp only [durationOfMillis] at same
    omega
  · intro long
    obtain rfl | rfl : nominal = 29999 ∨ nominal = 30000 := by omega
    · rw [exactBounds_eq, exactBounds_eq]
      decide
    · rfl

/-! ## The code computes the exact bounds of what is left of the interval -/

/-- **Neither product overflows and no range is inverted.** -/
theorem autoReconnectDelayBounds_eq (base attempt : Nat) :
    autoReconnectDelayBounds base attempt =
      some (exactBounds (nominalMillis (asU64 (durationAsMillis base)) attempt)) := by
  obtain ⟨least, most⟩ := nominalMillis_within (asU64 (durationAsMillis base)) attempt
  have nominal : clampOrPanic
      (saturatingMul (asU64 (durationAsMillis base)) (1 <<< min (attempt - 1) 4)) 1000 30000 =
      some (nominalMillis (asU64 (durationAsMillis base)) attempt) := by
    rw [clampOrPanic_of_ordered _ (by decide), clamp, saturatingMul, nominalMillis,
      Nat.one_shiftLeft, Option.some_inj]
    split
    · omega
    · split <;> omega
  generalize nominalMillis (asU64 (durationAsMillis base)) attempt = doubled at *
  have eightyPercent : saturatingMul doubled 80 = doubled * 80 := Nat.min_eq_left (by omega)
  have more : saturatingMul doubled 120 = doubled * 120 := Nat.min_eq_left (by omega)
  have ordered : divCeil (doubled * 80) 100 ≤ 30000 :=
    (divCeil_le_iff (by decide)).mpr (by omega)
  have below := divCeil_percent_le doubled
  have upper : clampOrPanic (divCeil (doubled * 120) 100) (divCeil (doubled * 80) 100) 30000 =
      some (min (divCeil (doubled * 120) 100) 30000) := by
    rw [clampOrPanic_of_ordered _ ordered, clamp, Option.some_inj]
    split
    · omega
    · split <;> omega
  have cap : asU64 (durationAsMillis autoReconnectMaxDelay) = 30000 := by decide
  have floor : asU64 (durationAsMillis autoReconnectMinNominal) = 1000 := by decide
  simp only [autoReconnectDelayBounds, cap, floor, nominal, Option.bind_eq_bind, Option.bind_some,
    eightyPercent, more, upper]
  rw [exactBounds_eq]
  rfl

/-- **The wait is drawn from a range that is not empty**, and it is between 800 milliseconds and
thirty seconds. -/
theorem autoReconnectDelay_within {genRange : Nat → Nat → Nat}
    (inRange : ∀ low high, low ≤ high →
      low ≤ genRange low high ∧ genRange low high ≤ high)
    (base attempt : Nat) :
    ∃ wait, autoReconnectDelay genRange base attempt = some wait ∧
      durationOfMillis 800 ≤ wait ∧ wait ≤ durationOfSecs 30 := by
  obtain ⟨least, most⟩ := nominalMillis_within (asU64 (durationAsMillis base)) attempt
  obtain ⟨low, ordered, high⟩ := exactBounds_within least most
  rw [show durationOfSecs 30 = durationOfMillis 30000 by decide] at high ⊢
  generalize bounds : exactBounds (nominalMillis (asU64 (durationAsMillis base)) attempt) =
    exact at *
  obtain ⟨least, most⟩ := exact
  have ordered : least / 1000000 ≤ most / 1000000 := Nat.div_le_div_right ordered
  have low : 800 ≤ least / 1000000 := (Nat.le_div_iff_mul_le (by decide)).mpr low
  have high : most / 1000000 ≤ 30000 := by
    simp only [durationOfMillis] at high
    omega
  have lowMs : asU64 (durationAsMillis least) = least / 1000000 :=
    Nat.mod_eq_of_lt (by rw [durationAsMillis]; omega)
  have highMs : asU64 (durationAsMillis most) = most / 1000000 :=
    Nat.mod_eq_of_lt (by rw [durationAsMillis]; omega)
  obtain ⟨above, below⟩ := inRange _ _ ordered
  refine ⟨durationOfMillis (genRange (least / 1000000) (most / 1000000)), ?_, ?_, ?_⟩
  · rw [autoReconnectDelay, autoReconnectDelayBounds_eq, bounds]
    simp only [Option.bind_eq_bind, Option.bind_some, lowMs, highMs, if_pos ordered]
  · exact Nat.mul_le_mul_right 1000000 (Nat.le_trans low above)
  · exact Nat.mul_le_mul_right 1000000 (Nat.le_trans below high)

/-! ## Where nothing is lost of the interval -/

theorem asU64_le (value : Nat) : asU64 value ≤ value :=
  Nat.mod_le value (2 ^ 64)

/-- The bounds are those of the interval, exactly if it fits in 64 bits or the part of it that does
is still long enough for the longest wait. -/
theorem exactBounds_asU64_iff (millis attempt : Nat) :
    exactBounds (nominalMillis (asU64 millis) attempt) =
        exactBounds (nominalMillis millis attempt) ↔
      millis < 2 ^ 64 ∨ 29999 ≤ millis % 2 ^ 64 * 2 ^ min (attempt - 1) 4 := by
  by_cases fits : millis < 2 ^ 64
  · rw [asU64, Nat.mod_eq_of_lt fits]
    exact iff_of_true rfl (.inl fits)
  · have doublings : 1 ≤ 2 ^ min (attempt - 1) 4 := Nat.one_le_two_pow
    have longest : nominalMillis millis attempt = 30000 := by
      have product : millis ≤ millis * 2 ^ min (attempt - 1) 4 :=
        Nat.le_mul_of_pos_right _ doublings
      rw [nominalMillis]
      omega
    rw [longest, exactBounds_eq_longest_iff (nominalMillis_within _ attempt).2,
      or_iff_right fits, nominalMillis, asU64]
    omega

/-- The earlier bounds do not exceed the later ones. -/
def BoundsAtMost (earlier later : Option (Nat × Nat)) : Prop :=
  ∃ bounds ∈ earlier, ∃ laterBounds ∈ later,
    bounds.1 ≤ laterBounds.1 ∧ bounds.2 ≤ laterBounds.2

/-- The bounds of one wait are what they are documented to be. -/
structure DelayBoundsSound (base attempt : Nat) : Prop where
  exactly : autoReconnectDelayBounds base attempt =
    some (exactBounds (nominalMillis (durationAsMillis base) attempt))
  within : ∃ bounds ∈ autoReconnectDelayBounds base attempt,
    durationOfMillis 800 ≤ bounds.1 ∧ bounds.1 ≤ bounds.2 ∧ bounds.2 ≤ durationOfSecs 30
  monotoneInBase : ∀ shorter ≤ base,
    BoundsAtMost (autoReconnectDelayBounds shorter attempt) (autoReconnectDelayBounds base attempt)
  monotoneInAttempt : ∀ earlier ≤ attempt,
    BoundsAtMost (autoReconnectDelayBounds base earlier) (autoReconnectDelayBounds base attempt)

/-- **The bounds are what they are documented to be exactly if no bit that counts is cut off.** -/
theorem autoReconnectDelayBounds_sound_iff (base attempt : Nat) :
    DelayBoundsSound base attempt ↔
      durationAsMillis base < 2 ^ 64 ∨
        29999 ≤ durationAsMillis base % 2 ^ 64 * 2 ^ min (attempt - 1) 4 := by
  rw [← exactBounds_asU64_iff]
  constructor
  · intro sound
    exact Option.some_inj.mp ((autoReconnectDelayBounds_eq base attempt).symm.trans sound.exactly)
  · intro same
    have exactly : autoReconnectDelayBounds base attempt =
        some (exactBounds (nominalMillis (durationAsMillis base) attempt)) := by
      rw [autoReconnectDelayBounds_eq, same]
    have least := nominalMillis_within (durationAsMillis base) attempt
    refine ⟨exactly, ⟨_, exactly, exactBounds_within least.1 least.2⟩, ?_, ?_⟩
    · intro shorter notLonger
      refine ⟨_, autoReconnectDelayBounds_eq shorter attempt, _, exactly, exactBounds_mono ?_⟩
      refine nominalMillis_mono (Nat.le_trans (asU64_le _) ?_) (Nat.le_refl attempt)
      exact Nat.div_le_div_right notLonger
    · intro earlier notLater
      refine ⟨_, autoReconnectDelayBounds_eq base earlier, _,
        autoReconnectDelayBounds_eq base attempt, exactBounds_mono ?_⟩
      exact nominalMillis_mono (Nat.le_refl _) notLater

/-- An interval of 2⁶⁴ milliseconds is taken for none at all. -/
theorem longest_interval_waits_a_second :
    autoReconnectDelayBounds (durationOfMillis (2 ^ 64)) 1 =
        some (durationOfMillis 800, durationOfMillis 1200) ∧
      ¬DelayBoundsSound (durationOfMillis (2 ^ 64)) 1 := by
  have bounds : autoReconnectDelayBounds (durationOfMillis (2 ^ 64)) 1 =
      some (durationOfMillis 800, durationOfMillis 1200) := by decide
  refine ⟨bounds, fun sound => ?_⟩
  have longest := Option.some_inj.mp (bounds.symm.trans sound.exactly)
  rw [exactBounds_eq] at longest
  exact absurd longest (by decide)

end FlareCore.Client

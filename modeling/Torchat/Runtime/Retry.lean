import Mathlib.Algebra.Group.Int.Defs
import Mathlib.Algebra.Group.Nat.Defs

namespace Torchat.Retry

def saturate (value : Int) : Int := max (-2 ^ 63) (min (2 ^ 63 - 1) value)

/-- A value that is computed without overflow. -/
def checked (value : Int) : Option Int :=
  if -2 ^ 63 ≤ value ∧ value < 2 ^ 63 then some value else none

theorem hundredth (value : Int) :
    value.tdiv 100 = if 0 ≤ value then value / 100 else -(-value / 100) := by
  split
  · rename_i positive
    exact Int.tdiv_eq_ediv_of_nonneg positive
  · rw [← Int.tdiv_eq_ediv_of_nonneg (by omega), Int.neg_tdiv, Int.neg_neg]

/-! ## The policy -/

inductive RetryClass
  | immediate
  | shortBackoff
  | networkBackoff
  | torBackoff
  | manualOnly
  | permanentFailure

structure RetryDecision where
  retryAt : Option Int
  terminal : Bool
  deriving DecidableEq

structure RetryPolicy where
  shortBaseMs : Int64
  networkBaseMs : Int64
  torBaseMs : Int64
  maximumMs : Int64

namespace RetryPolicy

def default : RetryPolicy := ⟨1000, 2000, 5000, 5 * 60 * 1000⟩

def factor (attempt : UInt32) : Int := (2 ^ min attempt.toNat 8 : Nat)

/-- The delay before jitter. -/
def cappedMs (policy : RetryPolicy) (baseMs : Int64) (factor : Int) : Int :=
  min (saturate (baseMs.toInt * factor)) policy.maximumMs.toInt

def jitterPercent (jitterSeed : UInt64) : Int :=
  (jitterSeed.toNat % 41 : Nat) - 20

def jitterMs (capped percent : Int) : Int :=
  (saturate (capped * percent)).tdiv 100

def delay (policy : RetryPolicy) (baseMs : Int64) (attempt : UInt32)
    (jitterSeed : UInt64) : Option Int := do
  let factor ← checked (factor attempt)
  let capped := policy.cappedMs baseMs factor
  let percent ← checked (jitterPercent jitterSeed)
  let jitter ← checked (jitterMs capped percent)
  return saturate (capped + jitter)

def backoff (policy : RetryPolicy) (baseMs nowMs : Int64) (attempt : UInt32)
    (jitterSeed : UInt64) : Option RetryDecision := do
  let wait ← policy.delay baseMs attempt jitterSeed
  return ⟨some (saturate (nowMs.toInt + wait)), false⟩

def decide (policy : RetryPolicy) (retryClass : RetryClass) (nowMs : Int64)
    (attempt : UInt32) (jitterSeed : UInt64) : Option RetryDecision :=
  match retryClass with
  | .immediate => some ⟨some nowMs.toInt, false⟩
  | .shortBackoff => policy.backoff policy.shortBaseMs nowMs attempt jitterSeed
  | .networkBackoff =>
    policy.backoff policy.networkBaseMs nowMs attempt jitterSeed
  | .torBackoff => policy.backoff policy.torBaseMs nowMs attempt jitterSeed
  | .manualOnly => some ⟨none, false⟩
  | .permanentFailure => some ⟨none, true⟩

def base (policy : RetryPolicy) : RetryClass → Option Int64
  | .shortBackoff => some policy.shortBaseMs
  | .networkBackoff => some policy.networkBaseMs
  | .torBackoff => some policy.torBaseMs
  | _ => none

structure NonNegative (policy : RetryPolicy) : Prop where
  short : 0 ≤ policy.shortBaseMs.toInt
  network : 0 ≤ policy.networkBaseMs.toInt
  tor : 0 ≤ policy.torBaseMs.toInt
  maximum : 0 ≤ policy.maximumMs.toInt

/-- The jitter leaves the delay below the maximum: it takes nothing away, it is
less than a millisecond, or there is room for it. -/
def Damped (policy : RetryPolicy) (baseMs : Int64) (attempt : UInt32)
    (jitterSeed : UInt64) : Prop :=
  jitterPercent jitterSeed ≤ 0 ∨ policy.maximumMs.toInt = 2 ^ 63 - 1 ∨
    policy.maximumMs.toInt * jitterPercent jitterSeed < 100 ∨
    baseMs.toInt * factor attempt + min (baseMs.toInt * factor attempt *
      jitterPercent jitterSeed) (2 ^ 63 - 1) / 100 ≤ policy.maximumMs.toInt

/-- How the attempts of a class with a base are spaced. -/
structure Paced (policy : RetryPolicy) (baseMs nowMs : Int64) (attempt : UInt32)
    (jitterSeed : UInt64) (retryAt : Option Int) : Prop where
  waits : ∃ wait, policy.delay baseMs attempt jitterSeed = some wait ∧
    retryAt = some (saturate (nowMs.toInt + wait)) ∧
    (wait ≤ policy.maximumMs.toInt ↔ policy.Damped baseMs attempt jitterSeed)
  grows : ∀ later, attempt ≤ later →
    policy.cappedMs baseMs (factor attempt) ≤
      policy.cappedMs baseMs (factor later)

end RetryPolicy

open RetryPolicy

variable {policy : RetryPolicy} {base : Int64}

theorem factor_bounds (attempt : UInt32) :
    1 ≤ factor attempt ∧ factor attempt ≤ 256 := by
  have least : 0 < 2 ^ min attempt.toNat 8 := Nat.two_pow_pos _
  have most : 2 ^ min attempt.toNat 8 ≤ 2 ^ 8 :=
    Nat.pow_le_pow_right (by decide) (Nat.min_le_right ..)
  unfold factor
  omega

theorem jitterPercent_bounds (seed : UInt64) :
    -20 ≤ jitterPercent seed ∧ jitterPercent seed ≤ 20 := by
  unfold jitterPercent
  omega

theorem delay_eq :
    policy.delay base attempt seed =
      some (saturate (policy.cappedMs base (factor attempt) +
        jitterMs (policy.cappedMs base (factor attempt))
          (jitterPercent seed))) := by
  have bounds := factor_bounds attempt
  have first : checked (factor attempt) = some (factor attempt) :=
    if_pos (by omega)
  have second : checked (jitterPercent seed) = some (jitterPercent seed) :=
    if_pos (by have := jitterPercent_bounds seed; omega)
  have third : ∀ capped percent, checked (jitterMs capped percent) =
      some (jitterMs capped percent) := by
    intro capped percent
    refine if_pos ?_
    rw [jitterMs, hundredth, saturate]
    omega
  simp only [delay, first, second, third, Option.bind_eq_bind, Option.bind_some,
    Option.pure_def]

theorem cappedMs_mono (based : 0 ≤ base.toInt) (ordered : attempt ≤ later) :
    policy.cappedMs base (factor attempt) ≤
      policy.cappedMs base (factor later) := by
  have grown : factor attempt ≤ factor later := by
    have ordered : attempt.toNat ≤ later.toNat := ordered
    have powers : 2 ^ min attempt.toNat 8 ≤ 2 ^ min later.toNat 8 :=
      Nat.pow_le_pow_right (by decide) (by omega)
    unfold factor
    omega
  have product := Int.mul_le_mul_of_nonneg_left grown based
  unfold cappedMs saturate
  omega

theorem jitterMs_eq (least : 0 ≤ capped) :
    jitterMs capped percent =
      if 0 ≤ percent then min (capped * percent) (2 ^ 63 - 1) / 100
      else -(min (-(capped * percent)) (2 ^ 63) / 100) := by
  rw [jitterMs, hundredth]
  unfold saturate
  by_cases high : 0 ≤ percent
  · have product := Int.mul_nonneg least high
    rw [if_pos high]
    omega
  · have product := Int.mul_nonpos_of_nonneg_of_nonpos least
      (show percent ≤ 0 by omega)
    rw [if_neg high]
    omega

theorem delay_le_iff (based : 0 ≤ base.toInt)
    (maximal : 0 ≤ policy.maximumMs.toInt)
    (waits : policy.delay base attempt seed = some wait) :
    wait ≤ policy.maximumMs.toInt ↔ policy.Damped base attempt seed := by
  cases delay_eq.symm.trans waits
  have bounds := factor_bounds attempt
  have started := Int.mul_nonneg based (show 0 ≤ factor attempt by omega)
  have limit := policy.maximumMs.toInt_lt
  unfold Damped cappedMs
  generalize base.toInt * factor attempt = product at *
  generalize policy.maximumMs.toInt = maximum at *
  generalize jitterPercent seed = percent at *
  have capped : min (saturate product) maximum = min product maximum := by
    unfold saturate
    omega
  rw [capped, jitterMs_eq (by omega)]
  by_cases low : percent ≤ 0
  · have less := Int.mul_nonpos_of_nonneg_of_nonpos
      (show 0 ≤ min product maximum by omega) low
    unfold saturate
    split <;> omega
  · have high : 0 ≤ percent := by omega
    have own := Int.mul_nonneg started high
    have most := Int.mul_nonneg maximal high
    rw [if_pos high]
    rcases Int.le_total product maximum with below | above
    · have less := Int.mul_le_mul_of_nonneg_right below high
      rw [Int.min_eq_left below]
      unfold saturate
      omega
    · have less := Int.mul_le_mul_of_nonneg_right above high
      rw [Int.min_eq_right above]
      unfold saturate
      omega

theorem backoff_eq (nowMs : Int64) (based : 0 ≤ base.toInt)
    (maximal : 0 ≤ policy.maximumMs.toInt) :
    ∃ wait, policy.delay base attempt seed = some wait ∧
      policy.backoff base nowMs attempt seed =
        some ⟨some (saturate (nowMs.toInt + wait)), false⟩ ∧
      nowMs.toInt ≤ saturate (nowMs.toInt + wait) := by
  have bounds := factor_bounds attempt
  have started := Int.mul_nonneg based (show 0 ≤ factor attempt by omega)
  have capped : 0 ≤ policy.cappedMs base (factor attempt) := by
    unfold cappedMs saturate
    omega
  have less := Int.mul_le_mul_of_nonneg_left (jitterPercent_bounds seed).1 capped
  have limit := nowMs.toInt_lt
  refine ⟨_, delay_eq, by rw [backoff, delay_eq]; rfl, ?_⟩
  rw [jitterMs_eq capped]
  unfold saturate
  split <;> omega

/-- No arithmetic overflows, nothing is scheduled for the past, and the delay grows
with the attempts up to its maximum, which only the jitter exceeds. -/
theorem retry_delays_are_bounded_iff (nonNegative : policy.NonNegative)
    (retryClass : RetryClass) (nowMs : Int64) (attempt : UInt32) (seed : UInt64) :
    ∃ decision, policy.decide retryClass nowMs attempt seed = some decision ∧
      (∀ retryAt ∈ decision.retryAt, nowMs.toInt ≤ retryAt) ∧
      ∀ base ∈ policy.base retryClass,
        policy.Paced base nowMs attempt seed decision.retryAt := by
  have backs : ∀ base, 0 ≤ base.toInt → ∃ decision,
      policy.backoff base nowMs attempt seed = some decision ∧
      (∀ retryAt ∈ decision.retryAt, nowMs.toInt ≤ retryAt) ∧
      ∀ own ∈ some base,
        policy.Paced own nowMs attempt seed decision.retryAt := by
    intro base based
    obtain ⟨wait, waits, decided, later⟩ :=
      backoff_eq nowMs based nonNegative.maximum
    refine ⟨_, decided, fun _ at' => Option.some.inj at' ▸ later, ?_⟩
    rintro _ ⟨⟩
    exact ⟨⟨wait, waits, rfl, delay_le_iff based nonNegative.maximum waits⟩,
      fun _ => cappedMs_mono based⟩
  cases retryClass with
  | immediate =>
    exact ⟨_, rfl, fun _ at' => Int.le_of_eq (Option.some.inj at'), nofun⟩
  | shortBackoff => exact backs _ nonNegative.short
  | networkBackoff => exact backs _ nonNegative.network
  | torBackoff => exact backs _ nonNegative.tor
  | manualOnly | permanentFailure => exact ⟨_, rfl, nofun, nofun⟩

theorem first_default_delay_is_bounded :
    ∃ wait, RetryPolicy.default.delay 2000 0 40 = some wait ∧ wait ≤ 300000 := by
  have nonNegative : RetryPolicy.default.NonNegative :=
    ⟨by decide, by decide, by decide, by decide⟩
  obtain ⟨_, _, _, paced⟩ :=
    retry_delays_are_bounded_iff nonNegative .networkBackoff 0 0 40
  obtain ⟨wait, waits, _, bounded⟩ := (paced 2000 rfl).waits
  exact ⟨wait, waits, bounded.mpr (.inr (.inr (.inr (by decide))))⟩

/-- Jitter is added after the cap: six minutes under a maximum of five. -/
theorem jitter_exceeds_the_maximum :
    RetryPolicy.default.maximumMs.toInt = 300000 ∧
      RetryPolicy.default.decide .networkBackoff 0 8 40 =
        some ⟨some 360000, false⟩ := by
  decide

end Torchat.Retry

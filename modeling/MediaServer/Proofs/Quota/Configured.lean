import MediaServer.Settings.Check
import MediaServer.Proofs.Quota.Sweeps
import Mathlib

namespace MediaServer

/-- The number that a finite 64-bit number stands for, without rounding. -/
def exactNumber (x : Float) : Rat :=
  match x.toModel.unpack with
  | .finite sign mantissa exponent _ => sign.apply mantissa * 2 ^ exponent
  | _ => 0

theorem exactNumber_pos {x : Float} (positive : isPositiveRate x) : 0 < exactNumber x := by
  obtain ⟨finite, above⟩ := Bool.and_eq_true_iff.mp positive
  have zero : (0 : Float).toModel.unpack = .zero .positive := by rfl
  have above : (0 : Float) < x := of_decide_eq_true above
  have above : (0 : Float).toModel.lt x.toModel = true := of_decide_eq_true above
  have finite : x.toModel.unpack.isFinite = true := finite
  rw [Float.Model.lt, zero] at above
  unfold exactNumber
  cases unpacked : x.toModel.unpack with
  | infinity sign => simp [unpacked, Float.Model.UnpackedFloat.isFinite] at finite
  | notANumber => simp [unpacked, Float.Model.UnpackedFloat.isFinite] at finite
  | zero sign =>
    simp [unpacked, Float.Model.UnpackedFloat.lt, Float.Model.UnpackedFloat.compare] at above
  | finite sign mantissa exponent mantissaPositive =>
    cases sign with
    | negative =>
      simp [unpacked, Float.Model.UnpackedFloat.lt, Float.Model.UnpackedFloat.compare] at above
    | positive =>
      have cast : (0 : Rat) < mantissa := by exact_mod_cast mantissaPositive
      have power : (0 : Rat) < 2 ^ exponent := zpow_pos (by norm_num) exponent
      simpa [Float.Model.UnpackedFloat.Sign.apply] using mul_pos cast power

/-- The limiter that settings ask for, counting without rounding. -/
def RateLimit.exactLimiter (limit : RateLimit) : Limiter Rat :=
  .start (exactNumber limit.requestsPerSecond) limit.burstCount limit.bucketTtl

theorem Settings.isPositiveRate_of_valid (settings : Settings) (valid : settings.isValid)
    (enabled : settings.rateLimit.enabled) :
    isPositiveRate settings.rateLimit.requestsPerSecond := by
  by_contra wrong
  simp [isValid, faults, enabled, faultUnless, wrong] at valid

/-- For valid settings, sweeps change no answer, and the limit over windows holds beside them,
exactly if a bucket refills from nothing within the time after which it is dropped. -/
theorem Settings.sweeps_harmless_iff {settings : Settings} (valid : settings.isValid)
    (enabled : settings.rateLimit.enabled) :
    let limit := settings.rateLimit
    let rate := exactNumber limit.requestsPerSecond
    ((∀ acts : List Limiter.Act, (acts.map Limiter.Act.now).Pairwise (· ≤ ·) →
        limit.exactLimiter.answers acts = limit.exactLimiter.answers (acts.filter (·.isCheck))) ↔
      (limit.burstCount : Rat) ≤ rate * limit.bucketTtl) ∧
    ((∀ (acts : List Limiter.Act) (client : String) (first length : Nat),
        (acts.map Limiter.Act.now).Pairwise (· ≤ ·) →
          (countWithin (limit.exactLimiter.admitted client acts) first (first + length) : Rat) ≤
            limit.burstCount + rate * seconds length) ↔
      (limit.burstCount : Rat) ≤ rate * limit.bucketTtl) := by
  have positive := exactNumber_pos (settings.isPositiveRate_of_valid valid enabled)
  exact ⟨Limiter.answers_checks_iff positive.le _ _, Limiter.windows_beside_sweeps_iff positive.le _ _⟩

/-- The default limit is patient: ten tokens are back long before an hour has passed. -/
theorem Settings.default_limit_patient :
    let settings := { Settings.default with rateLimit := ⟨true, 1, 10, 3600⟩ }
    settings.isValid ∧ settings.rateLimit.enabled ∧
      ∀ acts : List Limiter.Act, (acts.map Limiter.Act.now).Pairwise (· ≤ ·) →
        settings.rateLimit.exactLimiter.answers acts =
          settings.rateLimit.exactLimiter.answers (acts.filter (·.isCheck)) := by
  intro settings
  have valid : settings.isValid := by decide +kernel
  have patient : (settings.rateLimit.burstCount : Rat) ≤
      exactNumber settings.rateLimit.requestsPerSecond * settings.rateLimit.bucketTtl := by
    decide +kernel
  exact ⟨valid, rfl, (Settings.sweeps_harmless_iff valid rfl).1.mpr patient⟩

/-- Valid settings may drop buckets after a second that take two to refill: of four calls within a second and
a half a client gets all admitted, although burst and rate allow three. -/
theorem Settings.sweep_admits_fourth_call :
    let settings := { Settings.default with rateLimit := ⟨true, 1, 2, 1⟩ }
    let acts : List Limiter.Act := [.check "client" 0, .check "client" 0, .sweep 1500000000,
      .check "client" 1500000000, .check "client" 1500000000]
    settings.isValid ∧ settings.rateLimit.enabled ∧ (acts.map Limiter.Act.now).Pairwise (· ≤ ·) ∧
      settings.rateLimit.exactLimiter.answers acts = [true, true, true, true] ∧
      settings.rateLimit.exactLimiter.answers (acts.filter (·.isCheck)) = [true, true, true, false] ∧
      settings.rateLimit.burstCount +
          exactNumber settings.rateLimit.requestsPerSecond * seconds 1500000000 <
        countWithin (settings.rateLimit.exactLimiter.admitted "client" acts) 0 1500000000 := by
  decide +kernel

end MediaServer

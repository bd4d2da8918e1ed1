import MediaServer.Proofs.Quota.Run
import Mathlib.Tactic.Linarith
import Mathlib.Tactic.Ring

namespace MediaServer

/-- A length of time in seconds. -/
def seconds (nanoseconds : Nat) : Rat :=
  Tokens.ofNanoseconds nanoseconds

theorem seconds_eq (n : Nat) : seconds n = (n : Rat) / 1000000000 := rfl

@[simp] theorem seconds_zero : seconds 0 = 0 := by
  simp [seconds_eq]

theorem seconds_nonneg (n : Nat) : 0 ≤ seconds n := by
  rw [seconds_eq]
  exact div_nonneg n.cast_nonneg (by norm_num)

theorem seconds_mono {m n : Nat} (bound : m ≤ n) : seconds m ≤ seconds n := by
  have cast : (m : Rat) ≤ n := by exact_mod_cast bound
  rw [seconds_eq, seconds_eq]
  linarith

theorem seconds_add (m n : Nat) : seconds (m + n) = seconds m + seconds n := by
  rw [seconds_eq, seconds_eq, seconds_eq, Nat.cast_add, add_div]

theorem seconds_split {first middle last : Nat} (before : first ≤ middle) (after : middle ≤ last) :
    seconds (last - first) = seconds (last - middle) + seconds (middle - first) := by
  have parts : last - first = (last - middle) + (middle - first) := by omega
  rw [parts, seconds_add]

theorem Bucket.refill_tokens (size rate : Rat) (now : Nat) (bucket : Bucket Rat) :
    (bucket.refill size rate now).tokens =
      min (bucket.tokens + rate * seconds (now - bucket.counted)) size := by
  rw [mul_comm, min_def]
  rfl

theorem Bucket.take_counted (bucket : Bucket Rat) : bucket.take.2.counted = bucket.counted := by
  unfold Bucket.take
  split <;> rfl

/-- A call that is admitted costs one token, and no other call costs any. -/
theorem Bucket.take_tokens (bucket : Bucket Rat) :
    bucket.take.2.tokens + (if bucket.take.1 then 1 else 0) = bucket.tokens := by
  unfold Bucket.take
  split
  · exact sub_add_cancel bucket.tokens 1
  · exact add_zero bucket.tokens

namespace Limiter

variable {limiter : Limiter Rat} {client asker : String} {now later : Nat}

/-- The bucket of a client was counted at this instant or before it. -/
def Settled (limiter : Limiter Rat) (client : String) (now : Nat) : Prop :=
  ∀ bucket, limiter.buckets.lookup client = some bucket → bucket.counted ≤ now

theorem balance_of_new (new : limiter.buckets.lookup client = none) :
    limiter.balance client now = limiter.burst := by
  simp [balance, bucket, new, Bucket.refill_tokens]

theorem balance_of_known {bucket : Bucket Rat}
    (known : limiter.buckets.lookup client = some bucket) :
    limiter.balance client now =
      min (bucket.tokens + limiter.rate * seconds (now - bucket.counted)) limiter.burst := by
  simp [balance, Limiter.bucket, known, Bucket.refill_tokens]

theorem balance_le_burst : limiter.balance client now ≤ limiter.burst := by
  rw [balance, Bucket.refill_tokens]
  exact min_le_right _ _

/-- Waiting adds tokens at the rate of the limiter until the bucket is full, and it does not
matter whether the refill is made in one step or in two. -/
theorem balance_later (positive : 0 ≤ limiter.rate) (settled : limiter.Settled client now)
    (order : now ≤ later) :
    limiter.balance client later =
      min (limiter.balance client now + limiter.rate * seconds (later - now)) limiter.burst := by
  have gained := mul_nonneg positive (seconds_nonneg (later - now))
  cases found : limiter.buckets.lookup client with
  | none =>
    rw [balance_of_new found, balance_of_new found]
    exact (min_eq_right (by linarith)).symm
  | some bucket =>
    rw [balance_of_known found, balance_of_known found, seconds_split (settled bucket found) order,
      mul_add]
    rcases le_total (bucket.tokens + limiter.rate * seconds (now - bucket.counted)) limiter.burst
      with below | above
    · rw [min_eq_left below]
      congr 1
      ring
    · rw [min_eq_right above, min_eq_right (by linarith), min_eq_right (by linarith)]

theorem check_fst_iff : (limiter.check client now).1 = true ↔ 1 ≤ limiter.balance client now := by
  rw [check_fst]
  exact decide_eq_true_iff

/-- What a check leaves in the client's bucket: the balance, less a token if the call was admitted. -/
theorem check_leaves (limiter : Limiter Rat) (client : String) (now : Nat) :
    ∃ bucket, (limiter.check client now).2.buckets.lookup client = some bucket ∧ bucket.counted = now ∧
      bucket.tokens + (if (limiter.check client now).1 then 1 else 0) = limiter.balance client now := by
  refine ⟨_, (limiter.lookup_check client client now).trans (if_pos rfl), ?_, ?_⟩
  · exact Bucket.take_counted _
  · exact Bucket.take_tokens _

/-- A check of a client leaves the tokens of all others as they are. -/
theorem balance_check_other (other : client ≠ asker) :
    (limiter.check asker now).2.balance client later = limiter.balance client later := by
  obtain ⟨rate, burst, _⟩ := limiter.after_fixed (.check asker now)
  have found := limiter.lookup_check asker client now
  rw [if_neg other] at found
  unfold balance bucket
  rw [found]
  simp only [after] at rate burst
  rw [rate, burst]

/-- A check that admits takes one token from what was there. -/
theorem balance_check_admitted (admitted : (limiter.check client now).1 = true) :
    (limiter.check client now).2.balance client later =
      min (limiter.balance client now - 1 + limiter.rate * seconds (later - now)) limiter.burst := by
  obtain ⟨rate, burst, _⟩ := limiter.after_fixed (.check client now)
  have found := limiter.lookup_check client client now
  rw [if_pos rfl] at found
  rw [check_fst] at admitted
  rw [balance_of_known found]
  simp only [after] at rate burst
  rw [rate, burst]
  unfold balance at admitted
  rw [Bucket.take, if_pos admitted]
  rfl

/-- A check that refuses only counts the bucket anew. -/
theorem balance_check_refused (positive : 0 ≤ limiter.rate) (settled : limiter.Settled client now)
    (order : now ≤ later) (refused : (limiter.check client now).1 = false) :
    (limiter.check client now).2.balance client later = limiter.balance client later := by
  obtain ⟨rate, burst, _⟩ := limiter.after_fixed (.check client now)
  have found := limiter.lookup_check client client now
  rw [if_pos rfl] at found
  rw [check_fst] at refused
  rw [balance_of_known found, balance_later positive settled order]
  simp only [after] at rate burst
  rw [rate, burst]
  unfold balance at refused
  rw [Bucket.take, if_neg (by simp [refused])]
  rfl

theorem Settled.mono (settled : limiter.Settled client now) (order : now ≤ later) :
    limiter.Settled client later :=
  fun bucket found => (settled bucket found).trans order

theorem Settled.check (settled : limiter.Settled client now) (order : asker = client → later ≤ now) :
    (limiter.check asker later).2.Settled client now := by
  intro bucket found
  rw [lookup_check] at found
  by_cases same : client = asker
  · rw [if_pos same] at found
    cases Option.some.inj found
    rw [Bucket.take_counted]
    exact order same.symm
  · rw [if_neg same] at found
    exact settled bucket found

/-- No token was taken from a client's bucket that was not there. -/
structure Stocked (limiter : Limiter Rat) (client : String) : Prop where
  rate_nonneg : 0 ≤ limiter.rate
  burst_nonneg : 0 ≤ limiter.burst
  tokens_nonneg : ∀ bucket, limiter.buckets.lookup client = some bucket → 0 ≤ bucket.tokens

theorem Stocked.balance_nonneg (stocked : limiter.Stocked client) : 0 ≤ limiter.balance client now := by
  cases found : limiter.buckets.lookup client with
  | none =>
    rw [balance_of_new found]
    exact stocked.burst_nonneg
  | some bucket =>
    have gained := mul_nonneg stocked.rate_nonneg (seconds_nonneg (now - bucket.counted))
    rw [balance_of_known found]
    exact le_min (add_nonneg (stocked.tokens_nonneg bucket found) gained) stocked.burst_nonneg

theorem Stocked.check (stocked : limiter.Stocked client) (asker : String) (now : Nat) :
    (limiter.check asker now).2.Stocked client := by
  obtain ⟨rate, burst, -⟩ := limiter.after_fixed (.check asker now)
  refine ⟨rate.symm ▸ stocked.rate_nonneg, burst.symm ▸ stocked.burst_nonneg, ?_⟩
  intro bucket found
  by_cases own : client = asker
  · subst own
    obtain ⟨_, there, -, left⟩ := limiter.check_leaves client now
    cases there.symm.trans found
    have balance : 0 ≤ limiter.balance client now := stocked.balance_nonneg
    by_cases granted : (limiter.check client now).1 = true
    · have enough := check_fst_iff.mp granted
      rw [if_pos granted] at left
      linarith
    · rw [if_neg granted] at left
      linarith
  · rw [lookup_check, if_neg own] at found
    exact stocked.tokens_nonneg bucket found

end Limiter

end MediaServer

import MediaServer.Proofs.Quota.Sweeps
import Mathlib.Algebra.Order.Archimedean.Basic

namespace MediaServer

/-- How far instants go back in all, each behind the one before it, where the first is compared with an
instant of its own. -/
def setbacksFrom : Nat → List Nat → Nat
  | _, [] => 0
  | counted, instant :: instants => (counted - instant) + setbacksFrom instant instants

/-- How far the instants of calls go back in all, in the order in which the calls are handled. -/
def setbacks : List Nat → Nat
  | [] => 0
  | instant :: instants => setbacksFrom instant instants

theorem setbacks_le_setbacksFrom (counted : Nat) (instants : List Nat) :
    setbacks instants ≤ setbacksFrom counted instants := by
  cases instants with
  | nil => exact Nat.le_refl 0
  | cons instant instants => exact Nat.le_add_left _ _

theorem setbacks_of_ordered {instants : List Nat} (ordered : instants.Pairwise (· ≤ ·)) :
    setbacks instants = 0 := by
  induction instants with
  | nil => rfl
  | cons instant instants ih =>
    obtain ⟨before, rest⟩ := List.pairwise_cons.mp ordered
    cases instants with
    | nil => rfl
    | cons next instants =>
      have order := before next List.mem_cons_self
      have later := ih rest
      simp only [setbacks, setbacksFrom] at later ⊢
      omega

/-- Whoever comes to an earlier instant has gone back at least that far. -/
theorem le_add_setbacksFrom {counted instant : Nat} {instants : List Nat} (member : instant ∈ instants) :
    counted ≤ instant + setbacksFrom counted instants := by
  induction instants generalizing counted with
  | nil => cases member
  | cons next instants ih =>
    rw [setbacksFrom]
    rcases List.mem_cons.mp member with rfl | later
    · omega
    · have reached : next ≤ instant + setbacksFrom next instants := ih later
      omega

namespace Limiter

variable {limiter : Limiter Rat} {client asker : String} {now first last : Nat} {acts : List Act}

theorem callsOf_cons_own : Act.callsOf client (.check client now :: acts) = now :: Act.callsOf client acts := by
  simp [Act.callsOf]

theorem callsOf_cons_other (other : asker ≠ client) :
    Act.callsOf client (.check asker now :: acts) = Act.callsOf client acts := by
  simp [Act.callsOf, other]

theorem admitted_cons_other (other : asker ≠ client) :
    limiter.admitted client (.check asker now :: acts) =
      (limiter.check asker now).2.admitted client acts := by
  simp [admitted, Act.callsOf, other, after]

theorem countWithin_cons_own :
    countWithin (limiter.admitted client (.check client now :: acts)) first last =
      (if (limiter.check client now).1 = true ∧ first ≤ now ∧ now ≤ last then 1 else 0) +
        countWithin ((limiter.check client now).2.admitted client acts) first last := by
  by_cases granted : (limiter.check client now).1 = true
  · simp [admitted, answer?, granted, Act.callsOf, after, countWithin, List.countP_cons, Nat.add_comm]
  · simp [admitted, answer?, granted, after]

theorem countWithin_eq_zero (limiter : Limiter Rat) (outside : ∀ call ∈ Act.callsOf client acts, last < call) :
    countWithin (limiter.admitted client acts) first last = 0 := by
  refine List.countP_eq_zero.mpr fun instant member => ?_
  have beyond := outside instant ((limiter.admitted_sublist client acts).subset member)
  simp only [Bool.and_eq_true, decide_eq_true_eq]
  omega

theorem Stocked.run (stocked : limiter.Stocked client) (unswept : ∀ act ∈ acts, act.isCheck) :
    (limiter.run acts).Stocked client := by
  induction acts, unswept using Act.unswept_induction generalizing limiter with
  | nil => exact stocked
  | check asker now acts _ ih => exact ih (stocked.check asker now)

/-- A call that is admitted within a window takes its token out of the balance. -/
theorem check_spends (first last : Nat) {bucket : Bucket Rat}
    (left : bucket.tokens + (if (limiter.check client now).1 then 1 else 0) = limiter.balance client now) :
    ((if (limiter.check client now).1 = true ∧ first ≤ now ∧ now ≤ last then 1 else 0 : Nat) : Rat) +
      bucket.tokens ≤ limiter.balance client now := by
  rw [← left]
  by_cases granted : (limiter.check client now).1 = true
  · rw [if_pos granted]
    split <;> norm_num
    linarith
  · rw [if_neg granted, if_neg (fun both => granted both.1)]
    simp

/-- What a bucket can still give to a window: its tokens, and what the rate adds until the window ends,
where time that was set back is counted anew. A bucket that was counted too late to get back into the window
gives nothing to it. -/
theorem countWithin_known_le (first last : Nat) {bucket : Bucket Rat} (stocked : limiter.Stocked client)
    (known : limiter.buckets.lookup client = some bucket) (unswept : ∀ act ∈ acts, act.isCheck) :
    (countWithin (limiter.admitted client acts) first last : Rat) ≤ bucket.tokens +
      limiter.rate * seconds (setbacksFrom bucket.counted (Act.callsOf client acts) + last - bucket.counted) := by
  induction acts, unswept using Act.unswept_induction generalizing limiter bucket with
  | nil =>
    have tokens := stocked.tokens_nonneg bucket known
    have gained := mul_nonneg stocked.rate_nonneg (seconds_nonneg (0 + last - bucket.counted))
    exact add_nonneg tokens gained
  | check asker now acts _ ih =>
    have sameRate : (limiter.check asker now).2.rate = limiter.rate :=
      (limiter.after_fixed (.check asker now)).1
    by_cases own : asker = client
    · subst own
      obtain ⟨kept, there, counted, left⟩ := limiter.check_leaves asker now
      have rest := ih (stocked.check asker now) there
      rw [counted, sameRate] at rest
      rw [countWithin_cons_own, callsOf_cons_own, setbacksFrom]
      generalize later : setbacksFrom now (Act.callsOf asker acts) = further at rest ⊢
      rcases Nat.lt_or_ge (further + last) now with beyond | within
      · have outside : ∀ call ∈ Act.callsOf asker acts, last < call := by
          intro call member
          have reached : now ≤ call + setbacksFrom now (Act.callsOf asker acts) :=
            le_add_setbacksFrom member
          omega
        have tokens := stocked.tokens_nonneg bucket known
        have gained := mul_nonneg stocked.rate_nonneg
          (seconds_nonneg (bucket.counted - now + further + last - bucket.counted))
        rw [countWithin_eq_zero _ outside, if_neg (by omega), Nat.cast_zero]
        exact add_nonneg tokens gained
      · have elapsed : bucket.counted - now + further + last - bucket.counted =
            (now - bucket.counted) + (further + last - now) := by omega
        have refilled : limiter.balance asker now ≤
            bucket.tokens + limiter.rate * seconds (now - bucket.counted) :=
          (balance_of_known known).trans_le (min_le_left _ _)
        have spent := check_spends first last left
        rw [elapsed, seconds_add, mul_add, Nat.cast_add]
        linarith
    · have kept : (limiter.check asker now).2.buckets.lookup client = some bucket := by
        rw [lookup_check, if_neg (Ne.symm own), known]
      have rest := ih (stocked.check asker now) kept
      rw [admitted_cons_other own, callsOf_cons_other own]
      rwa [sameRate] at rest

/-- Over any window, a client is admitted no more than its burst, what the rate adds over the length of the
window, and what it adds over the time that was set back meanwhile. -/
theorem countWithin_setbacks_le (first length : Nat) (stocked : limiter.Stocked client)
    (unswept : ∀ act ∈ acts, act.isCheck) :
    (countWithin (limiter.admitted client acts) first (first + length) : Rat) ≤
      limiter.burst + limiter.rate * seconds (length + setbacks (Act.callsOf client acts)) := by
  induction acts, unswept using Act.unswept_induction generalizing limiter with
  | nil =>
    have gained := mul_nonneg stocked.rate_nonneg (seconds_nonneg (length + 0))
    exact add_nonneg stocked.burst_nonneg gained
  | check asker now acts unsweptRest ih =>
    obtain ⟨sameRate, sameBurst, -⟩ := limiter.after_fixed (.check asker now)
    simp only [after] at sameRate sameBurst
    have stockedAfter := stocked.check asker now
    have rest := ih stockedAfter
    rw [sameRate, sameBurst] at rest
    by_cases own : asker = client
    · subst own
      rw [countWithin_cons_own, callsOf_cons_own, setbacks, Nat.cast_add]
      by_cases inside : first ≤ now ∧ now ≤ first + length
      · -- The first call in the window finds a burst at most, and the window is over a length later.
        obtain ⟨kept, there, counted, left⟩ := limiter.check_leaves asker now
        have given := countWithin_known_le first (first + length) stockedAfter there unsweptRest
        rw [counted, sameRate] at given
        have spent := check_spends first (first + length) left
        have size : limiter.balance asker now ≤ limiter.burst := balance_le_burst
        have lasts : seconds (setbacksFrom now (Act.callsOf asker acts) + (first + length) - now) ≤
            seconds (length + setbacksFrom now (Act.callsOf asker acts)) := seconds_mono (by omega)
        have gained := mul_le_mul_of_nonneg_left lasts stocked.rate_nonneg
        linarith
      · have further := setbacks_le_setbacksFrom now (Act.callsOf asker acts)
        have lasts : seconds (length + setbacks (Act.callsOf asker acts)) ≤
            seconds (length + setbacksFrom now (Act.callsOf asker acts)) := seconds_mono (by omega)
        have gained := mul_le_mul_of_nonneg_left lasts stocked.rate_nonneg
        rw [if_neg (fun all => inside all.2), Nat.cast_zero, zero_add]
        linarith
    · rw [admitted_cons_other own, callsOf_cons_other own]
      exact rest

/-- Time and again a client draws all its tokens at one instant, and a late call sets its bucket back. -/
def swayingRun (client : String) (burst pause : Nat) : Nat → List Act
  | 0 => []
  | rounds + 1 =>
    List.replicate burst (.check client pause) ++ .check client 0 :: swayingRun client burst pause rounds

theorem swayingRun_unswept (client : String) (burst pause rounds : Nat) :
    ∀ act ∈ swayingRun client burst pause rounds, act.isCheck := by
  induction rounds with
  | zero => simp [swayingRun]
  | succ rounds ih =>
    intro act member
    rcases List.mem_append.mp member with draw | late
    · rw [List.eq_of_mem_replicate draw]
      rfl
    · rcases List.mem_cons.mp late with rfl | rest
      · rfl
      · exact ih act rest

/-- Calls at one instant are all admitted as long as there are tokens for them. -/
theorem admitted_replicate {count : Nat} (enough : (count : Rat) ≤ limiter.balance client now) :
    limiter.admitted client (List.replicate count (.check client now)) = List.replicate count now := by
  rw [admitted_eq_callsOf]
  · simp [Act.callsOf]
  · rw [answers_replicate enough]
    exact fun answer member => List.eq_of_mem_replicate member

/-- A late call sets the bucket back to where a pause refills it, however little is in it. -/
theorem balance_after_late {pause : Nat} (stocked : limiter.Stocked client)
    (long : limiter.burst ≤ limiter.rate * seconds pause) :
    (limiter.check client 0).2.balance client pause = limiter.burst := by
  obtain ⟨sameRate, sameBurst, -⟩ := limiter.after_fixed (.check client 0)
  obtain ⟨bucket, there, counted, -⟩ := limiter.check_leaves client 0
  have tokens := (stocked.check client 0).tokens_nonneg bucket there
  simp only [after] at sameRate sameBurst
  rw [balance_of_known there, counted, Nat.sub_zero, sameRate, sameBurst]
  exact min_eq_right (by linarith)

theorem countWithin_swayingRun_ge {burst pause rounds : Nat} (stocked : limiter.Stocked client)
    (size : limiter.burst = burst) (long : limiter.burst ≤ limiter.rate * seconds pause)
    (full : limiter.balance client pause = limiter.burst) :
    rounds * burst ≤
      countWithin (limiter.admitted client (swayingRun client burst pause rounds)) pause pause := by
  induction rounds generalizing limiter with
  | zero => simp
  | succ rounds ih =>
    have draws : ∀ act ∈ List.replicate burst (Act.check client pause), act.isCheck := by
      intro act member
      rw [List.eq_of_mem_replicate member]
      rfl
    have drawn := stocked.run draws
    obtain ⟨rate, burst', -⟩ := limiter.run_fixed (List.replicate burst (.check client pause))
    obtain ⟨rateLate, burstLate, -⟩ :=
      (limiter.run (List.replicate burst (.check client pause))).after_fixed (.check client 0)
    simp only [after] at rateLate burstLate
    have again := balance_after_late drawn (by rw [rate, burst']; exact long)
    have rest := ih (drawn.check client 0) (by rw [burstLate, burst', size])
      (by rw [rateLate, burstLate, rate, burst']; exact long) (by rw [again, burstLate])
    have enough : (burst : Rat) ≤ limiter.balance client pause := by rw [full, size]
    rw [swayingRun, admitted_append, admitted_replicate enough, countWithin, List.countP_append,
      List.countP_replicate, ← countWithin, countWithin_cons_own]
    simp only [le_refl, decide_true, Bool.and_self, if_true]
    rw [Nat.succ_mul]
    omega

/-- From any point of a run on, a client is admitted over a window no more than its burst and what the rate
adds over the length of the window and over the time that was set back since; so the limit holds over every
stretch of a run in which no call is late. With late calls nothing else holds: a client can be admitted any
number of times at one instant. -/
theorem admitted_beside_late_calls {rate : Rat} (positive : 0 < rate) (burst ttl : Nat) (client : String) :
    let limiter : Limiter Rat := start rate burst ttl
    (∀ past acts, (∀ act ∈ past ++ acts, act.isCheck) → ∀ first length,
      (countWithin ((limiter.run past).admitted client acts) first (first + length) : Rat) ≤
        burst + rate * seconds (length + setbacks (Act.callsOf client acts))) ∧
    (∀ past acts, (∀ act ∈ past ++ acts, act.isCheck) → (Act.callsOf client acts).Pairwise (· ≤ ·) →
      ∀ first length,
        (countWithin ((limiter.run past).admitted client acts) first (first + length) : Rat) ≤
          burst + rate * seconds length) ∧
    (1 ≤ burst → ∀ count, ∃ acts instant, (∀ act ∈ acts, act.isCheck) ∧
      count ≤ countWithin (limiter.admitted client acts) instant instant) := by
  intro limiter
  have stocked : limiter.Stocked client := (@start_sound 0 rate positive.le burst ttl).stockedFor client
  have bounded : ∀ past acts, (∀ act ∈ past ++ acts, act.isCheck) → ∀ first length,
      (countWithin ((limiter.run past).admitted client acts) first (first + length) : Rat) ≤
        burst + rate * seconds (length + setbacks (Act.callsOf client acts)) := by
    intro past acts unswept first length
    have after := stocked.run fun act member => unswept act (List.mem_append_left acts member)
    have bound := countWithin_setbacks_le first length after
      fun act member => unswept act (List.mem_append_right past member)
    rwa [run_start_rate, run_start_burst] at bound
  refine ⟨bounded, ?_, ?_⟩
  · intro past acts unswept ordered first length
    have bound := bounded past acts unswept first length
    rwa [setbacks_of_ordered ordered] at bound
  · intro size count
    obtain ⟨wait, long⟩ := exists_nat_ge (burst / rate)
    have refilled : (burst : Rat) ≤ rate * seconds (wait * nanosecondsPerSecond) := by
      rw [seconds_ofSeconds, mul_comm]
      exact (div_le_iff₀ positive).mp long
    refine ⟨swayingRun client burst (wait * nanosecondsPerSecond) count, wait * nanosecondsPerSecond,
      swayingRun_unswept client burst _ count, ?_⟩
    exact (Nat.le_mul_of_pos_right count size).trans
      (countWithin_swayingRun_ge stocked rfl refilled (balance_of_new rfl))

/-- A token a second, and three calls of which the second one is a second late: two are admitted at one
instant, as many as one token and the second that was set back allow. -/
theorem lateCall_admits_twice :
    let acts : List Act := [.check "client" 1000000000, .check "client" 0, .check "client" 1000000000]
    let limiter : Limiter Rat := start 1 1 3600
    (0 : Rat) < 1 ∧ (∀ act ∈ acts, act.isCheck) ∧ setbacks (Act.callsOf "client" acts) = 1000000000 ∧
      countWithin (limiter.admitted "client" acts) 1000000000 (1000000000 + 0) = 2 ∧
      (countWithin (limiter.admitted "client" acts) 1000000000 (1000000000 + 0) : Rat) ≤
        (1 : Nat) + 1 * seconds (0 + 1000000000) := by
  intro acts limiter
  have positive : (0 : Rat) < 1 := by decide
  have unswept : ∀ act ∈ acts, act.isCheck := by decide
  refine ⟨positive, unswept, by decide, by decide +kernel, ?_⟩
  exact (admitted_beside_late_calls positive 1 3600 "client").1 [] acts unswept 1000000000 0

/-- One late call is enough to break the limit: it allows one call at an instant, and two are admitted. -/
theorem lateCall_breaks_limit :
    let acts : List Act := [.check "client" 1000000000, .check "client" 0, .check "client" 1000000000]
    let limiter : Limiter Rat := start 1 1 3600
    (0 : Rat) < 1 ∧ 1 ≤ 1 ∧ (∀ act ∈ acts, act.isCheck) ∧
      (1 : Rat) + 1 * seconds 0 <
        countWithin (limiter.admitted "client" acts) 1000000000 (1000000000 + 0) := by
  decide +kernel

end Limiter
end MediaServer

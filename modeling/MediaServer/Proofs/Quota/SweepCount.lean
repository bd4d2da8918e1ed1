import MediaServer.Proofs.Quota.Run
import Mathlib.Data.Fintype.EquivFin

namespace MediaServer

/-- How far a sweep is: it reads how many buckets there are, drops the idle ones, and reads again. -/
inductive Sweep
  | due
  | counted (before : Nat)
  | dropped (before : Nat)
  | done (before after : Nat)
  deriving DecidableEq, Repr

/-- A sweep has made its first reading and not its second one. -/
def Sweep.isBetween : Sweep → Bool
  | .counted _ => true
  | .dropped _ => true
  | _ => false

/-- The count that two readings make: there is none if the second one is the greater. -/
def Sweep.count? (before after : Nat) : Option Nat :=
  if after ≤ before then some (before - after) else none

/-- What the readings of a sweep tell, while so many buckets are there, of those that went and came. -/
def Sweep.Balances : Sweep → (tracked gone came : Nat) → Prop
  | .due, _, gone, came => gone = 0 ∧ came = 0
  | .counted before, tracked, gone, came => gone = 0 ∧ tracked = before + came
  | .dropped before, tracked, gone, came => tracked + gone = before + came
  | .done before after, _, gone, came => after + gone = before + came

theorem Sweep.count?_eq_none_iff {before after : Nat} : count? before after = none ↔ before < after := by
  simp [count?]

theorem Sweep.count?_eq_some_iff {before after count : Nat} :
    count? before after = some count ↔ after + count = before := by
  unfold count?
  split
  · rw [Option.some_inj]
    omega
  · constructor
    · exact nofun
    · omega

namespace Limiter

variable {K : Type}

/-- How many buckets are idle. -/
def idle (limiter : Limiter K) (now : Nat) : Nat :=
  limiter.buckets.countP fun entry => !limiter.isFresh now entry.2

/-- How many buckets are added for a client that calls. -/
def added (limiter : Limiter K) (client : String) : Nat :=
  if (limiter.buckets.lookup client).isSome then 0 else 1

theorem tracked_dropIdle (limiter : Limiter K) (now : Nat) :
    (limiter.dropIdle now).tracked + limiter.idle now = limiter.tracked := by
  have split := List.length_eq_countP_add_countP (fun entry => limiter.isFresh now entry.2)
    (l := limiter.buckets)
  simp only [tracked, dropIdle, idle, split, List.countP_eq_length_filter, Bool.not_eq_true,
    Bool.decide_eq_false]

theorem tracked_setBucket (limiter : Limiter K) (client : String) (bucket : Bucket K) :
    (limiter.setBucket client bucket).tracked = limiter.tracked + limiter.added client := by
  unfold setBucket added
  split <;> simp [tracked]

/-- There is always a client that is new. -/
theorem exists_new (limiter : Limiter K) : ∃ client, limiter.buckets.lookup client = none := by
  obtain ⟨client, new⟩ := Infinite.exists_notMem_finset (limiter.buckets.map (·.1)).toFinset
  refine ⟨client, List.lookup_eq_none_iff.mpr fun entry member => ?_⟩
  have different : client ≠ entry.1 := fun same =>
    new (List.mem_toFinset.mpr (same ▸ List.mem_map_of_mem member))
  simpa using different

variable [Tokens K]

/-- Where a sweep may be whose three steps are made between calls of any clients, with the number of buckets
that it has dropped and of those that are new since its first reading. -/
inductive Beside (initial : Limiter K) (now : Nat) : Limiter K → Sweep → (gone came : Nat) → Prop
  | start : Beside initial now initial .due 0 0
  | check {limiter sweep gone came} (client : String) (instant : Nat) :
      Beside initial now limiter sweep gone came →
      Beside initial now (limiter.check client instant).2 sweep gone
        (came + if sweep.isBetween then limiter.added client else 0)
  | count {limiter gone came} : Beside initial now limiter .due gone came →
      Beside initial now limiter (.counted limiter.tracked) gone came
  | drop {limiter before gone came} : Beside initial now limiter (.counted before) gone came →
      Beside initial now (limiter.dropIdle now) (.dropped before) (gone + limiter.idle now) came
  | recount {limiter before gone came} : Beside initial now limiter (.dropped before) gone came →
      Beside initial now limiter (.done before limiter.tracked) gone came

variable {initial limiter : Limiter K} {now before after gone came : Nat} {sweep : Sweep}

theorem Beside.balances (beside : initial.Beside now limiter sweep gone came) :
    sweep.Balances limiter.tracked gone came := by
  induction beside with
  | start => exact ⟨rfl, rfl⟩
  | @check limiter sweep gone came client instant _ ih =>
    have grown : (limiter.check client instant).2.tracked = limiter.tracked + limiter.added client :=
      limiter.tracked_setBucket client _
    rw [grown]
    cases sweep with
    | due => exact ih
    | counted before => exact ⟨ih.1, by rw [ih.2, Nat.add_assoc]; rfl⟩
    | dropped before =>
      simp only [Sweep.Balances, Sweep.isBetween, if_true] at ih ⊢
      omega
    | done before after => exact ih
  | count _ ih =>
    obtain ⟨none, new⟩ := ih
    exact ⟨none, by rw [new, Nat.add_zero]⟩
  | @drop limiter before gone came _ ih =>
    obtain ⟨none, grown⟩ := ih
    have left := limiter.tracked_dropIdle now
    simp only [Sweep.Balances]
    omega
  | recount _ ih => exact ih

/-- After the idle buckets are dropped, any number of new clients may come before the second reading. -/
theorem Beside.newcomers (beside : initial.Beside now limiter (.dropped before) gone came) (count : Nat) :
    ∃ later, initial.Beside now later (.dropped before) gone (came + count) := by
  induction count with
  | zero => exact ⟨limiter, beside⟩
  | succ count ih =>
    obtain ⟨later, reached⟩ := ih
    obtain ⟨client, new⟩ := later.exists_new
    have one : later.added client = 1 := by simp [added, new]
    have next := reached.check client 0
    rw [one] at next
    exact ⟨_, next⟩

/-- A sweep counts the buckets that it drops less those that are new between its two readings; where more are
new than it drops, its readings make no count. Without calls in between it answers as a single step does, and
every sweep may have any number of new clients in between. -/
theorem sweep_counts_beside_calls (initial : Limiter K) (now : Nat) :
    (∀ limiter before after gone came, initial.Beside now limiter (.done before after) gone came →
      (Sweep.count? before after = none ↔ gone < came) ∧
      ∀ count, Sweep.count? before after = some count ↔ count + came = gone) ∧
    (initial.Beside now (initial.evict now).2 (.done initial.tracked (initial.evict now).2.tracked)
        (initial.idle now) 0 ∧
      Sweep.count? initial.tracked (initial.evict now).2.tracked = some (initial.evict now).1) ∧
    ∀ came, ∃ limiter before after,
      initial.Beside now limiter (.done before after) (initial.idle now) came := by
  have dropped : initial.Beside now (initial.dropIdle now) (.dropped initial.tracked) (initial.idle now) 0 := by
    have counted : initial.Beside now initial (.counted initial.tracked) 0 0 := Beside.start.count
    simpa using counted.drop
  refine ⟨?_, ⟨dropped.recount, ?_⟩, ?_⟩
  · intro limiter before after gone came beside
    have balance : after + gone = before + came := beside.balances
    refine ⟨?_, fun count => ?_⟩
    · rw [Sweep.count?_eq_none_iff]
      omega
    · rw [Sweep.count?_eq_some_iff]
      omega
  · have left := initial.tracked_dropIdle now
    rw [Sweep.count?_eq_some_iff]
    simp only [evict]
    omega
  · intro came
    obtain ⟨limiter, reached⟩ := dropped.newcomers came
    rw [Nat.zero_add] at reached
    exact ⟨limiter, _, _, reached.recount⟩

/-- A new client comes between the two readings of a sweep that has nothing to drop. -/
theorem newcomer_beside_idle_sweep :
    ∃ later, (start 1 1 10 : Limiter Rat).Beside 0 later (.done 0 1) 0 1 := by
  let limiter : Limiter Rat := start 1 1 10
  have counted : limiter.Beside 0 limiter (.counted 0) 0 0 := Beside.start.count
  have called : limiter.Beside 0 (limiter.check "new" 0).2 (.counted 0) 0 1 := counted.check "new" 0
  have ended := called.drop.recount
  rw [show (limiter.check "new" 0).2.idle 0 = 0 by decide +kernel,
    show ((limiter.check "new" 0).2.dropIdle 0).tracked = 1 by decide +kernel] at ended
  exact ⟨_, ended⟩

/-- A new client comes between the two readings of a sweep that drops the bucket of an old one. -/
theorem newcomer_beside_sweep :
    ∃ later, ((start 1 1 10 : Limiter Rat).check "old" 0).2.Beside 10000000000 later (.done 1 1) 1 1 := by
  let limiter := ((start 1 1 10 : Limiter Rat).check "old" 0).2
  have counted : limiter.Beside 10000000000 limiter (.counted 1) 0 0 := Beside.start.count
  have called : limiter.Beside 10000000000 (limiter.check "new" 10000000000).2 (.counted 1) 0 1 :=
    counted.check "new" 10000000000
  have ended := called.drop.recount
  rw [show (limiter.check "new" 10000000000).2.idle 10000000000 = 1 by decide +kernel,
    show ((limiter.check "new" 10000000000).2.dropIdle 10000000000).tracked = 1 by decide +kernel] at ended
  exact ⟨_, ended⟩

/-- The sweep that drops the bucket of an old client beside a new one counts none. -/
theorem newcomer_hides_old_client :
    (∃ later, ((start 1 1 10 : Limiter Rat).check "old" 0).2.Beside 10000000000 later (.done 1 1) 1 1) ∧
      Sweep.count? 1 1 = some 0 := by
  obtain ⟨later, beside⟩ := newcomer_beside_sweep
  exact ⟨⟨later, beside⟩, (((sweep_counts_beside_calls _ _).1 later 1 1 1 1 beside).2 0).mpr rfl⟩

/-- One new client between the two readings is enough: the readings of a sweep that drops nothing make no
count, and a sweep that drops one bucket does not count it. -/
theorem newcomer_miscounted :
    (∃ later, (start 1 1 10 : Limiter Rat).Beside 0 later (.done 0 1) 0 1) ∧ Sweep.count? 0 1 = none ∧
    (∃ later, ((start 1 1 10 : Limiter Rat).check "old" 0).2.Beside 10000000000 later (.done 1 1) 1 1) ∧
      Sweep.count? 1 1 ≠ some 1 :=
  ⟨newcomer_beside_idle_sweep, rfl, newcomer_beside_sweep, by decide⟩

end Limiter
end MediaServer

import MediaServer.Proofs.Quota.Run

namespace MediaServer
namespace Limiter

/-- The acts that reach a client's bucket: its own calls, and every sweep. -/
def Act.concerns (client : String) : Act → Bool
  | .check asker _ => asker == client
  | .sweep _ => true

/-- What an act tells of a client: whether its call was admitted, or whether a sweep took its bucket. -/
inductive Notice
  | answered (admitted : Bool)
  | swept (gone : Bool)
  deriving DecidableEq, Repr

/-- Two limiters of one configuration that keep the same bucket for a client, or both none. -/
structure Agree {K : Type} (client : String) (left right : Limiter K) : Prop where
  rate : left.rate = right.rate
  burst : left.burst = right.burst
  ttl : left.ttl = right.ttl
  bucket : left.buckets.lookup client = right.buckets.lookup client

variable {K : Type} {client asker : String} {left right : Limiter K}

theorem Agree.refl (limiter : Limiter K) : Agree client limiter limiter :=
  ⟨rfl, rfl, rfl, rfl⟩

/-- Whether a sweep takes a bucket depends on nothing but the bucket. -/
theorem Agree.dropIdle (agree : Agree client left right) (leftKeyed : left.Keyed)
    (rightKeyed : right.Keyed) (now : Nat) :
    Agree client (left.dropIdle now) (right.dropIdle now) := by
  refine ⟨agree.rate, agree.burst, agree.ttl, ?_⟩
  have fresh : left.isFresh now = right.isFresh now := by
    funext bucket
    rw [isFresh, isFresh, agree.ttl]
  rw [leftKeyed.lookup_dropIdle, rightKeyed.lookup_dropIdle, agree.bucket, fresh]

variable [Tokens K]

def notice? (limiter : Limiter K) (client : String) : Act → Option Notice
  | .check asker now => if asker = client then some (.answered (limiter.check asker now).1) else none
  | .sweep now =>
    some (.swept ((limiter.buckets.lookup client).isSome &&
      ((limiter.evict now).2.buckets.lookup client).isNone))

/-- All that a run tells of a client, in its order. -/
def notices (limiter : Limiter K) (client : String) : List Act → List Notice
  | [] => []
  | act :: acts => (limiter.notice? client act).toList ++ notices (limiter.after act) client acts

theorem Agree.check_fst (agree : Agree client left right) (now : Nat) :
    (left.check client now).1 = (right.check client now).1 := by
  rw [Limiter.check_fst, Limiter.check_fst]
  unfold balance Limiter.bucket
  rw [agree.bucket, agree.burst, agree.rate]

theorem Agree.check (agree : Agree client left right) (now : Nat) :
    Agree client (left.check client now).2 (right.check client now).2 := by
  obtain ⟨rate, burst, ttl⟩ := left.after_fixed (.check client now)
  obtain ⟨rate', burst', ttl'⟩ := right.after_fixed (.check client now)
  refine ⟨rate.trans (agree.rate.trans rate'.symm), burst.trans (agree.burst.trans burst'.symm),
    ttl.trans (agree.ttl.trans ttl'.symm), ?_⟩
  rw [lookup_check, lookup_check, if_pos rfl, if_pos rfl]
  unfold Limiter.bucket
  rw [agree.bucket, agree.burst, agree.rate]

/-- A call of another client reaches no bucket but its own. -/
theorem Agree.check_other (agree : Agree client left right) (other : asker ≠ client) (now : Nat) :
    Agree client (left.check asker now).2 right := by
  obtain ⟨rate, burst, ttl⟩ := left.after_fixed (.check asker now)
  refine ⟨rate.trans agree.rate, burst.trans agree.burst, ttl.trans agree.ttl, ?_⟩
  rw [lookup_check, if_neg (Ne.symm other), agree.bucket]

/-- A run tells a client the same as the run without all calls of others. -/
theorem Agree.notices_concerns {acts : List Act} (agree : Agree client left right)
    (leftKeyed : left.Keyed) (rightKeyed : right.Keyed) :
    left.notices client acts = right.notices client (acts.filter (Act.concerns client)) := by
  induction acts generalizing left right with
  | nil => rfl
  | cons act acts ih =>
    cases act with
    | check asker now =>
      by_cases own : asker = client
      · subst own
        have rest := ih (agree.check now) (leftKeyed.after (.check asker now))
          (rightKeyed.after (.check asker now))
        rw [List.filter_cons_of_pos (by simp [Act.concerns]), notices, notices]
        simp only [notice?, if_true, agree.check_fst now]
        exact congrArg _ rest
      · rw [List.filter_cons_of_neg (by simpa [Act.concerns] using own), notices]
        simp only [notice?, if_neg own]
        exact ih (agree.check_other own now) (leftKeyed.after (.check asker now)) rightKeyed
    | sweep now =>
      have swept := agree.dropIdle leftKeyed rightKeyed now
      have rest := ih swept (leftKeyed.after (.sweep now)) (rightKeyed.after (.sweep now))
      rw [List.filter_cons_of_pos rfl, notices, notices]
      simp only [notice?, evict, agree.bucket, swept.bucket]
      exact congrArg _ rest

/-- Clients are isolated from each other: whatever others call, and whenever they do, a client gets the
same answers, and the same sweeps take its bucket, as long as its own calls and the sweeps are the same. -/
theorem notices_isolated (rate : K) (burst ttl : Nat) (client : String) {acts others : List Act}
    (same : acts.filter (Act.concerns client) = others.filter (Act.concerns client)) :
    (start rate burst ttl).notices client acts = (start rate burst ttl).notices client others := by
  have keyed := start_keyed rate burst ttl
  rw [(Agree.refl _).notices_concerns keyed keyed, same, ← (Agree.refl _).notices_concerns keyed keyed]

/-- Two runs in which a client spends its token, is refused, loses its idle bucket and gets a new one;
the others come before, between and after, and also at instants that go back. -/
theorem busyNeighbours_isolated :
    let quiet : List Act := [.check "a" 0, .check "a" 0, .sweep 10000000000, .check "a" 10000000000]
    let busy : List Act := [.check "b" 7, .check "a" 0, .check "b" 3, .check "c" 10000000000, .check "a" 0,
      .check "b" 10000000000, .sweep 10000000000, .check "c" 5, .check "a" 10000000000, .check "b" 0]
    let limiter : Limiter Rat := start 1 1 10
    busy.filter (Act.concerns "a") = quiet.filter (Act.concerns "a") ∧
      limiter.notices "a" busy = limiter.notices "a" quiet ∧
      limiter.notices "a" quiet = [.answered true, .answered false, .swept true, .answered true] := by
  intro quiet busy limiter
  have same : busy.filter (Act.concerns "a") = quiet.filter (Act.concerns "a") := by decide
  exact ⟨same, notices_isolated 1 1 10 "a" same, by decide +kernel⟩

end Limiter
end MediaServer

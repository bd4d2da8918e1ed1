import MediaServer.Quota.Limiter
import MediaServer.Proofs.Lists.Lookup

namespace MediaServer

/-- What happens to a limiter in its life: a client is checked, or idle buckets are dropped. -/
inductive Limiter.Act
  | check (client : String) (now : Nat)
  | sweep (now : Nat)
  deriving DecidableEq, Repr

def Limiter.Act.now : Act → Nat
  | .check _ now => now
  | .sweep now => now

def Limiter.Act.isCheck : Act → Bool
  | .check _ _ => true
  | .sweep _ => false

/-- The instants at which a client was checked. -/
def Limiter.Act.callsOf (client : String) (acts : List Act) : List Nat :=
  acts.filterMap fun
    | .check asker now => if asker = client then some now else none
    | .sweep _ => none

/-- Induction over a run without sweeps, which is made of checks alone. -/
theorem Limiter.Act.unswept_induction {motive : (acts : List Act) → (∀ act ∈ acts, act.isCheck) → Prop}
    (nil : motive [] fun _ member => nomatch member)
    (check : ∀ asker now acts (rest : ∀ act ∈ acts, act.isCheck), motive acts rest →
      motive (.check asker now :: acts) (List.forall_mem_cons.mpr ⟨rfl, rest⟩))
    (acts : List Act) (unswept : ∀ act ∈ acts, act.isCheck) : motive acts unswept := by
  induction acts with
  | nil => exact nil
  | cons act acts ih =>
    obtain ⟨first, rest⟩ := List.forall_mem_cons.mp unswept
    cases act with
    | check asker now => exact check asker now acts rest (ih rest)
    | sweep now => cases first

variable {K : Type}

theorem Limiter.lookup_setBucket (limiter : Limiter K) (asker client : String) (bucket : Bucket K) :
    (limiter.setBucket asker bucket).buckets.lookup client =
      if client = asker then some bucket else limiter.buckets.lookup client := by
  unfold setBucket
  by_cases known : (limiter.buckets.lookup asker).isSome
  · obtain ⟨old, found⟩ := Option.isSome_iff_exists.mp known
    rw [if_pos known, lookup_replaced]
    by_cases same : client = asker
    · subst same; simp [found]
    · simp [same]
  · rw [if_neg known]
    have absent := Option.not_isSome_iff_eq_none.mp known
    simp only [List.lookup_append, lookup_cons_if, List.lookup_nil]
    by_cases same : client = asker
    · subst same; simp [absent]
    · simp [same]

/-- Each client has one bucket at most. -/
def Limiter.Keyed (limiter : Limiter K) : Prop :=
  (limiter.buckets.map (·.1)).Nodup

/-- A sweep leaves a client its bucket, unless that has been idle for too long. -/
theorem Limiter.Keyed.lookup_dropIdle {limiter : Limiter K} (keyed : limiter.Keyed) (client : String)
    (now : Nat) :
    (limiter.dropIdle now).buckets.lookup client =
      (limiter.buckets.lookup client).filter (limiter.isFresh now) :=
  lookup_filter_value keyed _ client

variable [Tokens K]

/-- The answer to a check; a sweep answers no client. -/
def Limiter.answer? (limiter : Limiter K) : Act → Option Bool
  | .check client now => some (limiter.check client now).1
  | .sweep _ => none

def Limiter.after (limiter : Limiter K) : Act → Limiter K
  | .check client now => (limiter.check client now).2
  | .sweep now => (limiter.evict now).2

def Limiter.run (limiter : Limiter K) (acts : List Act) : Limiter K :=
  acts.foldl after limiter

/-- The answers to all checks of a run, in their order. -/
def Limiter.answers (limiter : Limiter K) : List Act → List Bool
  | [] => []
  | act :: acts => (limiter.answer? act).toList ++ answers (limiter.after act) acts

/-- The instants at which a run admitted a client, in their order. -/
def Limiter.admitted (limiter : Limiter K) (client : String) : List Act → List Nat
  | [] => []
  | act :: acts =>
    (if limiter.answer? act = some true then Act.callsOf client [act] else []) ++
      admitted (limiter.after act) client acts

/-- The tokens a client can draw on at an instant. All that a limiter does to a client is told
by them. -/
def Limiter.balance (limiter : Limiter K) (client : String) (now : Nat) : K :=
  ((limiter.bucket client now).refill limiter.burst limiter.rate now).tokens

theorem Limiter.admitted_append (limiter : Limiter K) (client : String) (past future : List Act) :
    limiter.admitted client (past ++ future) =
      limiter.admitted client past ++ (limiter.run past).admitted client future := by
  induction past generalizing limiter with
  | nil => rfl
  | cons act past ih =>
    rw [List.cons_append, admitted, admitted, ih, List.append_assoc]
    rfl

theorem Limiter.run_append (limiter : Limiter K) (past future : List Act) :
    limiter.run (past ++ future) = (limiter.run past).run future :=
  List.foldl_append

theorem Limiter.check_fst (limiter : Limiter K) (client : String) (now : Nat) :
    (limiter.check client now).1 = Tokens.reaches (limiter.balance client now) (Tokens.ofNat 1) := by
  simp only [check, balance, Bucket.take]
  split <;> simp_all

/-- Rate, size and patience of a limiter are set once and for all. -/
theorem Limiter.after_fixed (limiter : Limiter K) (act : Act) :
    (limiter.after act).rate = limiter.rate ∧ (limiter.after act).burst = limiter.burst ∧
      (limiter.after act).ttl = limiter.ttl := by
  cases act with
  | check client now =>
    simp only [after, check, setBucket]
    split <;> exact ⟨rfl, rfl, rfl⟩
  | sweep now => exact ⟨rfl, rfl, rfl⟩

theorem Limiter.run_fixed (limiter : Limiter K) (acts : List Act) :
    (limiter.run acts).rate = limiter.rate ∧ (limiter.run acts).burst = limiter.burst ∧
      (limiter.run acts).ttl = limiter.ttl := by
  induction acts generalizing limiter with
  | nil => exact ⟨rfl, rfl, rfl⟩
  | cons act acts ih =>
    obtain ⟨rate, burst, ttl⟩ := ih (limiter.after act)
    obtain ⟨rate', burst', ttl'⟩ := limiter.after_fixed act
    exact ⟨rate.trans rate', burst.trans burst', ttl.trans ttl'⟩

theorem Limiter.start_keyed (rate : K) (burst ttl : Nat) : (start rate burst ttl).Keyed :=
  List.nodup_nil

theorem Limiter.Keyed.after {limiter : Limiter K} (keyed : limiter.Keyed) (act : Act) :
    (limiter.after act).Keyed := by
  cases act with
  | check client now =>
    simp only [Limiter.after, check, setBucket, Keyed]
    by_cases known : (limiter.buckets.lookup client).isSome
    · have names : ∀ bucket : Bucket K,
          (limiter.buckets.map fun entry => if entry.1 == client then (client, bucket) else entry).map
            (·.1) = limiter.buckets.map (·.1) := by
        intro bucket
        rw [List.map_map]
        refine List.map_congr_left fun entry _ => ?_
        by_cases same : entry.1 = client <;> simp [same]
      rw [if_pos known]
      exact (names _).symm ▸ keyed
    · rw [if_neg known, List.map_append]
      refine List.nodup_append.mpr ⟨keyed, by simp, ?_⟩
      intro name member other single equal
      obtain ⟨entry, inside, rfl⟩ := List.mem_map.mp member
      have unknown := Option.not_isSome_iff_eq_none.mp known
      have different := List.lookup_eq_none_iff.mp unknown entry inside
      simp_all
  | sweep now => exact (List.filter_sublist.map _).nodup keyed

/-- The bucket of a client after a check of any client. -/
theorem Limiter.lookup_check (limiter : Limiter K) (asker client : String) (now : Nat) :
    (limiter.check asker now).2.buckets.lookup client =
      if client = asker then
        some ((limiter.bucket asker now).refill limiter.burst limiter.rate now).take.2
      else limiter.buckets.lookup client :=
  limiter.lookup_setBucket asker client _

end MediaServer

import MediaServer.Proofs.Quota.Exactness

namespace MediaServer
namespace Limiter

variable {limiter : Limiter Rat} {client : String} {now later : Nat}

/-- What every run keeps: each client has one bucket at most, none was counted later than now,
and no token was taken that was not there. -/
structure Sound (limiter : Limiter Rat) (now : Nat) : Prop where
  rate_nonneg : 0 ≤ limiter.rate
  burst_nonneg : 0 ≤ limiter.burst
  keyed : limiter.Keyed
  settled : ∀ client, limiter.Settled client now
  stocked : ∀ client bucket, limiter.buckets.lookup client = some bucket → 0 ≤ bucket.tokens

theorem start_sound {rate : Rat} (nonneg : 0 ≤ rate) (burst ttl : Nat) :
    (start rate burst ttl).Sound now where
  rate_nonneg := nonneg
  burst_nonneg := burst.cast_nonneg
  keyed := start_keyed rate burst ttl
  settled _ := start_settled
  stocked client bucket found := by simp [start] at found

theorem Sound.stockedFor (sound : limiter.Sound now) (client : String) : limiter.Stocked client :=
  ⟨sound.rate_nonneg, sound.burst_nonneg, sound.stocked client⟩

theorem Sound.after (sound : limiter.Sound now) {act : Act} (order : now ≤ act.now) :
    (limiter.after act).Sound act.now := by
  obtain ⟨rate, burst, -⟩ := limiter.after_fixed act
  refine ⟨rate ▸ sound.rate_nonneg, burst ▸ sound.burst_nonneg, sound.keyed.after act, ?_, ?_⟩
  · intro client
    cases act with
    | check asker instant => exact ((sound.settled client).mono order).check fun _ => le_rfl
    | sweep instant =>
      intro bucket found
      rw [show limiter.after (.sweep instant) = limiter.dropIdle instant from rfl,
        sound.keyed.lookup_dropIdle] at found
      exact ((sound.settled client).mono order) bucket (Option.filter_eq_some_iff.mp found).1
  · intro client bucket found
    cases act with
    | check asker instant => exact ((sound.stockedFor client).check asker instant).tokens_nonneg bucket found
    | sweep instant =>
      rw [show limiter.after (.sweep instant) = limiter.dropIdle instant from rfl,
        sound.keyed.lookup_dropIdle] at found
      exact sound.stocked client bucket (Option.filter_eq_some_iff.mp found).1

theorem Sound.mono (sound : limiter.Sound now) (order : now ≤ later) : limiter.Sound later :=
  { sound with settled := fun client => (sound.settled client).mono order }

theorem Sound.run {acts : List Act} (sound : limiter.Sound now)
    (ordered : (now :: acts.map Act.now).Pairwise (· ≤ ·)) (reached : now ≤ later)
    (past : ∀ act ∈ acts, act.now ≤ later) : (limiter.run acts).Sound later := by
  induction acts generalizing limiter now with
  | nil => exact sound.mono reached
  | cons act acts ih =>
    obtain ⟨before, rest⟩ := List.pairwise_cons.mp ordered
    exact ih (sound.after (before act.now (by simp))) rest (past act List.mem_cons_self)
      fun other member => past other (List.mem_cons_of_mem _ member)

/-- A sweep drops every bucket that was not counted for as long as the limiter waits. -/
theorem Sound.dropIdle_all (sound : limiter.Sound now) (idle : now + limiter.ttl ≤ later) :
    (limiter.dropIdle later).buckets.lookup client = none := by
  rw [sound.keyed.lookup_dropIdle, Option.filter_eq_none_iff]
  intro bucket found
  have counted := sound.settled client bucket found
  simp only [isFresh, decide_eq_true_eq]
  omega

/-- A bucket that is dropped would be full again by now, so that nobody can tell it from a new one. -/
theorem Sound.balance_sweep (sound : limiter.Sound now)
    (patient : limiter.burst ≤ limiter.rate * seconds limiter.ttl) (order : now ≤ later) :
    (limiter.dropIdle now).balance client later = limiter.balance client later := by
  have found := sound.keyed.lookup_dropIdle client now
  cases known : limiter.buckets.lookup client with
  | none =>
    rw [known, Option.filter_none] at found
    rw [balance_of_new found, balance_of_new known]
    rfl
  | some bucket =>
    rw [known] at found
    by_cases fresh : limiter.isFresh now bucket
    · rw [Option.filter_some, if_pos fresh] at found
      rw [balance_of_known found, balance_of_known known]
      rfl
    · rw [Option.filter_some, if_neg fresh] at found
      have idle : limiter.ttl ≤ later - bucket.counted := by
        simp only [isFresh, decide_eq_true_eq] at fresh
        omega
      have gained := mul_le_mul_of_nonneg_left (seconds_mono idle) sound.rate_nonneg
      have stock := sound.stocked client bucket known
      rw [balance_of_new found, balance_of_known known, min_eq_right (by linarith)]
      rfl

/-- Two limiters that no client can tell apart from now on. -/
def Alike (left right : Limiter Rat) (now : Nat) : Prop :=
  ∀ client later, now ≤ later → left.balance client later = right.balance client later

theorem Alike.check_fst {left right : Limiter Rat} (alike : Alike left right now) (order : now ≤ later) :
    (left.check client later).1 = (right.check client later).1 := by
  rw [Limiter.check_fst, Limiter.check_fst, alike client later order]

theorem Alike.check {left right : Limiter Rat} (alike : Alike left right now)
    (leftSound : left.Sound now) (rightSound : right.Sound now) (sameRate : left.rate = right.rate)
    (sameBurst : left.burst = right.burst) (asker : String) {instant : Nat} (order : now ≤ instant) :
    Alike (left.check asker instant).2 (right.check asker instant).2 instant := by
  intro client later after
  have before := alike client later (order.trans after)
  have answer : (left.check asker instant).1 = (right.check asker instant).1 := alike.check_fst order
  by_cases same : client = asker
  · subst same
    by_cases granted : (left.check client instant).1 = true
    · rw [balance_check_admitted granted, balance_check_admitted (answer ▸ granted),
        alike client instant order, sameRate, sameBurst]
    · have refused : (left.check client instant).1 = false := by simpa using granted
      rw [balance_check_refused leftSound.rate_nonneg ((leftSound.settled client).mono order) after refused,
        balance_check_refused rightSound.rate_nonneg ((rightSound.settled client).mono order) after
          (answer ▸ refused), before]
  · rw [balance_check_other same, balance_check_other same, before]

/-- With patience enough to refill a bucket, a run and the same run without its sweeps cannot be
told apart: not by any answer, and not by whom they admit. -/
theorem Alike.run {left right : Limiter Rat} {acts : List Act} (alike : Alike left right now)
    (leftSound : left.Sound now) (rightSound : right.Sound now) (sameRate : left.rate = right.rate)
    (sameBurst : left.burst = right.burst) (patient : left.burst ≤ left.rate * seconds left.ttl)
    (ordered : (now :: acts.map Act.now).Pairwise (· ≤ ·)) :
    left.answers acts = right.answers (acts.filter (·.isCheck)) ∧
      ∀ client, left.admitted client acts = right.admitted client (acts.filter (·.isCheck)) := by
  induction acts generalizing left right now with
  | nil => exact ⟨rfl, fun _ => rfl⟩
  | cons act acts ih =>
    obtain ⟨before, rest⟩ := List.pairwise_cons.mp ordered
    have order : now ≤ act.now := before act.now (by simp)
    obtain ⟨rate, burst, ttl⟩ := left.after_fixed act
    have patientAfter : (left.after act).burst ≤ (left.after act).rate * seconds (left.after act).ttl := by
      rwa [rate, burst, ttl]
    cases act with
    | check asker instant =>
      obtain ⟨rate', burst', -⟩ := right.after_fixed (.check asker instant)
      have next : Alike (left.after (.check asker instant)) (right.after (.check asker instant)) instant :=
        alike.check leftSound rightSound sameRate sameBurst asker order
      obtain ⟨answers, admitted⟩ := ih next (leftSound.after order) (rightSound.after order)
        (rate.trans (sameRate.trans rate'.symm)) (burst.trans (sameBurst.trans burst'.symm))
        patientAfter rest
      have answer : left.answer? (.check asker instant) = right.answer? (.check asker instant) :=
        congrArg some (alike.check_fst order)
      rw [List.filter_cons_of_pos rfl]
      refine ⟨?_, fun client => ?_⟩
      · rw [Limiter.answers, Limiter.answers, answer, answers]
      · rw [Limiter.admitted, Limiter.admitted, answer, admitted]
    | sweep instant =>
      have swept : Alike (left.after (.sweep instant)) right instant := by
        intro client later after
        rw [← alike client later (order.trans after)]
        exact (leftSound.mono order).balance_sweep patient after
      obtain ⟨answers, admitted⟩ := ih swept (leftSound.after order) (rightSound.mono order)
        (rate.trans sameRate) (burst.trans sameBurst) patientAfter rest
      rw [List.filter_cons_of_neg (by simp [Act.isCheck])]
      exact ⟨answers, admitted⟩

/-- Calls at one instant are admitted as long as there are tokens for them. -/
theorem answers_replicate {count : Nat} (enough : (count : Rat) ≤ limiter.balance client now) :
    limiter.answers (List.replicate count (.check client now)) = List.replicate count true := by
  induction count generalizing limiter with
  | zero => rfl
  | succ count ih =>
    rw [Nat.cast_succ] at enough
    have rest : (0 : Rat) ≤ count := count.cast_nonneg
    have granted : (limiter.check client now).1 = true := check_fst_iff.mpr (by linarith)
    have left : (count : Rat) ≤ (limiter.check client now).2.balance client now := by
      have size := @balance_le_burst limiter client now
      rw [balance_check_admitted granted, Nat.sub_self, seconds_zero, mul_zero, add_zero]
      exact le_min (by linarith) (by linarith)
    rw [List.replicate_succ, answers, List.replicate_succ, ← ih left]
    simp [answer?, granted, after]

theorem answers_append (limiter : Limiter Rat) (past future : List Act) :
    limiter.answers (past ++ future) = limiter.answers past ++ (limiter.run past).answers future := by
  induction past generalizing limiter with
  | nil => rfl
  | cons act past ih =>
    rw [List.cons_append, answers, answers, ih, List.append_assoc]
    rfl

/-- Where every call was admitted, what was admitted is all that was called. -/
theorem admitted_eq_callsOf {acts : List Act}
    (granted : ∀ answer ∈ limiter.answers acts, answer = true) :
    limiter.admitted client acts = Act.callsOf client acts := by
  induction acts generalizing limiter with
  | nil => rfl
  | cons act acts ih =>
    rw [admitted, show act :: acts = [act] ++ acts from rfl, callsOf_append, ih]
    · cases act with
      | check asker instant =>
        have yes := granted (limiter.check asker instant).1 (by simp [answers, answer?])
        simp [answer?, yes]
      | sweep instant => simp [answer?, Act.callsOf]
    · exact fun answer member => granted answer (List.mem_append_right _ member)

/-- All tokens at once, a sweep as soon as the bucket is idle, and all tokens once more. -/
def impatientRun (burst ttl : Nat) : List Act :=
  List.replicate burst (.check "client" 0) ++
    .sweep (ttl * nanosecondsPerSecond) ::
      List.replicate burst (.check "client" (ttl * nanosecondsPerSecond))

theorem impatientRun_ordered (burst ttl : Nat) :
    ((impatientRun burst ttl).map Act.now).Pairwise (· ≤ ·) := by
  simp only [impatientRun, List.map_append, List.map_replicate, List.map_cons, Act.now]
  refine List.pairwise_append.mpr ⟨by simp [List.pairwise_replicate], ?_, ?_⟩
  · refine List.pairwise_cons.mpr ⟨?_, by simp [List.pairwise_replicate]⟩
    exact fun instant member => (List.eq_of_mem_replicate member).ge
  · exact fun first member _ _ => (List.eq_of_mem_replicate member) ▸ Nat.zero_le _

theorem impatientRun_calls (burst ttl : Nat) :
    Act.callsOf "client" (impatientRun burst ttl) =
      List.replicate burst 0 ++ List.replicate burst (ttl * nanosecondsPerSecond) := by
  simp [impatientRun, Act.callsOf]

theorem impatientRun_answers {rate : Rat} (nonneg : 0 ≤ rate) (burst ttl : Nat) :
    (start rate burst ttl).answers (impatientRun burst ttl) = List.replicate (burst + burst) true := by
  have full : (burst : Rat) ≤ (start rate burst ttl).balance "client" 0 := (balance_of_new rfl).ge
  have sound : ((start rate burst ttl).run (List.replicate burst (.check "client" 0))).Sound 0 := by
    refine (start_sound nonneg burst ttl).run ?_ le_rfl ?_
    · refine List.pairwise_cons.mpr ⟨fun _ _ => Nat.zero_le _, ?_⟩
      simp [List.pairwise_replicate]
    · exact fun act member => (List.eq_of_mem_replicate member) ▸ le_rfl
  obtain ⟨-, size, wait⟩ := (start rate burst ttl).run_fixed (List.replicate burst (.check "client" 0))
  have again : (burst : Rat) ≤
      (((start rate burst ttl).run (List.replicate burst (.check "client" 0))).dropIdle
        (ttl * nanosecondsPerSecond)).balance "client" (ttl * nanosecondsPerSecond) := by
    rw [balance_of_new (sound.dropIdle_all (by rw [wait, Nat.zero_add]; rfl))]
    exact size.ge
  rw [impatientRun, answers_append, answers_replicate full, List.replicate_add]
  exact congrArg _ (answers_replicate again)

theorem impatientRun_window (burst ttl : Nat) :
    countWithin (Act.callsOf "client" (impatientRun burst ttl)) 0 (0 + ttl * nanosecondsPerSecond) =
      burst + burst := by
  rw [impatientRun_calls, countWithin, List.countP_append, List.countP_replicate, List.countP_replicate]
  simp

theorem seconds_ofSeconds (count : Nat) : seconds (count * nanosecondsPerSecond) = count := by
  rw [seconds_eq, nanosecondsPerSecond, Nat.cast_mul]
  norm_num

/-- Where a bucket refills within the time after which it is dropped, sweeps show in no answer.
Otherwise a client who draws all tokens and is then forgotten may draw them all again. -/
theorem answers_checks_iff {rate : Rat} (nonneg : 0 ≤ rate) (burst ttl : Nat) :
    (∀ acts : List Act, (acts.map Act.now).Pairwise (· ≤ ·) →
      (start rate burst ttl).answers acts = (start rate burst ttl).answers (acts.filter (·.isCheck))) ↔
      (burst : Rat) ≤ rate * ttl := by
  constructor
  · intro alike
    have same := alike (impatientRun burst ttl) (impatientRun_ordered burst ttl)
    rw [impatientRun_answers nonneg] at same
    have granted : (start rate burst ttl).admitted "client" ((impatientRun burst ttl).filter (·.isCheck)) =
        Act.callsOf "client" (impatientRun burst ttl) := by
      rw [admitted_eq_callsOf, callsOf_checks]
      exact fun answer member => List.eq_of_mem_replicate (same ▸ member)
    have calls := ((impatientRun_ordered burst ttl).sublist (callsOf_sublist "client" _))
    have bound := @countWithin_admitted_le rate burst ttl "client" nonneg
      ((impatientRun burst ttl).filter (·.isCheck)) (fun act member => (List.mem_filter.mp member).2)
      (by rwa [callsOf_checks]) 0 (ttl * nanosecondsPerSecond)
    rw [granted, impatientRun_window, seconds_ofSeconds, Nat.cast_add] at bound
    linarith
  · intro patient acts ordered
    have sound : (start rate burst ttl).Sound 0 := start_sound nonneg burst ttl
    refine (Alike.run (fun _ _ _ => rfl) sound sound rfl rfl ?_ ?_).1
    · exact (seconds_ofSeconds ttl).symm ▸ patient
    · exact List.pairwise_cons.mpr ⟨fun _ _ => Nat.zero_le _, ordered⟩

/-- The limit over windows holds beside sweeps in the very same cases. -/
theorem windows_beside_sweeps_iff {rate : Rat} (nonneg : 0 ≤ rate) (burst ttl : Nat) :
    (∀ (acts : List Act) (client : String) (first length : Nat),
      (acts.map Act.now).Pairwise (· ≤ ·) →
        (countWithin ((start rate burst ttl).admitted client acts) first (first + length) : Rat) ≤
          burst + rate * seconds length) ↔
      (burst : Rat) ≤ rate * ttl := by
  constructor
  · intro limited
    have bound := limited (impatientRun burst ttl) "client" 0 (ttl * nanosecondsPerSecond)
      (impatientRun_ordered burst ttl)
    rw [admitted_eq_callsOf, impatientRun_window, seconds_ofSeconds, Nat.cast_add] at bound
    · linarith
    · rw [impatientRun_answers nonneg]
      exact fun answer member => List.eq_of_mem_replicate member
  · intro patient acts client first length ordered
    have sound : (start rate burst ttl).Sound 0 := start_sound nonneg burst ttl
    have alike := (Alike.run (fun _ _ _ => rfl) sound sound rfl rfl ((seconds_ofSeconds ttl).symm ▸ patient)
      (List.pairwise_cons.mpr ⟨fun _ _ => Nat.zero_le _, ordered⟩)).2 client
    rw [alike]
    refine countWithin_admitted_le nonneg (fun act member => (List.mem_filter.mp member).2) ?_ first length
    rw [callsOf_checks]
    exact ordered.sublist (callsOf_sublist client acts)

end Limiter
end MediaServer

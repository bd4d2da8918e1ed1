import MediaServer.Proofs.Quota.Windows
import Mathlib.Data.List.Induction

namespace MediaServer
namespace Limiter

variable {rate : Rat} {burst ttl now : Nat} {client : String}

theorem start_settled : (start rate burst ttl).Settled client now := by
  intro bucket found
  simp [start] at found

theorem run_start_rate (acts : List Act) : ((start rate burst ttl).run acts).rate = rate :=
  (run_fixed _ acts).1

theorem run_start_burst (acts : List Act) : ((start rate burst ttl).run acts).burst = burst :=
  (run_fixed _ acts).2.1

/-- The running balance, capped again and again, is the least that any window ending now leaves.
Refused checks are among those that cap and recount it, and do not change what is left. -/
theorem balance_run (positive : 0 ≤ rate) {acts : List Act} (unswept : ∀ act ∈ acts, act.isCheck)
    (ordered : (Act.callsOf client acts).Pairwise (· ≤ ·))
    (past : ∀ call ∈ Act.callsOf client acts, call ≤ now) :
    ((start rate burst ttl).run acts).balance client now =
      room rate burst ((start rate burst ttl).admitted client acts).reverse now := by
  induction acts using List.reverseRecOn generalizing now with
  | nil => exact balance_of_new rfl
  | append_singleton acts act ih =>
    rw [callsOf_append, List.pairwise_append] at ordered
    rw [callsOf_append] at past
    have unsweptBefore : ∀ other ∈ acts, other.isCheck :=
      fun other member => unswept other (List.mem_append_left _ member)
    have pastBefore : ∀ call ∈ Act.callsOf client acts, call ≤ now :=
      fun call member => past call (List.mem_append_left _ member)
    have before := ih unsweptBefore ordered.1 pastBefore
    rw [run_append, admitted_append, List.reverse_append]
    cases act with
    | sweep instant => exact absurd (unswept (.sweep instant) (by simp)) (by simp [Act.isCheck])
    | check asker instant =>
      change ((run _ acts).check asker instant).2.balance client now = _
      by_cases same : asker = client
      · subst same
        have single : Act.callsOf asker [.check asker instant] = [instant] := by simp [Act.callsOf]
        rw [single] at ordered past
        have order : instant ≤ now := past instant (by simp)
        have pastInstant : ∀ call ∈ Act.callsOf asker acts, call ≤ instant :=
          fun call member => ordered.2.2 call member instant (List.mem_singleton_self _)
        have settled : ((start rate burst ttl).run acts).Settled asker instant :=
          start_settled.run unsweptBefore pastInstant
        by_cases granted : (((start rate burst ttl).run acts).check asker instant).1 = true
        · rw [balance_check_admitted granted, ih unsweptBefore ordered.1 pastInstant, run_start_rate,
            run_start_burst]
          simp [admitted, answer?, granted, single, room]
        · rw [balance_check_refused (by rwa [run_start_rate]) settled order (by simpa using granted),
            before]
          simp [admitted, answer?, granted]
      · rw [balance_check_other (Ne.symm same), before]
        simp [admitted, Act.callsOf, same]

theorem admitted_ordered {acts : List Act} (ordered : (Act.callsOf client acts).Pairwise (· ≤ ·))
    (past : ∀ call ∈ Act.callsOf client acts, call ≤ now) (limiter : Limiter Rat) :
    (now :: (limiter.admitted client acts).reverse).Pairwise (· ≥ ·) := by
  have calls := limiter.admitted_sublist client acts
  refine List.pairwise_cons.mpr ⟨?_, List.pairwise_reverse.mpr (ordered.sublist calls)⟩
  intro instant member
  exact past instant (calls.subset (List.mem_reverse.mp member))

theorem check_run_iff (positive : 0 ≤ rate) {acts : List Act} (unswept : ∀ act ∈ acts, act.isCheck)
    (ordered : (Act.callsOf client acts).Pairwise (· ≤ ·))
    (past : ∀ call ∈ Act.callsOf client acts, call ≤ now) :
    (((start rate burst ttl).run acts).check client now).1 = true ↔
      1 ≤ burst ∧ ∀ first ∈ (start rate burst ttl).admitted client acts,
        (countWithin ((start rate burst ttl).admitted client acts) first now : Rat) + 1 ≤
          burst + rate * seconds (now - first) := by
  have sorted := admitted_ordered ordered past (start rate burst ttl)
  have before : ∀ instant ∈ (start rate burst ttl).admitted client acts, instant ≤ now :=
    fun instant member => (List.pairwise_cons.mp sorted).1 instant (List.mem_reverse.mpr member)
  rw [check_fst_iff, balance_run positive unswept ordered past, le_room_iff sorted]
  refine and_congr Nat.one_le_cast (forall_congr' fun first => ?_)
  rw [List.mem_reverse, List.countP_reverse, countWithin_eq_countP before first, add_comm (1 : Rat)]

/-- The limit holds over every window. The last call that a window admits was checked against the
part of the window that begins with the first one. -/
theorem countWithin_admitted_le (positive : 0 ≤ rate) {acts : List Act}
    (unswept : ∀ act ∈ acts, act.isCheck) (ordered : (Act.callsOf client acts).Pairwise (· ≤ ·))
    (first length : Nat) :
    (countWithin ((start rate burst ttl).admitted client acts) first (first + length) : Rat) ≤
      burst + rate * seconds length := by
  have nonneg : (0 : Rat) ≤ burst + rate * seconds length :=
    add_nonneg burst.cast_nonneg (mul_nonneg positive (seconds_nonneg length))
  induction acts using List.reverseRecOn with
  | nil => simpa [admitted, countWithin] using nonneg
  | append_singleton acts act ih =>
    rw [callsOf_append, List.pairwise_append] at ordered
    have unsweptBefore : ∀ other ∈ acts, other.isCheck :=
      fun other member => unswept other (List.mem_append_left _ member)
    have before := ih unsweptBefore ordered.1
    rw [admitted_append]
    -- Either the last act adds nothing to the window, or it is a call of the client that it holds.
    by_cases outside : countWithin (((start rate burst ttl).run acts).admitted client [act])
        first (first + length) = 0
    · rw [countWithin, List.countP_append, ← countWithin, ← countWithin, outside, add_zero]
      exact before
    cases act with
    | sweep instant => simp [admitted, answer?, countWithin] at outside
    | check asker instant =>
      by_cases granted : (((start rate burst ttl).run acts).check asker instant).1 = true
      · by_cases same : asker = client
        · subst same
          have single : Act.callsOf asker [.check asker instant] = [instant] := by simp [Act.callsOf]
          have added : ((start rate burst ttl).run acts).admitted asker [.check asker instant] =
              [instant] := by
            simp [admitted, answer?, granted, single]
          rw [single] at ordered
          have past : ∀ call ∈ Act.callsOf asker acts, call ≤ instant :=
            fun call member => ordered.2.2 call member instant (List.mem_singleton_self _)
          have sorted := List.pairwise_cons.mp (admitted_ordered ordered.1 past (start rate burst ttl))
          obtain ⟨size, closed⟩ := (check_run_iff positive unsweptBefore ordered.1 past).mp granted
          rw [added] at outside ⊢
          have inside : first ≤ instant ∧ instant ≤ first + length := by
            by_contra apart
            refine outside (List.countP_eq_zero.mpr fun other member => ?_)
            rw [List.mem_singleton.mp member]
            simpa using apart
          exact countWithin_snoc_le positive (List.pairwise_reverse.mp sorted.2)
            (fun other member => sorted.1 other (List.mem_reverse.mpr member)) size closed
            inside.1 inside.2
        · simp [admitted, Act.callsOf, same, countWithin] at outside
      · simp [admitted, answer?, granted, countWithin] at outside

/-- What stands before a check in a run is a run of the same kind, and no call of it is later. -/
theorem before_check {past future : List Act}
    (unswept : ∀ act ∈ past ++ .check client now :: future, act.isCheck)
    (ordered : (Act.callsOf client (past ++ .check client now :: future)).Pairwise (· ≤ ·)) :
    (∀ act ∈ past, act.isCheck) ∧ (Act.callsOf client past).Pairwise (· ≤ ·) ∧
      ∀ call ∈ Act.callsOf client past, call ≤ now := by
  rw [callsOf_append, List.pairwise_append] at ordered
  have here : now ∈ Act.callsOf client (.check client now :: future) := by simp [Act.callsOf]
  exact ⟨fun act member => unswept act (List.mem_append_left _ member), ordered.1,
    fun call member => ordered.2.2 call member now here⟩

/-- Without sweeps, a client is admitted exactly if no window that its call closes would hold more
than the burst and what the rate adds over its length. So no window ever does, and no call is
refused that would have respected that. -/
theorem admits_what_windows_allow {rate : Rat} (positive : 0 < rate) (burst ttl : Nat)
    (client : String) (acts : List Act) (unswept : ∀ act ∈ acts, act.isCheck)
    (ordered : (Act.callsOf client acts).Pairwise (· ≤ ·)) :
    let limiter : Limiter Rat := start rate burst ttl
    (∀ past now future, acts = past ++ .check client now :: future →
      (((limiter.run past).check client now).1 = true ↔
        1 ≤ burst ∧ ∀ instant ∈ limiter.admitted client past,
          (countWithin (limiter.admitted client past) instant now : Rat) + 1 ≤
            burst + rate * seconds (now - instant))) ∧
    (∀ first length,
      (countWithin (limiter.admitted client acts) first (first + length) : Rat) ≤
        burst + rate * seconds length) ∧
    ∀ past now future, acts = past ++ .check client now :: future →
      ((limiter.run past).check client now).1 = false →
        ∃ first ≤ now, burst + rate * seconds (now - first) <
          (countWithin (limiter.admitted client past) first now : Rat) + 1 := by
  refine ⟨?_, countWithin_admitted_le positive.le unswept ordered, ?_⟩
  · rintro past now future rfl
    obtain ⟨unsweptPast, orderedPast, before⟩ := before_check unswept ordered
    exact check_run_iff positive.le unsweptPast orderedPast before
  · rintro past now future rfl refused
    obtain ⟨unsweptPast, orderedPast, before⟩ := before_check unswept ordered
    have admits := @check_run_iff rate burst ttl now client positive.le past unsweptPast orderedPast before
    rw [refused] at admits
    by_cases size : 1 ≤ burst
    · have full : ¬ ∀ first ∈ (start rate burst ttl).admitted client past,
          (countWithin ((start rate burst ttl).admitted client past) first now : Rat) + 1 ≤
            burst + rate * seconds (now - first) :=
        fun fits => Bool.false_ne_true (admits.mpr ⟨size, fits⟩)
      push Not at full
      obtain ⟨first, member, tooMany⟩ := full
      exact ⟨first, before first ((admitted_sublist _ client past).subset member), tooMany⟩
    · have empty : burst = 0 := by omega
      have some : (0 : Rat) ≤
          (countWithin ((start rate burst ttl).admitted client past) now now : Rat) := Nat.cast_nonneg _
      refine ⟨now, le_rfl, ?_⟩
      rw [Nat.sub_self, seconds_zero, empty, Nat.cast_zero]
      linarith

/-- Three tokens at once and two a second: the eighth call within the first second is refused,
since the window of that second already holds five. -/
theorem admits_five_in_the_first_second :
    let calls : List Act := [0, 0, 0, 0, 500000000, 500000000, 1000000000].map (.check "client")
    let limiter : Limiter Rat := start 2 3 3600
    (0 : Rat) < 2 ∧ (∀ act ∈ calls ++ [.check "client" 1000000000], act.isCheck) ∧
    (Act.callsOf "client" (calls ++ [.check "client" 1000000000])).Pairwise (· ≤ ·) ∧
    limiter.admitted "client" calls = [0, 0, 0, 500000000, 1000000000] ∧
    ((limiter.run calls).check "client" 1000000000).1 = false ∧
    ∃ first ≤ 1000000000, 3 + 2 * seconds (1000000000 - first) <
      (countWithin (limiter.admitted "client" calls) first 1000000000 : Rat) + 1 := by
  intro calls limiter
  have positive : (0 : Rat) < 2 := by decide
  have unswept : ∀ act ∈ calls ++ [.check "client" 1000000000], act.isCheck := by decide
  have ordered :
      (Act.callsOf "client" (calls ++ [.check "client" 1000000000])).Pairwise (· ≤ ·) := by decide
  have refused : ((limiter.run calls).check "client" 1000000000).1 = false := by decide +kernel
  refine ⟨positive, unswept, ordered, by decide +kernel, refused, ?_⟩
  exact (admits_what_windows_allow positive 3 3600 "client" _ unswept ordered).2.2 calls 1000000000 []
    rfl refused

end Limiter
end MediaServer

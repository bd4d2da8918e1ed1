import MediaServer.Proofs.Quota.Balance

namespace MediaServer

/-- How many of the instants lie between two, both included. -/
def countWithin (instants : List Nat) (first last : Nat) : Nat :=
  instants.countP fun instant => first ≤ instant && instant ≤ last

/-- What is left for a new call when a limit is kept over every window that ends with it: the
instants of the calls before it are given from the latest to the first. -/
def room (rate burst : Rat) : List Nat → Nat → Rat
  | [], _ => burst
  | latest :: earlier, now =>
    min (room rate burst earlier latest - 1 + rate * seconds (now - latest)) burst

/-- The recursion of `room` unrolled: each earlier call opens a window of its own, and the window
of the first of equal instants contains those of the others. -/
theorem le_room_iff {rate burst : Rat} {instants : List Nat} {now : Nat}
    (ordered : (now :: instants).Pairwise (· ≥ ·)) (level : Rat) :
    level ≤ room rate burst instants now ↔
      level ≤ burst ∧ ∀ first ∈ instants,
        level + instants.countP (first ≤ ·) ≤ burst + rate * seconds (now - first) := by
  induction instants generalizing now level with
  | nil => simp [room]
  | cons latest earlier ih =>
    obtain ⟨before, rest⟩ := List.pairwise_cons.mp ordered
    have latestBefore : latest ≤ now := before latest List.mem_cons_self
    have earlierBefore : ∀ first ∈ earlier, first ≤ latest := (List.pairwise_cons.mp rest).1
    have window : ∀ first ∈ earlier,
        rate * seconds (now - first) =
          rate * seconds (now - latest) + rate * seconds (latest - first) := by
      intro first member
      rw [seconds_split (earlierBefore first member) latestBefore, mul_add]
    have counted : ∀ first ∈ earlier,
        (latest :: earlier).countP (first ≤ ·) = earlier.countP (first ≤ ·) + 1 := by
      intro first member
      rw [List.countP_cons_of_pos (by simpa using earlierBefore first member)]
    have shifted : level ≤ room rate burst earlier latest - 1 + rate * seconds (now - latest) ↔
        level + 1 - rate * seconds (now - latest) ≤ room rate burst earlier latest := by
      constructor <;> intro bound <;> linarith
    rw [room, le_min_iff, shifted, ih rest]
    constructor
    · rintro ⟨⟨atLatest, atEarlier⟩, atBurst⟩
      refine ⟨atBurst, ?_⟩
      have goal : ∀ first ∈ earlier,
          level + ((latest :: earlier).countP (first ≤ ·) : Nat) ≤
            burst + rate * seconds (now - first) := by
        intro first member
        have bound := atEarlier first member
        rw [counted first member, window first member, Nat.cast_add, Nat.cast_one]
        linarith
      intro first member
      rcases List.mem_cons.mp member with same | old
      · subst same
        by_cases again : first ∈ earlier
        · exact goal first again
        · have none : earlier.countP (first ≤ ·) = 0 := by
            rw [List.countP_eq_zero]
            intro other inside
            have atMost := earlierBefore other inside
            have different : other ≠ first := fun same => again (same ▸ inside)
            simp only [decide_eq_true_eq]
            omega
          rw [List.countP_cons_of_pos (by simp), none, Nat.cast_add, Nat.cast_one, Nat.cast_zero]
          linarith
      · exact goal first old
    · rintro ⟨atBurst, atAll⟩
      refine ⟨⟨?_, ?_⟩, atBurst⟩
      · have bound := atAll latest List.mem_cons_self
        rw [List.countP_cons_of_pos (by simp), Nat.cast_add, Nat.cast_one] at bound
        have positive : (0 : Rat) ≤ (earlier.countP (latest ≤ ·) : Nat) := Nat.cast_nonneg _
        linarith
      · intro first member
        have bound := atAll first (List.mem_cons_of_mem _ member)
        rw [counted first member, window first member, Nat.cast_add, Nat.cast_one] at bound
        linarith

theorem countWithin_eq_countP {instants : List Nat} {last : Nat}
    (before : ∀ instant ∈ instants, instant ≤ last) (first : Nat) :
    countWithin instants first last = instants.countP (first ≤ ·) := by
  refine List.countP_congr fun instant member => ?_
  simp [before instant member]

/-- A window may as well begin with the first instant that it holds. -/
theorem exists_earliest {instants : List Nat} (ordered : instants.Pairwise (· ≤ ·)) {first : Nat}
    (some : 0 < instants.countP (first ≤ ·)) :
    ∃ earliest ∈ instants, first ≤ earliest ∧
      instants.countP (first ≤ ·) = instants.countP (earliest ≤ ·) := by
  induction instants with
  | nil => simp at some
  | cons instant instants ih =>
    obtain ⟨below, rest⟩ := List.pairwise_cons.mp ordered
    by_cases within : first ≤ instant
    · refine ⟨instant, List.mem_cons_self, within, List.countP_congr fun other member => ?_⟩
      have above : instant ≤ other := by
        rcases List.mem_cons.mp member with same | old
        · exact same.ge
        · exact below other old
      simp [above, within.trans above]
    · rw [List.countP_cons_of_neg (by simpa using within)] at some ⊢
      obtain ⟨earliest, member, later, equal⟩ := ih rest some
      refine ⟨earliest, List.mem_cons_of_mem _ member, later, ?_⟩
      rw [List.countP_cons_of_neg (by simp only [decide_eq_true_eq]; omega), equal]

/-- A call that keeps the limit over every window that it closes keeps it over all windows. -/
theorem countWithin_snoc_le {rate : Rat} (positive : 0 ≤ rate) {burst now first length : Nat}
    {instants : List Nat} (ordered : instants.Pairwise (· ≤ ·))
    (before : ∀ instant ∈ instants, instant ≤ now) (size : 1 ≤ burst)
    (closed : ∀ earliest ∈ instants,
      (countWithin instants earliest now : Rat) + 1 ≤ burst + rate * seconds (now - earliest))
    (lower : first ≤ now) (upper : now ≤ first + length) :
    (countWithin (instants ++ [now]) first (first + length) : Rat) ≤ burst + rate * seconds length := by
  have beforeEnd : ∀ instant ∈ instants, instant ≤ first + length :=
    fun instant member => (before instant member).trans upper
  have single : countWithin [now] first (first + length) = 1 := by simp [countWithin, lower, upper]
  have split : countWithin (instants ++ [now]) first (first + length) =
      instants.countP (first ≤ ·) + 1 := by
    rw [countWithin, List.countP_append, ← countWithin, ← countWithin, single,
      countWithin_eq_countP beforeEnd]
  have sizeCast : (1 : Rat) ≤ burst := by exact_mod_cast size
  rw [split, Nat.cast_add, Nat.cast_one]
  rcases Nat.eq_zero_or_pos (instants.countP (first ≤ ·)) with none | some
  · have gained := mul_nonneg positive (seconds_nonneg length)
    rw [none, Nat.cast_zero]
    linarith
  · obtain ⟨earliest, member, later, equal⟩ := exists_earliest ordered some
    have bound := closed earliest member
    have shorter : seconds (now - earliest) ≤ seconds length := seconds_mono (by omega)
    have gained := mul_le_mul_of_nonneg_left shorter positive
    rw [countWithin_eq_countP before earliest] at bound
    rw [equal]
    linarith

namespace Limiter

variable {client : String} {limiter : Limiter Rat}

theorem callsOf_append (client : String) (past future : List Act) :
    Act.callsOf client (past ++ future) = Act.callsOf client past ++ Act.callsOf client future :=
  List.filterMap_append

theorem callsOf_sublist (client : String) (acts : List Act) :
    (Act.callsOf client acts).Sublist (acts.map Act.now) := by
  induction acts with
  | nil => exact .slnil
  | cons act acts ih =>
    rw [show act :: acts = [act] ++ acts from rfl, callsOf_append, List.map_append]
    refine List.Sublist.append ?_ ih
    cases act with
    | check asker instant => by_cases same : asker = client <;> simp [Act.callsOf, Act.now, same]
    | sweep instant => simp [Act.callsOf]

theorem callsOf_checks (client : String) (acts : List Act) :
    Act.callsOf client (acts.filter (·.isCheck)) = Act.callsOf client acts := by
  induction acts with
  | nil => rfl
  | cons act acts ih =>
    cases act with
    | check asker instant =>
      rw [List.filter_cons_of_pos rfl, ← List.singleton_append, callsOf_append, ih, ← callsOf_append]
      rfl
    | sweep instant =>
      rw [List.filter_cons_of_neg (by simp [Act.isCheck]), ih]
      rfl

theorem admitted_sublist (limiter : Limiter Rat) (client : String) (acts : List Act) :
    (limiter.admitted client acts).Sublist (Act.callsOf client acts) := by
  induction acts generalizing limiter with
  | nil => exact .slnil
  | cons act acts ih =>
    rw [show act :: acts = [act] ++ acts from rfl, callsOf_append, List.singleton_append, admitted]
    refine List.Sublist.append ?_ (ih _)
    split
    · exact List.Sublist.refl _
    · exact List.nil_sublist _

theorem Settled.run {acts : List Act} {now : Nat} (settled : limiter.Settled client now)
    (unswept : ∀ act ∈ acts, act.isCheck) (past : ∀ call ∈ Act.callsOf client acts, call ≤ now) :
    (limiter.run acts).Settled client now := by
  induction acts, unswept using Act.unswept_induction generalizing limiter with
  | nil => exact settled
  | check asker instant acts _ ih =>
    rw [show Act.check asker instant :: acts = [.check asker instant] ++ acts from rfl, callsOf_append] at past
    refine ih (settled.check fun same => past instant ?_) fun call member =>
      past call (List.mem_append_right _ member)
    simp [Act.callsOf, same]

end Limiter

end MediaServer

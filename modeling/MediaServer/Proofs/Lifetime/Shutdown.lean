import MediaServer.Lifetime.Shutdown

namespace MediaServer

/-- All that a move can do to a shutdown, and whether it ends a wait. -/
inductive Shutdown.Effect (s : Shutdown) : Move → Shutdown → Bool → Prop
  | win (owned : s.owned = true) (first : s.fired = false) :
      Effect s .latch { s with fired := true, sending := s.sending + 1 } false
  | lose (fired : s.fired = true) : Effect s .latch s false
  | send (begun : 0 < s.sending) :
      Effect s .send { s with sending := s.sending - 1, sent := s.sent + 1 } false
  | listen : Effect s .listen s.addListener false
  | fork {number : Nat} : Effect s (.fork number) s.addListener false
  | see {number : Nat} (fired : s.fired = true) : Effect s (.look number) s true
  | pass {number : Nat} {listener : Listener} (there : s.listener? number = some listener)
      (unfired : s.fired = false) :
      Effect s (.look number) (s.setListener number (some { listener with waiting := true })) false
  | hear {number : Nat} {listener : Listener} (there : s.listener? number = some listener)
      (news : listener.heard < s.sent) :
      Effect s (.receive number) (s.setListener number (some ⟨listener.heard + 1, false⟩)) true
  | orphan {number : Nat} {listener : Listener} (there : s.listener? number = some listener)
      (gone : s.owned = false) :
      Effect s (.receive number) (s.setListener number (some ⟨listener.heard, false⟩)) true
  | pend {number : Nat} : Effect s (.receive number) s false
  | giveUp {number : Nat} {listener : Listener} (there : s.listener? number = some listener) :
      Effect s (.giveUp number) (s.setListener number (some { listener with waiting := false })) false
  | leave {number : Nat} {listener : Listener} (there : s.listener? number = some listener) :
      Effect s (.leave number) (s.setListener number none) false
  | dropOwner (idle : s.sending = 0) : Effect s .dropOwner { s with owned := false } false

section Step

variable {s later : Shutdown} {move : Shutdown.Move} {ended : Bool} {number : Nat} {listener : Listener}

theorem Shutdown.receive_effect (there : s.listener? number = some listener)
    (taken : s.receive number listener = (later, ended)) : s.Effect (.receive number) later ended := by
  unfold receive at taken
  split at taken
  · rename_i news
    cases taken
    exact .hear there news
  split at taken
  · cases taken
    exact .pend
  · rename_i gone
    cases taken
    exact .orphan there (Bool.not_eq_true _ ▸ gone)

theorem Shutdown.step_effect (taken : s.step move = some (later, ended)) : s.Effect move later ended := by
  cases move with
  | latch =>
    rw [step] at taken
    split at taken
    · cases taken
    rename_i owned
    split at taken
    · rename_i fired
      cases taken
      exact .lose fired
    · rename_i unfired
      cases taken
      exact .win (by simpa using owned) (by simpa using unfired)
  | send =>
    rw [step] at taken
    split at taken
    · cases taken
    · rename_i begun
      cases taken
      exact .send (Nat.pos_of_ne_zero begun)
  | listen =>
    rw [step] at taken
    split at taken
    · cases taken
      exact .listen
    · cases taken
  | fork number =>
    obtain ⟨_, _, same⟩ := Option.map_eq_some_iff.mp taken
    cases same
    exact .fork
  | look number =>
    obtain ⟨listener, there, looked⟩ := Option.bind_eq_some_iff.mp taken
    split at looked
    · cases looked
    split at looked
    · rename_i fired
      cases looked
      exact .see fired
    · rename_i unfired
      cases looked
      exact .pass there (by simpa using unfired)
  | receive number =>
    obtain ⟨listener, there, asked⟩ := Option.bind_eq_some_iff.mp taken
    split at asked
    · exact receive_effect there (Option.some.inj asked)
    · cases asked
  | giveUp number =>
    obtain ⟨listener, there, given⟩ := Option.bind_eq_some_iff.mp taken
    split at given
    · cases given
      exact .giveUp there
    · cases given
  | leave number =>
    obtain ⟨listener, there, same⟩ := Option.map_eq_some_iff.mp taken
    cases same
    exact .leave there
  | dropOwner =>
    rw [step] at taken
    split at taken
    · rename_i alone
      cases taken
      rw [Bool.and_eq_true, decide_eq_true_eq] at alone
      exact .dropOwner alone.2
    · cases taken

theorem Shutdown.listener?_addListener :
    s.addListener.listener? number = some listener ↔
      s.listener? number = some listener ∨ number = s.listeners.length ∧ listener = ⟨s.sent, false⟩ := by
  unfold listener? addListener
  rw [List.getElem?_append]
  by_cases old : number < s.listeners.length
  · rw [if_pos old]
    simp [Nat.ne_of_lt old]
  · rw [if_neg old, List.getElem?_eq_none (Nat.le_of_not_lt old)]
    by_cases next : number = s.listeners.length
    · simp [next, eq_comm]
    · have beyond : [some (⟨s.sent, false⟩ : Listener)].length ≤ number - s.listeners.length := by
        rw [List.length_singleton]
        omega
      rw [List.getElem?_eq_none beyond]
      simp [next]

theorem Shutdown.listener?_setListener (there : s.listener? number = some listener)
    (changed : Option Listener) (asked : Nat) :
    (s.setListener number changed).listener? asked = if asked = number then changed else s.listener? asked := by
  have found := Option.join_eq_some_iff.mp there
  have inside := (List.getElem?_eq_some_iff.mp found).1
  rw [listener?, listener?, setListener, List.getElem?_set]
  by_cases same : asked = number
  · subst same
    simp [inside]
  · have different : ¬ number = asked := fun equal => same equal.symm
    simp [same, different]

end Step

/-- Moves that lead from the start to a state, whoever makes them. -/
inductive Shutdown.Reach : List Move → Shutdown → Prop
  | start : Reach [] .start
  | next {moves : List Move} {s later : Shutdown} {move : Move} {ended : Bool} :
      Reach moves s → s.step move = some (later, ended) → Reach (moves ++ [move]) later

/-- What a state says of the moves that led to it. Only the first trigger call sends, and a listener
that waits has passed the latch before anything was sent. -/
structure Shutdown.Tells (moves : List Move) (s : Shutdown) : Prop where
  fired : s.fired = true ↔ .latch ∈ moves
  owned : s.owned = true ↔ .dropOwner ∉ moves
  sent : s.sent = moves.count .send
  once : s.sent + s.sending = s.fired.toNat
  heard : ∀ number listener, s.listener? number = some listener →
    listener.heard ≤ s.sent ∧ (listener.waiting = true → listener.heard = 0)

section Run

variable {s later : Shutdown} {moves : List Shutdown.Move} {move : Shutdown.Move} {ended : Bool}
  {number : Nat} {listener : Listener}

theorem Shutdown.start_tells : Shutdown.Tells [] .start := by
  constructor <;> simp [start, listener?]

/-- Listeners that were there and a new one, which needs nothing that was sent before it came. -/
theorem Shutdown.Tells.heard_addListener (tells : s.Tells moves) (number : Nat) (listener : Listener)
    (there : s.addListener.listener? number = some listener) :
    listener.heard ≤ s.sent ∧ (listener.waiting = true → listener.heard = 0) := by
  rcases listener?_addListener.mp there with old | ⟨_, rfl⟩
  · exact tells.heard number listener old
  · exact ⟨Nat.le_refl _, nofun⟩

theorem Shutdown.Tells.heard_setListener (tells : s.Tells moves) (there : s.listener? number = some listener)
    {changed : Option Listener}
    (sound : ∀ own ∈ changed, own.heard ≤ s.sent ∧ (own.waiting = true → own.heard = 0))
    (asked : Nat) (other : Listener) (found : (s.setListener number changed).listener? asked = some other) :
    other.heard ≤ s.sent ∧ (other.waiting = true → other.heard = 0) := by
  rw [listener?_setListener there] at found
  split at found
  · exact sound other found
  · exact tells.heard asked other found

/-- A move that changes no more than the listeners. -/
theorem Shutdown.Tells.steady (tells : s.Tells moves)
    (quiet : (move = .latch → s.fired = true) ∧ move ≠ .send ∧ move ≠ .dropOwner)
    {listeners : List (Option Listener)}
    (heard : ∀ number listener, { s with listeners := listeners }.listener? number = some listener →
      listener.heard ≤ s.sent ∧ (listener.waiting = true → listener.heard = 0)) :
    { s with listeners := listeners }.Tells (moves ++ [move]) where
  fired := by
    rw [List.mem_append, List.mem_singleton, ← tells.fired]
    exact ⟨Or.inl, fun known => known.elim id fun same => quiet.1 same.symm⟩
  owned := by simp [tells.owned, quiet.2.2.symm]
  sent := by simp [tells.sent, quiet.2.1]
  once := tells.once
  heard := heard

/-- Nothing is sent before the latch is set. -/
theorem Shutdown.Tells.fired_of_sent (tells : s.Tells moves) (sent : 0 < s.sent) : s.fired = true := by
  have once := tells.once
  rcases fired : s.fired
  · rw [fired, Bool.toNat_false] at once
    omega
  · rfl

theorem Shutdown.Tells.next (tells : s.Tells moves) (effect : s.Effect move later ended) :
    later.Tells (moves ++ [move]) := by
  have once := tells.once
  cases effect with
  | win owned first =>
    rw [first, Bool.toNat_false] at once
    refine ⟨by simp, by simp [tells.owned], by simp [tells.sent], ?_, tells.heard⟩
    rw [Bool.toNat_true, ← Nat.add_assoc, once]
  | send begun =>
    refine ⟨by simp [tells.fired], by simp [tells.owned], by simp [tells.sent], ?_, ?_⟩
    · dsimp only
      omega
    · intro number listener there
      have heard := tells.heard number listener there
      exact ⟨Nat.le_succ_of_le heard.1, heard.2⟩
  | dropOwner idle =>
    exact ⟨by simp [tells.fired], by simp, by simp [tells.sent], once, tells.heard⟩
  | lose fired => exact tells.steady (by simp [fired]) tells.heard
  | see => exact tells.steady (by simp) tells.heard
  | pend => exact tells.steady (by simp) tells.heard
  | listen => exact tells.steady (by simp) tells.heard_addListener
  | fork => exact tells.steady (by simp) tells.heard_addListener
  | @pass number listener there unfired =>
    have heard := (tells.heard number listener there).1
    have unsent : ¬ 0 < s.sent := fun sent => by simp [tells.fired_of_sent sent] at unfired
    refine tells.steady (by simp) (tells.heard_setListener there ?_)
    rintro _ ⟨⟩
    exact ⟨heard, fun _ => Nat.le_zero.mp (Nat.le_trans heard (Nat.le_of_not_lt unsent))⟩
  | hear there news =>
    refine tells.steady (by simp) (tells.heard_setListener there ?_)
    rintro _ ⟨⟩
    exact ⟨news, nofun⟩
  | @orphan number listener there =>
    refine tells.steady (by simp) (tells.heard_setListener there ?_)
    rintro _ ⟨⟩
    exact ⟨(tells.heard number listener there).1, nofun⟩
  | @giveUp number listener there =>
    refine tells.steady (by simp) (tells.heard_setListener there ?_)
    rintro _ ⟨⟩
    exact ⟨(tells.heard number listener there).1, nofun⟩
  | leave there =>
    refine tells.steady (by simp) (tells.heard_setListener there ?_)
    rintro _ ⟨⟩

theorem Shutdown.Reach.tells (reach : Shutdown.Reach moves s) : s.Tells moves := by
  induction reach with
  | start => exact start_tells
  | next _ taken ih => exact ih.next (step_effect taken)

/-- A wait ends without any other move: one that has passed the latch when it asks, and one that begins
when it is looked at for the first time. -/
def Shutdown.EndsAtOnce (s : Shutdown) (number : Nat) (listener : Listener) : Prop :=
  if listener.waiting then ∃ later, s.step (.receive number) = some (later, true)
  else ∃ later, s.poll? number = some (later, true)

theorem Shutdown.receive_ends (there : s.listener? number = some listener) (waiting : listener.waiting = true)
    (ready : listener.heard < s.sent ∨ s.owned = false) :
    ∃ later, s.step (.receive number) = some (later, true) := by
  rw [step, there, Option.bind_some, if_pos waiting, receive]
  by_cases news : listener.heard < s.sent
  · exact ⟨_, by rw [if_pos news]⟩
  · have gone := ready.resolve_left news
    exact ⟨_, by rw [if_neg news, if_neg (by simp [gone])]⟩

/-- A wait that begins once the latch is set ends there, and one that begins without an owner right after. -/
theorem Shutdown.poll?_ends (there : s.listener? number = some listener) (idle : listener.waiting = false)
    (ready : s.fired = true ∨ s.owned = false) : ∃ later, s.poll? number = some (later, true) := by
  have still : ¬ listener.waiting = true := by simp [idle]
  rw [poll?, step, there, Option.bind_some, if_neg still]
  by_cases fired : s.fired = true
  · exact ⟨s, by rw [if_pos fired]; rfl⟩
  · have gone := ready.resolve_left fired
    have passed : (s.setListener number (some { listener with waiting := true })).listener? number =
        some { listener with waiting := true } := by
      rw [listener?_setListener there, if_pos rfl]
    obtain ⟨later, ends⟩ := receive_ends passed rfl (Or.inr gone)
    refine ⟨later, ?_⟩
    rw [if_neg fired, Option.bind_some]
    simp only [Bool.false_eq_true, if_false, ends, Option.bind_some, if_true]

/-- No wait is forgotten: once the first trigger call has sent, or the owner is gone, each listener is free
to go, whenever it came and however far its wait is. No wait ends before a trigger call begins or the owner
goes, and no more than one message is ever sent. -/
theorem Shutdown.Reach.wakes (reach : Shutdown.Reach moves s) :
    ((.send ∈ moves ∨ .dropOwner ∈ moves) → ∀ number listener, s.listener? number = some listener →
      s.EndsAtOnce number listener) ∧
    (∀ move later, s.step move = some (later, true) → .latch ∈ moves ∨ .dropOwner ∈ moves) ∧
    s.sent = moves.count .send ∧ moves.count .send ≤ 1 := by
  have tells := reach.tells
  have bound := Bool.toNat_le s.fired
  have once := tells.once
  refine ⟨?_, ?_, tells.sent, by rw [← tells.sent]; omega⟩
  · intro told number listener there
    have ready : 0 < s.sent ∨ s.owned = false := by
      rcases told with sent | gone
      · exact Or.inl (tells.sent ▸ List.count_pos_iff.mpr sent)
      · exact Or.inr (by simpa [gone] using tells.owned)
    unfold EndsAtOnce
    split
    · rename_i waiting
      have unheard := (tells.heard number listener there).2 waiting
      exact receive_ends there waiting (unheard ▸ ready)
    · rename_i idle
      exact poll?_ends there (by simpa using idle) (ready.imp_left tells.fired_of_sent)
  · intro move later taken
    cases step_effect taken with
    | see fired => exact Or.inl (tells.fired.mp fired)
    | hear _ news =>
      exact Or.inl (tells.fired.mp (tells.fired_of_sent (Nat.zero_lt_of_lt news)))
    | orphan _ gone =>
      refine Or.inr (Classical.byContradiction fun kept => ?_)
      simp [tells.owned.mpr kept] at gone

end Run

/-- One listener has passed the latch when the first trigger call sets it; it is forked before the call
sends, and its wait is given up after that. -/
def forkedAtLatch : List Shutdown.Move :=
  [.listen, .look 0, .latch, .fork 0, .send, .giveUp 0, .latch, .fork 1, .look 1]

theorem forkedAtLatch_wakes : ∃ s, Shutdown.Reach forkedAtLatch s ∧ s.EndsAtOnce 0 ⟨0, false⟩ ∧
    s.EndsAtOnce 1 ⟨0, false⟩ ∧ s.EndsAtOnce 2 ⟨1, false⟩ ∧ s.sent = 1 := by
  have reach : Shutdown.Reach forkedAtLatch
      ⟨true, true, 0, 1, [some ⟨0, false⟩, some ⟨0, false⟩, some ⟨1, false⟩]⟩ :=
    ((((((((Shutdown.Reach.start.next rfl).next rfl).next rfl).next rfl).next rfl).next rfl).next
      rfl).next rfl).next rfl
  obtain ⟨wakes, _, sent, _⟩ := reach.wakes
  have told : .send ∈ forkedAtLatch ∨ .dropOwner ∈ forkedAtLatch := by decide
  exact ⟨_, reach, wakes told 0 _ rfl, wakes told 1 _ rfl, wakes told 2 _ rfl, sent⟩

end MediaServer

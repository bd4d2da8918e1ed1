import MediaServer.Proofs.Message.Body

namespace MediaServer

/-- A guard that was dropped wakes a reading that would wait for ever. -/
def Reading.woken : Reading → Reading
  | .waiting => .refused .cancelled
  | other => other

/-- At one of the turns that a reading of the body takes, the schedule looks at the guard first. -/
def Incoming.LooksAtGuard (body : Incoming) (limit : Nat) (guardFirst : Schedule) : Prop :=
  ∃ state, Collecting.Reach body.ending limit .held guardFirst body.chunks state ∧
    guardFirst state.turn = true

theorem Ending.verdict_ne_cancelled (ending : Ending) (limit : Nat) (bytes : Bytes) :
    ending.verdict limit bytes ≠ .refused .cancelled := by
  unfold verdict
  split
  · exact nofun
  · cases ending <;> exact nofun

section Turns

variable {ending : Ending} {limit : Nat} {guardFirst : Schedule} {state : Collecting} {chunks : List Bytes}

theorem Collecting.reading_guardFirst (first : guardFirst state.turn = true) :
    state.reading ending limit .dropped guardFirst = .refused .cancelled := by
  have ended : state.next ending limit .dropped guardFirst = .inl (.refused .cancelled) := by
    unfold next
    rw [first]
    rfl
  rw [reading_eq_next, ended]
  rfl

/-- A turn that looks at the body first goes as if the guard were still held, but it does not wait. -/
theorem Collecting.next_bodyFirst (first : guardFirst state.turn = false) :
    state.next ending limit .dropped guardFirst =
      (state.next ending limit .held guardFirst).map Reading.woken id := by
  unfold next
  rw [first, Bool.and_false, Bool.and_false, if_neg Bool.false_ne_true, if_neg Bool.false_ne_true]
  cases state.left with
  | nil => cases ending <;> rfl
  | cons chunk left =>
    dsimp only
    split <;> rfl

/-- Along the turns of an undisturbed reading, an abandoned one comes to what is left for it there, unless it
was cancelled on the way. -/
theorem Collecting.Reach.reading_dropped (reach : Reach ending limit .held guardFirst chunks state) :
    reading ending limit .dropped guardFirst ⟨0, [], chunks⟩ = state.reading ending limit .dropped guardFirst ∨
      (∃ earlier, Reach ending limit .held guardFirst chunks earlier ∧ guardFirst earlier.turn = true) ∧
        reading ending limit .dropped guardFirst ⟨0, [], chunks⟩ = .refused .cancelled := by
  induction reach with
  | start => exact Or.inl rfl
  | @next state later before goes ih =>
    rcases ih with same | cancelled
    · cases first : guardFirst state.turn with
      | true => exact Or.inr ⟨⟨state, before, first⟩, same.trans (reading_guardFirst first)⟩
      | false =>
        refine Or.inl (same.trans ?_)
        rw [reading_eq_next, next_bodyFirst first, goes]
        rfl
    · exact Or.inr cancelled

end Turns

variable {body : Incoming} {limit : Nat} {guardFirst : Schedule}

theorem Incoming.read_eq_reading (body : Incoming) (limit : Nat) (guard : Guard) (guardFirst : Schedule) :
    (Incoming.read (some body) limit guard guardFirst).1 =
      Collecting.reading body.ending limit guard guardFirst ⟨0, [], body.chunks⟩ :=
  (Reading.after_nil _).symm

theorem Incoming.read_dropped_of_looks (looks : body.LooksAtGuard limit guardFirst) :
    (Incoming.read (some body) limit .dropped guardFirst).1 = .refused .cancelled := by
  obtain ⟨state, reach, first⟩ := looks
  rw [read_eq_reading]
  rcases reach.reading_dropped with same | ⟨_, cancelled⟩
  · exact same.trans (Collecting.reading_guardFirst first)
  · exact cancelled

theorem Incoming.read_dropped_of_not_looks (looks : ¬ body.LooksAtGuard limit guardFirst) :
    (Incoming.read (some body) limit .dropped guardFirst).1 =
      (body.ending.verdict limit body.chunks.flatten).woken := by
  obtain ⟨last, reach, ended⟩ := body.read_ends limit .held guardFirst
  rw [read_eq_verdict rfl] at ended
  have bodyFirst : guardFirst last.turn = false :=
    Bool.eq_false_iff.mpr fun first => looks ⟨last, reach, first⟩
  rw [read_eq_reading]
  rcases reach.reading_dropped with same | ⟨seen, _⟩
  · rw [same, Collecting.reading_eq_next, Collecting.next_bodyFirst bodyFirst, ended]
    rfl
  · exact absurd seen looks

/-- An abandoned upload is cancelled if its schedule looks at the guard first at some turn of the reading, or
if the body gives nothing more. Otherwise it is read to the end, and every body has a schedule on which it is.
A body that was taken stays consumed, and nothing is cancelled once the guard is disarmed. -/
theorem Incoming.read_abandoned (body : Incoming) (limit : Nat) (guardFirst : Schedule) :
    (body.LooksAtGuard limit guardFirst ∧
          (Incoming.read (some body) limit .dropped guardFirst).1 = .refused .cancelled ∨
        ¬ body.LooksAtGuard limit guardFirst ∧
          (Incoming.read (some body) limit .dropped guardFirst).1 =
            (body.ending.verdict limit body.chunks.flatten).woken) ∧
      (∃ bodyFirst, (Incoming.read (some body) limit .dropped bodyFirst).1 =
        (body.ending.verdict limit body.chunks.flatten).woken) ∧
      (Incoming.read none limit .dropped guardFirst).1 = .refused .consumed ∧
      ∀ body?, (Incoming.read body? limit .disarmed guardFirst).1 ≠ .refused .cancelled := by
  refine ⟨?_, ?_, rfl, fun body? => ?_⟩
  · by_cases looks : body.LooksAtGuard limit guardFirst
    · exact Or.inl ⟨looks, read_dropped_of_looks looks⟩
    · exact Or.inr ⟨looks, read_dropped_of_not_looks looks⟩
  · refine ⟨fun _ => false, read_dropped_of_not_looks ?_⟩
    rintro ⟨_, _, first⟩
    cases first
  · cases body? with
    | none => exact nofun
    | some body =>
      rw [read_eq_verdict rfl]
      exact body.ending.verdict_ne_cancelled limit _

/-- The abandoned upload of two chunks that together just fit: it is cancelled where the second turn looks at
the guard first, and read as a whole where no turn does. -/
theorem Incoming.twoChunks_abandoned :
    (LooksAtGuard ⟨[[1], [2]], .complete⟩ 2 (· == 1) ∧
        (Incoming.read (some ⟨[[1], [2]], .complete⟩) 2 .dropped (· == 1)).1 = .refused .cancelled) ∧
      (¬ LooksAtGuard ⟨[[1], [2]], .complete⟩ 2 fun _ => false) ∧
        (Incoming.read (some ⟨[[1], [2]], .complete⟩) 2 .dropped fun _ => false).1 = .whole [1, 2] := by
  have second : LooksAtGuard ⟨[[1], [2]], .complete⟩ 2 (· == 1) := ⟨⟨1, [1], [[2]]⟩, .next .start rfl, rfl⟩
  have never : ¬ LooksAtGuard ⟨[[1], [2]], .complete⟩ 2 fun _ => false := by
    rintro ⟨_, _, first⟩
    cases first
  constructor
  · exact (read_abandoned ⟨[[1], [2]], .complete⟩ 2 (· == 1)).1.resolve_right fun read => read.1 second
  · exact (read_abandoned ⟨[[1], [2]], .complete⟩ 2 fun _ => false).1.resolve_left fun read => never read.1

/-- Uploads whose guard was dropped before the first turn: one is read as a whole, one turns out too large, and
one fails where its body fails. -/
theorem Incoming.abandoned_read_to_the_end :
    Guard.held.drop? = some .dropped ∧
      (Incoming.read (some ⟨[[1], [2]], .complete⟩) 2 .dropped fun _ => false).1 = .whole [1, 2] ∧
      (Incoming.read (some ⟨[[1], [2]], .complete⟩) 1 .dropped fun _ => false).1 =
        .refused (.tooLarge 1) ∧
      (Incoming.read (some ⟨[[1]], .failed "connection reset"⟩) 1 .dropped fun _ => false).1 =
        .refused (.failed "connection reset") := by
  decide

end MediaServer

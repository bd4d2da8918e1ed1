import MediaServer.Message.Body

namespace MediaServer

/-- What a body comes to whose request is not abandoned: this depends on its bytes and on what follows them,
not on how they are cut into chunks. -/
def Ending.verdict (ending : Ending) (limit : Nat) (bytes : Bytes) : Reading :=
  if limit < bytes.length then .refused (.tooLarge limit)
  else
    match ending with
    | .complete => .whole bytes
    | .failed reason => .refused (.failed reason)
    | .stalled => .waiting

section Verdict

variable {ending : Ending} {limit : Nat} {bytes : Bytes}

theorem Ending.verdict_of_longer (longer : limit < bytes.length) :
    ending.verdict limit bytes = .refused (.tooLarge limit) :=
  if_pos longer

theorem Ending.verdict_complete (fits : ¬ limit < bytes.length) : complete.verdict limit bytes = .whole bytes :=
  if_neg fits

theorem Ending.verdict_failed (fits : ¬ limit < bytes.length) (reason : String) :
    (failed reason).verdict limit bytes = .refused (.failed reason) :=
  if_neg fits

end Verdict

/-- A reading on its way: the turns it has taken, the bytes it has kept, and the chunks that are to come. -/
structure Collecting where
  turn : Nat
  kept : Bytes
  left : List Bytes

theorem Reading.after_nil (reading : Reading) : reading.after [] = reading := by
  cases reading <;> rfl

theorem Reading.after_append (reading : Reading) (first second : Bytes) :
    reading.after (first ++ second) = (reading.after second).after first := by
  cases reading with
  | whole bytes => exact congrArg Reading.whole (List.append_assoc ..)
  | refused fault => rfl
  | waiting => rfl

section Turns

variable (ending : Ending) (limit : Nat) (guard : Guard) (guardFirst : Schedule)

/-- One turn of a reading, from the bytes that are kept: the reading comes to its end, or it keeps one more
chunk and goes on. -/
def Collecting.next (state : Collecting) : Reading ⊕ Collecting :=
  if guard.isCancelled && guardFirst state.turn then .inl (.refused .cancelled)
  else
    match state.left with
    | [] =>
      match ending with
      | .complete => .inl (.whole state.kept)
      | .failed reason => .inl (.refused (.failed reason))
      | .stalled => .inl (if guard.isCancelled then .refused .cancelled else .waiting)
    | chunk :: left =>
      if limit < state.kept.length + chunk.length then .inl (.refused (.tooLarge limit))
      else .inr ⟨state.turn + 1, state.kept ++ chunk, left⟩

/-- Where the turns of a reading lead. -/
inductive Collecting.Reach (chunks : List Bytes) : Collecting → Prop
  | start : Reach chunks ⟨0, [], chunks⟩
  | next {state later : Collecting} : Reach chunks state →
      state.next ending limit guard guardFirst = .inr later → Reach chunks later

/-- What the chunks that are left come to, behind the bytes that are kept. -/
def Collecting.reading (state : Collecting) : Reading :=
  (ending.collect limit guard guardFirst state.turn state.kept.length state.left).after state.kept

variable {ending limit guard guardFirst} {state later : Collecting} {chunks : List Bytes}

/-- All that a turn can do without ending the reading. -/
theorem Collecting.next_eq_inr (goes : state.next ending limit guard guardFirst = .inr later) :
    (guard.isCancelled && guardFirst state.turn) = false ∧ ∃ chunk left, state.left = chunk :: left ∧
      state.kept.length + chunk.length ≤ limit ∧ later = ⟨state.turn + 1, state.kept ++ chunk, left⟩ := by
  unfold next at goes
  split at goes
  · cases goes
  rename_i going
  refine ⟨Bool.not_eq_true _ ▸ going, ?_⟩
  split at goes
  · split at goes <;> cases goes
  · rename_i chunk left cut
    split at goes
    · cases goes
    · rename_i fits
      exact ⟨chunk, left, cut, Nat.le_of_not_lt fits, (Sum.inr.inj goes).symm⟩

/-- A body is read as a whole where it ends and no chunk is left. -/
theorem Collecting.next_eq_whole {bytes : Bytes}
    (last : state.next ending limit guard guardFirst = .inl (.whole bytes)) :
    ending = .complete ∧ state.left = [] ∧ bytes = state.kept := by
  unfold next at last
  split at last
  · cases last
  split at last
  · rename_i none
    split at last
    · cases last
      exact ⟨rfl, none, rfl⟩
    · cases last
    · split at last <;> cases last
  · split at last <;> cases last

/-- A turn changes nothing of what the chunks come to. -/
theorem Collecting.reading_eq_next (state : Collecting) :
    state.reading ending limit guard guardFirst =
      (state.next ending limit guard guardFirst).elim id (reading ending limit guard guardFirst) := by
  obtain ⟨turn, kept, left⟩ := state
  rw [reading, Ending.collect.eq_def]
  unfold next
  by_cases cancelled : (guard.isCancelled && guardFirst turn) = true
  · cases left <;> simp only [if_pos cancelled] <;> rfl
  rcases left with _ | ⟨chunk, left⟩
  · simp only [if_neg cancelled]
    cases ending with
    | complete => exact congrArg Reading.whole (List.append_nil kept)
    | failed reason => rfl
    | stalled => cases guard.isCancelled <;> rfl
  · simp only [if_neg cancelled]
    by_cases tooLarge : limit < kept.length + chunk.length
    · rw [if_pos tooLarge, if_pos tooLarge]
      rfl
    · rw [if_neg tooLarge, if_neg tooLarge, Sum.elim_inr, reading, ← Reading.after_append, List.length_append]

/-- A reading never keeps more bytes than its limit. -/
theorem Collecting.Reach.kept_le (reach : Reach ending limit guard guardFirst chunks state) :
    state.kept.length ≤ limit := by
  induction reach with
  | start => exact Nat.zero_le limit
  | next _ goes _ =>
    obtain ⟨_, chunk, left, _, fits, rfl⟩ := next_eq_inr goes
    rwa [List.length_append]

/-- No byte is lost on the way, and none comes in between. -/
theorem Collecting.Reach.flatten (reach : Reach ending limit guard guardFirst chunks state) :
    state.kept ++ state.left.flatten = chunks.flatten := by
  induction reach with
  | start => rfl
  | next _ goes ih =>
    obtain ⟨_, chunk, left, cut, _, rfl⟩ := next_eq_inr goes
    rw [← ih, cut, List.flatten_cons, List.append_assoc]

/-- Every reading comes to its end, from wherever it is. -/
theorem Collecting.Reach.ends (reach : Reach ending limit guard guardFirst chunks state) :
    ∃ last, Reach ending limit guard guardFirst chunks last ∧
      last.next ending limit guard guardFirst = .inl (state.reading ending limit guard guardFirst) := by
  generalize count : state.left.length = length
  induction length generalizing state with
  | zero =>
    rcases turned : state.next ending limit guard guardFirst with reading | later
    · exact ⟨state, reach, by rw [state.reading_eq_next, turned, Sum.elim_inl, id]⟩
    · obtain ⟨_, chunk, left, cut, _⟩ := next_eq_inr turned
      rw [cut] at count
      cases count
  | succ length ih =>
    rcases turned : state.next ending limit guard guardFirst with reading | later
    · exact ⟨state, reach, by rw [state.reading_eq_next, turned, Sum.elim_inl, id]⟩
    · have next := reach.next turned
      obtain ⟨_, chunk, left, cut, _, rfl⟩ := next_eq_inr turned
      rw [cut, List.length_cons, Nat.add_right_cancel_iff] at count
      rw [state.reading_eq_next, turned, Sum.elim_inr]
      exact ih next count

/-- Where a reading ends that is not abandoned, it has come to the verdict on all of its bytes. -/
theorem Collecting.verdict_of_inl {reading : Reading} (going : guard.isCancelled = false)
    (bound : state.kept.length ≤ limit) (last : state.next ending limit guard guardFirst = .inl reading) :
    reading = ending.verdict limit (state.kept ++ state.left.flatten) := by
  unfold next at last
  rw [going, Bool.false_and, if_neg Bool.false_ne_true] at last
  unfold Ending.verdict
  split at last
  · rename_i none
    rw [none, List.flatten_nil, List.append_nil, if_neg (Nat.not_lt.mpr bound)]
    cases ending <;> exact (Sum.inl.inj last).symm
  · rename_i chunk left cut
    split at last
    · rename_i tooLarge
      have longer : limit < (state.kept ++ state.left.flatten).length := by
        rw [cut, List.flatten_cons, List.length_append, List.length_append]
        omega
      rw [if_pos longer]
      exact (Sum.inl.inj last).symm
    · cases last

end Turns

variable {body : Incoming} {limit : Nat} {guard : Guard} {guardFirst : Schedule}

/-- The turns of a reading lead to what is read. -/
theorem Incoming.read_ends (body : Incoming) (limit : Nat) (guard : Guard) (guardFirst : Schedule) :
    ∃ last, Collecting.Reach body.ending limit guard guardFirst body.chunks last ∧
      last.next body.ending limit guard guardFirst =
        .inl (Incoming.read (some body) limit guard guardFirst).1 := by
  have ends := (@Collecting.Reach.start body.ending limit guard guardFirst body.chunks).ends
  rwa [Collecting.reading, Reading.after_nil] at ends

/-- A body that was read as a whole came to its end, and its pieces make no more than the limit. -/
theorem Incoming.read_eq_whole {bytes : Bytes}
    (read : (Incoming.read (some body) limit guard guardFirst).1 = .whole bytes) :
    body.ending = .complete ∧ bytes = body.chunks.flatten ∧ bytes.length ≤ limit := by
  obtain ⟨last, reach, ended⟩ := body.read_ends limit guard guardFirst
  rw [read] at ended
  obtain ⟨complete, none, rfl⟩ := Collecting.next_eq_whole ended
  have flat := reach.flatten
  rw [none, List.flatten_nil, List.append_nil] at flat
  exact ⟨complete, flat, reach.kept_le⟩

/-- However it is read, no body of more bytes than the limit is read as a whole. -/
theorem Incoming.length_le_of_read {body? : Option Incoming} {bytes : Bytes}
    (read : (Incoming.read body? limit guard guardFirst).1 = .whole bytes) : bytes.length ≤ limit := by
  cases body? with
  | none => cases read
  | some body => exact (read_eq_whole read).2.2

theorem Incoming.read_eq_verdict (going : guard.isCancelled = false) :
    (Incoming.read (some body) limit guard guardFirst).1 = body.ending.verdict limit body.chunks.flatten := by
  obtain ⟨last, reach, ended⟩ := body.read_ends limit guard guardFirst
  rw [Collecting.verdict_of_inl going reach.kept_le ended, reach.flatten]

/-- A call to read a body: its limit, and what becomes of the guard meanwhile. -/
structure ReadCall where
  limit : Nat
  guard : Guard
  guardFirst : Schedule

/-- Calls on the same body, one after the other. -/
def Incoming.readAll : Option Incoming → List ReadCall → List Reading
  | _, [] => []
  | body?, call :: calls =>
    let (reading, rest?) := Incoming.read body? call.limit call.guard call.guardFirst
    reading :: readAll rest? calls

theorem Incoming.readAll_none (calls : List ReadCall) :
    Incoming.readAll none calls = List.replicate calls.length (.refused .consumed) := by
  induction calls with
  | nil => rfl
  | cons call calls ih =>
    rw [readAll, read]
    dsimp only
    rw [ih]
    rfl

/-- A body is handed out to the first call, and to no other. -/
theorem Incoming.readAll_cons (body? : Option Incoming) (call : ReadCall) (calls : List ReadCall) :
    Incoming.readAll body? (call :: calls) =
      (Incoming.read body? call.limit call.guard call.guardFirst).1 ::
        List.replicate calls.length (.refused .consumed) := by
  have taken : (Incoming.read body? call.limit call.guard call.guardFirst).2 = none := by
    cases body? <;> rfl
  rw [readAll]
  dsimp only
  rw [taken, readAll_none]

/-- What is read of a body does not depend on how it is cut into chunks. It is refused as too large if it has
more bytes than the limit, or else it fails where the body fails, or else it is all of the bytes; meanwhile no more
bytes are kept than the limit. Whatever the first call comes to, the body is consumed for all later ones. -/
theorem Incoming.read_by_bytes :
    (∀ (body : Incoming) limit guard guardFirst, guard.isCancelled = false →
      (Incoming.read (some body) limit guard guardFirst).1 =
          body.ending.verdict limit body.chunks.flatten ∧
        ∀ (other : Incoming) otherGuard otherFirst, otherGuard.isCancelled = false →
          other.chunks.flatten = body.chunks.flatten → other.ending = body.ending →
            (Incoming.read (some other) limit otherGuard otherFirst).1 =
              (Incoming.read (some body) limit guard guardFirst).1) ∧
    (∀ (body : Incoming) limit guard guardFirst,
      (∃ last, Collecting.Reach body.ending limit guard guardFirst body.chunks last ∧
        last.next body.ending limit guard guardFirst =
          .inl (Incoming.read (some body) limit guard guardFirst).1) ∧
      ∀ state, Collecting.Reach body.ending limit guard guardFirst body.chunks state →
        state.kept.length ≤ limit) ∧
    ∀ body? call calls, Incoming.readAll body? (call :: calls) =
      (Incoming.read body? call.limit call.guard call.guardFirst).1 ::
        List.replicate calls.length (.refused .consumed) := by
  refine ⟨fun body limit guard guardFirst going => ⟨read_eq_verdict going, ?_⟩, ?_, readAll_cons⟩
  · intro other otherGuard otherFirst otherGoing bytes ending
    rw [read_eq_verdict going, read_eq_verdict otherGoing, bytes, ending]
  · exact fun body limit guard guardFirst =>
      ⟨body.read_ends limit guard guardFirst, fun _ reach => reach.kept_le⟩

/-- Three bytes in two chunks, with an empty chunk between them, before the connection is lost. -/
def brokenBody : Incoming :=
  ⟨[[1], [], [2, 3]], .failed "connection reset"⟩

theorem brokenBody_by_bytes :
    (Incoming.read (some brokenBody) 2 .held fun _ => true).1 = .refused (.tooLarge 2) ∧
      (Incoming.read (some brokenBody) 3 .held fun _ => true).1 = .refused (.failed "connection reset") ∧
      (Incoming.read (some ⟨[[1, 2, 3]], .failed "connection reset"⟩) 3 .disarmed fun _ => false).1 =
        (Incoming.read (some brokenBody) 3 .held fun _ => true).1 ∧
      Incoming.readAll (some brokenBody) [⟨2, .held, fun _ => true⟩, ⟨3, .held, fun _ => true⟩] =
        [.refused (.tooLarge 2), .refused .consumed] := by
  obtain ⟨byBytes, _, once⟩ := Incoming.read_by_bytes
  obtain ⟨tooLarge, _⟩ := byBytes brokenBody 2 .held (fun _ => true) rfl
  obtain ⟨failed, alike⟩ := byBytes brokenBody 3 .held (fun _ => true) rfl
  have refused : (Incoming.read (some brokenBody) 2 .held fun _ => true).1 = .refused (.tooLarge 2) :=
    tooLarge.trans (by decide)
  refine ⟨refused, failed.trans (by decide), ?_, ?_⟩
  · exact alike ⟨[[1, 2, 3]], .failed "connection reset"⟩ .disarmed (fun _ => false) rfl rfl rfl
  · rw [once, refused]
    rfl

end MediaServer

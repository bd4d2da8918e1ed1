import MediaServer.Route.Pattern
import MediaServer.Proofs.Lists.Pieces

namespace MediaServer

/-- What a part may be for itself: a text that is neither empty nor cut by a slash nor taken for
a capture, or a capture with a name of letters, digits and underscores. -/
def Segment.Wellformed : Segment → Prop
  | .literal text => text.toList ≠ [] ∧ ∀ c ∈ text.toList, c ≠ '/' ∧ isBrace c = false
  | .capture name _ => isCaptureName name.toList = true

/-- What the parts of a pattern are together, after parts that capture the names `taken`. -/
structure Segment.Proper (taken : List String) (segments : List Segment) : Prop where
  wellformed : ∀ segment ∈ segments, segment.Wellformed
  fresh : ∀ name ∈ segments.flatMap Segment.names, name ∉ taken
  distinct : (segments.flatMap Segment.names).Nodup
  tailLast : ∀ segment ∈ segments.dropLast, segment.isTail = false

theorem isCaptureName_iff {name : List Char} :
    isCaptureName name = true ↔ name ≠ [] ∧ ∀ c ∈ name, isAlphanumeric c = true ∨ c = '_' := by
  simp [isCaptureName]

/-- The characters of names are none of those that patterns are written with. -/
theorem not_mem_captureName {name : List Char} (named : isCaptureName name = true) {c : Char}
    (other : isAlphanumeric c = false) (noUnderscore : c ≠ '_') : c ∉ name := by
  intro member
  rcases (isCaptureName_iff.mp named).2 c member with alphanumeric | underscore
  · simp [alphanumeric] at other
  · exact noUnderscore underscore

theorem CaptureClass.ofName?_eq_some_iff {name : String} {kind : CaptureClass} :
    CaptureClass.ofName? name = some kind ↔ name = kind.name := by
  constructor
  · intro known
    unfold ofName? at known
    split at known
    · cases known; assumption
    split at known
    · cases known; assumption
    split at known
    · cases known; assumption
    split at known
    · cases known; assumption
    · cases known
  · rintro rfl
    exact kind.ofName?_name

theorem Segment.isTail_capture {name : String} {kind : CaptureClass} :
    (capture name kind).isTail = true ↔ kind = .tail := by
  cases kind <;> simp [isTail]

theorem Segment.readCapture_eq_ok_iff {isLast : Bool} {taken : List String} {inside : List Char}
    {segment : Segment} :
    readCapture isLast taken inside = .ok segment ↔
      ∃ name kind, segment = .capture name kind ∧ inside = name.toList ++ ':' :: kind.name.toList ∧
        isCaptureName name.toList = true ∧ (kind = .tail → isLast = true) ∧ name ∉ taken := by
  constructor
  · intro read
    unfold readCapture at read
    rcases cut : cutAt ':' inside with ⟨name, _ | kindName⟩
    · simp [cut] at read
    · have ⟨written, _⟩ := eq_of_cutAt cut
      simp only [cut] at read
      split at read
      · cases read
      rename_i named
      rcases known : CaptureClass.ofName? (String.ofList kindName) with _ | kind
      · simp [known] at read
      simp only [known] at read
      split at read
      · cases read
      rename_i last
      split at read
      · cases read
      rename_i fresh
      cases read
      have ofKind : kindName = kind.name.toList := by
        rw [← CaptureClass.ofName?_eq_some_iff.mp known, String.toList_ofList]
      refine ⟨_, kind, rfl, ?_, ?_, ?_, by simpa using fresh⟩
      · rw [written, ofKind, String.toList_ofList]
      · simpa using named
      · intro tail
        simpa [tail] using last
  · rintro ⟨name, kind, rfl, rfl, named, last, fresh⟩
    have noColon : ':' ∉ name.toList := not_mem_captureName named rfl (by decide)
    have known : CaptureClass.ofName? (String.ofList kind.name.toList) = some kind := by
      rw [String.ofList_toList]
      exact kind.ofName?_name
    have place : ¬ (decide (kind = .tail) && !isLast) = true := by simpa using last
    have new : ¬ taken.contains (String.ofList name.toList) = true := by
      rw [String.ofList_toList]
      simpa using fresh
    rw [readCapture, cutAt_of_mem noColon]
    simp only [named, Bool.not_true, Bool.false_eq_true, if_false, known, if_neg place, if_neg new]
    rw [String.ofList_toList]

theorem Segment.write_capture (name : String) (kind : CaptureClass) :
    (capture name kind).write =
      '\x7b' :: ((name.toList ++ ':' :: kind.name.toList) ++ ['\x7d']) := by
  simp [write]

theorem Segment.read_eq_ok_iff {isLast : Bool} {taken : List String} {piece : List Char}
    (clean : '/' ∉ piece) {segment : Segment} :
    Segment.read isLast taken piece = .ok segment ↔
      segment.write = piece ∧ segment.Wellformed ∧ (segment.isTail = true → isLast = true) ∧
        ∀ name ∈ segment.names, name ∉ taken := by
  constructor
  · intro read
    unfold Segment.read at read
    split at read
    · cases read
    · rename_i inner
      split at read
      · rename_i closed
        obtain ⟨whole, rfl⟩ := List.getLast?_eq_some_iff.mp closed
        rw [List.dropLast_concat] at read
        obtain ⟨name, kind, rfl, inside, named, last, fresh⟩ := readCapture_eq_ok_iff.mp read
        refine ⟨?_, named, ?_, by simpa [names] using fresh⟩
        · rw [write_capture, ← inside]
        · intro tail
          exact last (isTail_capture.mp tail)
      · cases read
    · rename_i filled unbraced
      split at read
      · cases read
      · rename_i plain
        cases read
        refine ⟨by simp [write], ⟨by simpa using filled, ?_⟩, by simp [isTail], by simp [names]⟩
        intro c member
        rw [String.toList_ofList] at member
        refine ⟨fun slash => clean (slash ▸ member), ?_⟩
        simp only [List.any_eq_true, not_exists, not_and, Bool.not_eq_true] at plain
        exact plain c member
  · rintro ⟨rfl, wellformed, last, fresh⟩
    cases segment with
    | literal text =>
      obtain ⟨filled, plain⟩ := wellformed
      have noBrace : ¬ text.toList.any isBrace = true := by
        simp only [List.any_eq_true, not_exists, not_and, Bool.not_eq_true]
        exact fun c member => (plain c member).2
      unfold Segment.read
      rw [write]
      split
      · rename_i empty
        exact absurd empty filled
      · rename_i inner opened
        have brace := (plain '\x7b' (by simp [opened])).2
        exact absurd brace (by decide)
      · rw [if_neg noBrace, String.ofList_toList]
    | capture name kind =>
      rw [write_capture, Segment.read]
      have closed : ((name.toList ++ ':' :: kind.name.toList) ++ ['\x7d']).getLast? = some '\x7d' :=
        List.getLast?_concat
      rw [if_pos closed, List.dropLast_concat, readCapture_eq_ok_iff]
      exact ⟨name, kind, rfl, rfl, wellformed, fun tail => last (isTail_capture.mpr tail),
        by simpa [names] using fresh⟩

theorem Segment.names_nodup (segment : Segment) : segment.names.Nodup := by
  cases segment <;> simp [names]

theorem Segment.proper_cons_iff {taken : List String} {segment : Segment} {segments : List Segment} :
    Proper taken (segment :: segments) ↔
      segment.Wellformed ∧ (segment.isTail = true → segments = []) ∧
        (∀ name ∈ segment.names, name ∉ taken) ∧ Proper (taken ++ segment.names) segments := by
  constructor
  · intro proper
    have ⟨here, wellformed⟩ := List.forall_mem_cons.mp proper.wellformed
    have fresh := proper.fresh
    have distinct := proper.distinct
    rw [List.flatMap_cons] at fresh distinct
    have ⟨freshHere, freshRest⟩ := List.forall_mem_append.mp fresh
    have ⟨_, distinctRest, apart⟩ := List.nodup_append.mp distinct
    have last : segment.isTail = true → segments = [] := by
      intro tail
      cases segments with
      | nil => rfl
      | cons next segments =>
        have inner := proper.tailLast segment (by simp)
        simp [tail] at inner
    refine ⟨here, last, freshHere, wellformed, ?_, distinctRest, ?_⟩
    · intro name member
      rw [List.mem_append, not_or]
      exact ⟨freshRest name member, fun earlier => apart name earlier name member rfl⟩
    · intro other member
      apply proper.tailLast
      cases segments with
      | nil => simp at member
      | cons next segments => exact List.mem_cons_of_mem _ member
  · rintro ⟨here, last, freshHere, proper⟩
    have fresh : ∀ name ∈ segments.flatMap names, name ∉ taken ∧ name ∉ segment.names := by
      intro name member
      have new := proper.fresh name member
      rwa [List.mem_append, not_or] at new
    refine ⟨List.forall_mem_cons.mpr ⟨here, proper.wellformed⟩, ?_, ?_, ?_⟩
    · rw [List.flatMap_cons, List.forall_mem_append]
      exact ⟨freshHere, fun name member => (fresh name member).1⟩
    · rw [List.flatMap_cons, List.nodup_append]
      refine ⟨segment.names_nodup, proper.distinct, ?_⟩
      rintro name earlier _ later rfl
      exact (fresh name later).2 earlier
    · intro other member
      cases segments with
      | nil => simp at member
      | cons next segments =>
        rw [List.dropLast_cons_of_ne_nil (List.cons_ne_nil _ _), List.mem_cons] at member
        rcases member with rfl | member
        · rw [← Bool.not_eq_true]
          exact fun tail => List.cons_ne_nil _ _ (last tail)
        · exact proper.tailLast other member

theorem Segment.proper_nil (taken : List String) : Proper taken [] := by
  constructor <;> simp

/-- Parts are read from what they are written as, and from nothing else. -/
theorem Segment.readAll_eq_ok_iff {taken : List String} {written : List (List Char)}
    (clean : ∀ piece ∈ written, '/' ∉ piece) {segments : List Segment} :
    readAll taken written = .ok segments ↔ segments.map write = written ∧ Proper taken segments := by
  induction written generalizing taken segments with
  | nil =>
    constructor
    · intro read
      cases read
      exact ⟨rfl, proper_nil taken⟩
    · rintro ⟨nothing, _⟩
      rw [List.map_eq_nil_iff.mp nothing]
      rfl
  | cons piece written ih =>
    have ⟨here, others⟩ := List.forall_mem_cons.mp clean
    rw [readAll]
    constructor
    · intro read
      rcases first : Segment.read written.isEmpty taken piece with _ | segment
      · simp [first, bind, Except.bind] at read
      rcases more : readAll (taken ++ segment.names) written with _ | rest
      · simp [first, more, bind, Except.bind] at read
      simp only [first, more, bind, Except.bind, pure, Except.pure, Except.ok.injEq] at read
      subst read
      obtain ⟨same, wellformed, last, fresh⟩ := (read_eq_ok_iff here).mp first
      obtain ⟨rests, proper⟩ := (ih others).mp more
      refine ⟨by rw [List.map_cons, same, rests], proper_cons_iff.mpr ⟨wellformed, ?_, fresh, proper⟩⟩
      intro tail
      have nothing := List.isEmpty_iff.mp (last tail)
      rwa [nothing, List.map_eq_nil_iff] at rests
    · rintro ⟨same, proper⟩
      obtain ⟨segment, rest, rfl, first, rests⟩ := List.map_eq_cons_iff.mp same
      obtain ⟨wellformed, last, fresh, properRest⟩ := proper_cons_iff.mp proper
      have ended : segment.isTail = true → written.isEmpty = true := by
        intro tail
        rw [← rests, last tail]
        rfl
      have read := (read_eq_ok_iff here).mpr ⟨first, wellformed, ended, fresh⟩
      have more := (ih others).mpr ⟨rests, properRest⟩
      simp [read, more, bind, Except.bind, pure, Except.pure]

theorem Segment.Wellformed.noSlash {segment : Segment} (wellformed : segment.Wellformed) :
    '/' ∉ segment.write := by
  cases segment with
  | literal text => exact fun member => (wellformed.2 '/' member).1 rfl
  | capture name kind =>
    have absent : '/' ∉ name.toList := not_mem_captureName wellformed rfl (by decide)
    have unnamed : '/' ∉ kind.name.toList := by cases kind <;> decide
    simp [write, absent, unnamed]

theorem Segment.writeAll_append (segments others : List Segment) :
    writeAll (segments ++ others) = writeAll segments ++ writeAll others := by
  rw [writeAll, List.flatMap_append, String.ofList_append]
  rfl

theorem Segment.writeAll_toList {segments : List Segment} (some : segments ≠ []) :
    (writeAll segments).toList = '/' :: ['/'].intercalate (segments.map write) := by
  rw [writeAll, String.toList_ofList, ← flatMap_separator '/' (by simpa using some), List.flatMap_map]

/-- A text is read as a pattern exactly if it is how that pattern's parts are written, and the
parts are proper. -/
theorem RoutePattern.parse_eq_ok_iff {text : String} {pattern : RoutePattern} :
    parse text = .ok pattern ↔
      pattern.source = text ∧ Segment.writeAll pattern.segments = text ∧ pattern.segments ≠ [] ∧
        Segment.Proper [] pattern.segments := by
  obtain ⟨source, segments⟩ := pattern
  constructor
  · intro parsed
    unfold parse at parsed
    split at parsed
    · rename_i rest slashed
      rcases read : Segment.readAll [] (pieces '/' rest) with _ | found
      · simp [read, Except.map] at parsed
      simp only [read, Except.map, Except.ok.injEq, RoutePattern.mk.injEq] at parsed
      obtain ⟨rfl, rfl⟩ := parsed
      obtain ⟨written, proper⟩ := (Segment.readAll_eq_ok_iff (pieces_clean '/' rest)).mp read
      have some : found ≠ [] := by
        rintro rfl
        exact pieces_ne_nil '/' rest written.symm
      refine ⟨rfl, ?_, some, proper⟩
      rw [← String.toList_inj, Segment.writeAll_toList some, written, intercalate_pieces, slashed]
    · cases parsed
  · rintro ⟨same, written, some, proper⟩
    dsimp only at same written some proper
    subst same written
    have clean : ∀ piece ∈ segments.map Segment.write, '/' ∉ piece := by
      intro piece member
      obtain ⟨segment, within, rfl⟩ := List.mem_map.mp member
      exact (proper.wellformed segment within).noSlash
    have whole : pieces '/' (['/'].intercalate (segments.map Segment.write)) =
        segments.map Segment.write := pieces_intercalate clean (by simpa using some)
    have read := (Segment.readAll_eq_ok_iff clean).mpr ⟨rfl, proper⟩
    simp only [parse, Segment.writeAll_toList some, whole, read, Except.map]

end MediaServer

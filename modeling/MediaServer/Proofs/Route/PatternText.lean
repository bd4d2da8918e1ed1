import Mathlib.Data.List.Pairwise
import Mathlib.Data.List.Nodup
import MediaServer.Proofs.Route.Grammar

namespace MediaServer

/-- A part that stands for itself. -/
def IsLiteralPart (part : List Char) : Prop :=
  part ≠ [] ∧ '/' ∉ part ∧ '\x7b' ∉ part ∧ '\x7d' ∉ part

/-- A part that has this name and this class between its braces. -/
structure IsCapturePart (part name kind : List Char) : Prop where
  written : part = ['\x7b'] ++ name ++ [':'] ++ kind ++ ['\x7d']
  filled : name ≠ []
  named : ∀ c ∈ name, c.isAlphanum = true ∨ c = '_'
  known : String.ofList kind ∈ ["authority", "media_id", "filename", "*"]

/-- What the parts of a pattern's text are: literals and captures whose names differ, and of
those captures none but the last part may stand for the rest of a path. -/
structure ArePatternParts (parts : List (List Char)) : Prop where
  some : parts ≠ []
  part : ∀ part ∈ parts, IsLiteralPart part ∨ ∃ name kind, IsCapturePart part name kind
  distinct : parts.Pairwise fun part other =>
    ∀ name kind, IsCapturePart part name kind → ∀ kind', ¬ IsCapturePart other name kind'
  tailLast : ∀ part ∈ parts.dropLast, ∀ name, ¬ IsCapturePart part name ['*']

/-- A slash and parts of a pattern, with slashes between them. -/
def IsPatternText (text : List Char) : Prop :=
  ∃ parts, text = '/' :: ['/'].intercalate parts ∧ ArePatternParts parts

theorem isAlphanumeric_eq (c : Char) : isAlphanumeric c = c.isAlphanum := by
  have upper : c.isUpper = decide ('A' ≤ c ∧ c ≤ 'Z') := rfl
  have lower : c.isLower = (decide ('a' ≤ c) && decide (c ≤ 'z')) := rfl
  have either : c.isAlphanum = (c.isUpper || c.isLower || isDigit c) := rfl
  rw [either, upper, lower, Bool.decide_and, isAlphanumeric]
  exact congrArg (· || isDigit c) (Bool.or_comm _ _)

theorem isBrace_eq_false_iff {c : Char} : isBrace c = false ↔ c ≠ '\x7b' ∧ c ≠ '\x7d' := by
  simp [isBrace]

theorem isLiteralPart_iff {text : String} :
    IsLiteralPart text.toList ↔ (Segment.literal text).Wellformed := by
  simp only [IsLiteralPart, Segment.Wellformed, isBrace_eq_false_iff]
  refine and_congr_right fun _ => ⟨?_, fun plain => ?_⟩
  · rintro ⟨slash, opening, closing⟩ c member
    exact ⟨fun same => slash (same ▸ member), fun same => opening (same ▸ member),
      fun same => closing (same ▸ member)⟩
  · exact ⟨fun member => (plain _ member).1 rfl, fun member => (plain _ member).2.1 rfl,
      fun member => (plain _ member).2.2 rfl⟩

theorem isCaptureName_iff_isAlphanum {name : List Char} :
    isCaptureName name = true ↔ name ≠ [] ∧ ∀ c ∈ name, c.isAlphanum = true ∨ c = '_' := by
  simp only [isCaptureName_iff, isAlphanumeric_eq]

theorem CaptureClass.name_mem_iff {name : String} :
    name ∈ ["authority", "media_id", "filename", "*"] ↔ ∃ kind : CaptureClass, name = kind.name := by
  constructor
  · intro known
    simp only [List.mem_cons, List.not_mem_nil, or_false] at known
    rcases known with rfl | rfl | rfl | rfl
    exacts [⟨.authority, rfl⟩, ⟨.mediaId, rfl⟩, ⟨.filename, rfl⟩, ⟨.tail, rfl⟩]
  · rintro ⟨kind, rfl⟩
    cases kind <;> simp [name]

/-- What stands between braces in a pattern's text is what its part captures. -/
theorem Segment.Wellformed.isCapturePart_iff {segment : Segment} (wellformed : segment.Wellformed)
    {name kind : List Char} :
    IsCapturePart segment.write name kind ↔
      ∃ kind' : CaptureClass, segment = .capture (String.ofList name) kind' ∧ kind = kind'.name.toList := by
  constructor
  · rintro ⟨written, filled, named, known⟩
    have nameFits := isCaptureName_iff_isAlphanum.mpr ⟨filled, named⟩
    cases segment with
    | literal text =>
      have brace := (wellformed.2 '\x7b' (by rw [write] at written; simp [written])).2
      exact absurd brace (by decide)
    | capture own kind' =>
      refine ⟨kind', ?_⟩
      have inside : own.toList ++ ':' :: kind'.name.toList = name ++ ':' :: kind := by
        rw [write_capture, ← List.cons_append, List.append_left_inj] at written
        simpa using written
      have cut := congrArg (cutAt ':') inside
      rw [cutAt_of_mem (not_mem_captureName wellformed rfl (by decide)),
        cutAt_of_mem (not_mem_captureName nameFits rfl (by decide)), Prod.mk.injEq, Option.some.injEq] at cut
      obtain ⟨rfl, rfl⟩ := cut
      rw [String.ofList_toList]
      exact ⟨rfl, rfl⟩
  · rintro ⟨kind', rfl, rfl⟩
    obtain ⟨filled, named⟩ := isCaptureName_iff_isAlphanum.mp wellformed
    rw [String.toList_ofList] at filled named
    refine ⟨by simp [write_capture], filled, named, ?_⟩
    rw [String.ofList_toList]
    exact CaptureClass.name_mem_iff.mpr ⟨kind', rfl⟩

theorem Segment.exists_write_iff {part : List Char} :
    (∃ segment : Segment, segment.write = part ∧ segment.Wellformed) ↔
      IsLiteralPart part ∨ ∃ name kind, IsCapturePart part name kind := by
  constructor
  · rintro ⟨segment, rfl, wellformed⟩
    cases segment with
    | literal text => exact Or.inl (isLiteralPart_iff.mpr wellformed)
    | capture name kind =>
      refine Or.inr ⟨name.toList, kind.name.toList, wellformed.isCapturePart_iff.mpr ⟨kind, ?_, rfl⟩⟩
      rw [String.ofList_toList]
  · rintro (literal | ⟨name, kind, written, filled, named, known⟩)
    · refine ⟨.literal (String.ofList part), String.toList_ofList, isLiteralPart_iff.mp ?_⟩
      rwa [String.toList_ofList]
    · obtain ⟨kind', same⟩ := CaptureClass.name_mem_iff.mp known
      refine ⟨.capture (String.ofList name) kind', ?_, ?_⟩
      · rw [write_capture, ← same, written]
        simp
      · rw [Wellformed, String.toList_ofList]
        exact isCaptureName_iff_isAlphanum.mpr ⟨filled, named⟩

/-- The names of two parts differ exactly if their texts do not capture one name. -/
theorem Segment.Wellformed.disjoint_names_iff {segment other : Segment} (wellformed : segment.Wellformed)
    (otherWellformed : other.Wellformed) :
    segment.names.Disjoint other.names ↔
      ∀ name kind, IsCapturePart segment.write name kind → ∀ kind', ¬ IsCapturePart other.write name kind' := by
  constructor
  · intro apart name kind captured kind' again
    obtain ⟨_, rfl, _⟩ := wellformed.isCapturePart_iff.mp captured
    obtain ⟨_, rfl, _⟩ := otherWellformed.isCapturePart_iff.mp again
    exact apart (List.mem_singleton_self _) (List.mem_singleton_self _)
  · intro apart
    cases segment with
    | literal text => exact List.disjoint_nil_left _
    | capture name kind =>
      cases other with
      | literal text => exact List.disjoint_nil_right _
      | capture name' kind' =>
        simp only [names, List.disjoint_singleton, List.mem_singleton]
        intro same
        refine apart name.toList kind.name.toList ?_ kind'.name.toList ?_
        · exact wellformed.isCapturePart_iff.mpr ⟨kind, by rw [String.ofList_toList], rfl⟩
        · exact otherWellformed.isCapturePart_iff.mpr ⟨kind', by rw [String.ofList_toList, same], rfl⟩

theorem Segment.Wellformed.isTail_iff {segment : Segment} (wellformed : segment.Wellformed) :
    segment.isTail = true ↔ ∃ name, IsCapturePart segment.write name ['*'] := by
  constructor
  · intro tail
    cases segment with
    | literal text => cases tail
    | capture name kind =>
      obtain rfl := isTail_capture.mp tail
      exact ⟨name.toList, wellformed.isCapturePart_iff.mpr ⟨.tail, by rw [String.ofList_toList], rfl⟩⟩
  · rintro ⟨name, captured⟩
    obtain ⟨kind, rfl, starred⟩ := wellformed.isCapturePart_iff.mp captured
    refine isTail_capture.mpr ?_
    cases kind with
    | tail => rfl
    | authority => cases starred
    | mediaId => cases starred
    | filename => cases starred

/-- Wellformed segments are proper together exactly if what they are written as may be the parts
of a pattern's text. -/
theorem Segment.proper_iff_write {segments : List Segment} (wellformed : ∀ segment ∈ segments, segment.Wellformed) :
    segments ≠ [] ∧ Proper [] segments ↔ ArePatternParts (segments.map write) := by
  have distinct : (segments.flatMap names).Nodup ↔ (segments.map write).Pairwise fun part other =>
      ∀ name kind, IsCapturePart part name kind → ∀ kind', ¬ IsCapturePart other name kind' := by
    rw [List.nodup_flatMap, List.pairwise_map]
    refine (and_iff_right fun segment _ => segment.names_nodup).trans ?_
    exact List.Pairwise.iff_of_mem fun first second =>
      (wellformed _ first).disjoint_names_iff (wellformed _ second)
  have tailLast : (∀ segment ∈ segments.dropLast, segment.isTail = false) ↔
      ∀ part ∈ (segments.map write).dropLast, ∀ name, ¬ IsCapturePart part name ['*'] := by
    rw [← List.map_dropLast, List.forall_mem_map]
    refine forall₂_congr fun segment member => ?_
    rw [← not_exists, ← (wellformed segment (List.dropLast_subset _ member)).isTail_iff, Bool.not_eq_true]
  constructor
  · rintro ⟨some, proper⟩
    refine ⟨by simpa using some, ?_, distinct.mp proper.distinct, tailLast.mp proper.tailLast⟩
    rw [List.forall_mem_map]
    exact fun segment member => exists_write_iff.mp ⟨segment, rfl, wellformed segment member⟩
  · intro parts
    refine ⟨by simpa using parts.some, wellformed, ?_, distinct.mpr parts.distinct, tailLast.mpr parts.tailLast⟩
    simp

theorem Segment.exists_writeAll {parts : List (List Char)}
    (each : ∀ part ∈ parts, ∃ segment : Segment, segment.write = part ∧ segment.Wellformed) :
    ∃ segments : List Segment, segments.map write = parts ∧ ∀ segment ∈ segments, segment.Wellformed := by
  induction parts with
  | nil => exact ⟨[], rfl, by simp⟩
  | cons part parts ih =>
    rw [List.forall_mem_cons] at each
    obtain ⟨⟨segment, rfl, wellformed⟩, others⟩ := each
    obtain ⟨segments, rfl, more⟩ := ih others
    exact ⟨segment :: segments, rfl, List.forall_mem_cons.mpr ⟨wellformed, more⟩⟩

/-- Patterns are read from the texts of their grammar and from no others. What was read is written
as that text again, and the segments of a pattern are read back from what they are written as. -/
theorem RoutePattern.parse_grammar :
    (∀ text, (∃ pattern, parse text = .ok pattern) ↔ IsPatternText text.toList) ∧
      (∀ text pattern, parse text = .ok pattern →
        pattern.source = text ∧ Segment.writeAll pattern.segments = text) ∧
      ∀ segments, segments ≠ [] → Segment.Proper [] segments →
        parse (Segment.writeAll segments) = .ok ⟨Segment.writeAll segments, segments⟩ := by
  refine ⟨fun text => ⟨?_, ?_⟩, ?_, ?_⟩
  · rintro ⟨pattern, parsed⟩
    obtain ⟨-, written, some, proper⟩ := parse_eq_ok_iff.mp parsed
    refine ⟨pattern.segments.map Segment.write, ?_, ?_⟩
    · rw [← written, Segment.writeAll_toList some]
    · exact (Segment.proper_iff_write proper.wellformed).mp ⟨some, proper⟩
  · rintro ⟨parts, written, grammatical⟩
    obtain ⟨segments, rfl, wellformed⟩ := Segment.exists_writeAll fun part member =>
      Segment.exists_write_iff.mpr (grammatical.part part member)
    obtain ⟨some, proper⟩ := (Segment.proper_iff_write wellformed).mpr grammatical
    refine ⟨⟨text, segments⟩, parse_eq_ok_iff.mpr ⟨rfl, ?_, some, proper⟩⟩
    rw [← String.toList_inj, Segment.writeAll_toList some, written]
  · intro text pattern parsed
    obtain ⟨same, written, -, -⟩ := parse_eq_ok_iff.mp parsed
    exact ⟨same, written⟩
  · intro segments some proper
    exact parse_eq_ok_iff.mpr ⟨rfl, rfl, some, proper⟩

theorem RoutePattern.parse_grammar_captures :
    let segments : List Segment := [.literal "m", .capture "server" .authority, .capture "_r2" .tail]
    Segment.Proper [] segments ∧ IsPatternText "/m/\x7bserver:authority\x7d/\x7b_r2:*\x7d".toList ∧
      parse "/m/\x7bserver:authority\x7d/\x7b_r2:*\x7d" =
        .ok ⟨"/m/\x7bserver:authority\x7d/\x7b_r2:*\x7d", segments⟩ := by
  intro segments
  have proper : Segment.Proper [] segments := by
    refine ⟨?_, by simp, by decide, by decide⟩
    simp [segments, Segment.Wellformed, isBrace, isCaptureName, isAlphanumeric, isDigit]
  have read := parse_grammar.2.2 segments (List.cons_ne_nil _ _) proper
  exact ⟨proper, (parse_grammar.1 _).mp ⟨_, read⟩, read⟩

end MediaServer

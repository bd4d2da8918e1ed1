import Mathlib.Data.List.Forall2
import MediaServer.Proofs.Route.Keys

namespace MediaServer

/-- Parts that agree in everything but the class of a capture that is no tail. -/
inductive Segment.AlikeButClass : Segment → Segment → Prop
  | literal (text : String) : AlikeButClass (.literal text) (.literal text)
  | one {name : String} {kind other : CaptureClass} (single : kind ≠ .tail) (otherSingle : other ≠ .tail) :
      AlikeButClass (.capture name kind) (.capture name other)
  | tail (name : String) : AlikeButClass (.capture name .tail) (.capture name .tail)

/-- The tree keeps of a part just what is not its class. -/
theorem Segment.alikeButClass_iff {segment other : Segment} :
    AlikeButClass segment other ↔ segment.toTree = other.toTree := by
  constructor
  · intro alike
    cases alike with
    | literal text => rfl
    | one single otherSingle => rw [toTree_of_ne_tail single, toTree_of_ne_tail otherSingle]
    | tail name => rfl
  · intro same
    cases segment with
    | literal text =>
      cases other with
      | literal text' =>
        cases same
        exact .literal text
      | capture name kind => cases kind <;> cases same
    | capture name kind =>
      cases other with
      | literal text => cases kind <;> cases same
      | capture name' kind' =>
        by_cases tail : kind = .tail <;> by_cases tail' : kind' = .tail
        · subst tail tail'
          cases same
          exact .tail name
        · subst tail
          rw [toTree_of_ne_tail tail'] at same
          cases same
        · subst tail'
          rw [toTree_of_ne_tail tail] at same
          cases same
        · rw [toTree_of_ne_tail tail, toTree_of_ne_tail tail'] at same
          cases same
          exact .one tail tail'

theorem Segment.forall₂_alikeButClass_iff {segments others : List Segment} :
    List.Forall₂ AlikeButClass segments others ↔ segments.map toTree = others.map toTree := by
  have each : AlikeButClass = fun segment other : Segment => segment.toTree = other.toTree :=
    funext₂ fun _ _ => propext alikeButClass_iff
  rw [each, ← List.forall₂_eq_eq_eq, List.forall₂_map_left_iff, List.forall₂_map_right_iff]

theorem Segment.AlikeButClass.treeText {segment other : Segment} (alike : AlikeButClass segment other) :
    segment.treeText = other.treeText := by
  cases alike with
  | literal text => rfl
  | @one name kind kind' single otherSingle => cases kind <;> cases kind' <;> simp_all [Segment.treeText]
  | tail name => rfl

theorem Segment.treePath_of_alike {segments others : List Segment}
    (alike : List.Forall₂ AlikeButClass segments others) : treePath segments = treePath others := by
  have texts : segments.map Segment.treeText = others.map Segment.treeText := by
    rw [← List.forall₂_eq_eq_eq, List.forall₂_map_left_iff, List.forall₂_map_right_iff]
    exact alike.imp fun _ _ => AlikeButClass.treeText
  rw [treePath, treePath, ← List.flatMap_map, texts, List.flatMap_map]

section Accepted

variable {text text' : String} {pattern other : RoutePattern}

theorem RoutePattern.ofText?_treePath (parsed : parse text = .ok pattern) :
    TreeKey.ofText? pattern.treePath = some (pattern.segments.map Segment.toTree) := by
  obtain ⟨_, _, filled, proper⟩ := parse_eq_ok_iff.mp parsed
  exact TreeKey.ofText?_treePath filled proper

/-- The key for nothing left of a tail is read back as the parts before the tail and an empty text. -/
theorem RoutePattern.ofText?_emptyTailPath (parsed : parse text = .ok pattern) {path : String}
    (tail : pattern.emptyTailPath? = some path) :
    path = Segment.treePath pattern.segments.dropLast ++ "/" ∧
      TreeKey.ofText? path = some (pattern.segments.dropLast.map Segment.toTree ++ [.literal ""]) := by
  obtain ⟨_, _, filled, proper⟩ := parse_eq_ok_iff.mp parsed
  obtain ⟨front, last, split, wellformed, tailless⟩ := proper.split filled
  rw [emptyTailPath?, split, List.getLast?_concat, List.dropLast_concat] at tail
  rw [split, List.dropLast_concat]
  by_cases ends : last.isTail = true
  · simp only [if_pos ends, Option.some.injEq] at tail
    subst tail
    exact ⟨rfl, TreeKey.ofText?_emptyTail wellformed tailless⟩
  · simp only [if_neg ends] at tail
    cases tail

theorem RoutePattern.treePath_eq_iff (parsed : parse text = .ok pattern) (parsedOther : parse text' = .ok other) :
    pattern.treePath = other.treePath ↔ List.Forall₂ Segment.AlikeButClass pattern.segments other.segments := by
  refine ⟨fun same => ?_, Segment.treePath_of_alike⟩
  have read := ofText?_treePath parsed
  rw [same, ofText?_treePath parsedOther, Option.some.injEq] at read
  exact Segment.forall₂_alikeButClass_iff.mpr read.symm

/-- A key for nothing left of a tail ends with an empty text, and no literal is empty. -/
theorem RoutePattern.emptyTailPath_ne_treePath (parsed : parse text = .ok pattern)
    (parsedOther : parse text' = .ok other) : pattern.emptyTailPath? ≠ some other.treePath := by
  intro aliased
  have read := (ofText?_emptyTailPath parsed aliased).2
  rw [ofText?_treePath parsedOther, Option.some.injEq] at read
  obtain ⟨_, _, _, proper⟩ := parse_eq_ok_iff.mp parsedOther
  have inside : TreeSegment.literal "" ∈ other.segments.map Segment.toTree := by
    rw [read]
    exact List.mem_append_right _ (List.mem_singleton_self _)
  obtain ⟨segment, member, empty⟩ := List.mem_map.mp inside
  exact (proper.wellformed segment member).toTree_ne_empty empty

theorem RoutePattern.emptyTailPath_eq_iff (parsed : parse text = .ok pattern)
    (parsedOther : parse text' = .ok other) {path path' : String} (tail : pattern.emptyTailPath? = some path)
    (tailOther : other.emptyTailPath? = some path') :
    path = path' ↔ List.Forall₂ Segment.AlikeButClass pattern.segments.dropLast other.segments.dropLast := by
  obtain ⟨written, read⟩ := ofText?_emptyTailPath parsed tail
  obtain ⟨writtenOther, readOther⟩ := ofText?_emptyTailPath parsedOther tailOther
  constructor
  · intro same
    rw [same, readOther, Option.some.injEq, List.append_left_inj] at read
    exact Segment.forall₂_alikeButClass_iff.mpr read.symm
  · intro alike
    rw [written, writtenOther, Segment.treePath_of_alike alike]

end Accepted

/-- The tree path of a pattern is read back as its literals, its captures and its tail. So it tells everything
of the pattern but the classes of captures that are no tails, and the second path of a tail tells as much of
the parts before the tail and is the path of no pattern. -/
theorem RoutePattern.treePath_unambiguous {text : String} {pattern : RoutePattern}
    (parsed : parse text = .ok pattern) :
    TreeKey.ofText? pattern.treePath = some (pattern.segments.map Segment.toTree) ∧
      ∀ text' other, parse text' = .ok other →
        (pattern.treePath = other.treePath ↔
          List.Forall₂ Segment.AlikeButClass pattern.segments other.segments) ∧
        pattern.emptyTailPath? ≠ some other.treePath ∧
        ∀ path path', pattern.emptyTailPath? = some path → other.emptyTailPath? = some path' →
          (path = path' ↔
            List.Forall₂ Segment.AlikeButClass pattern.segments.dropLast other.segments.dropLast) := by
  refine ⟨ofText?_treePath parsed, fun text' other parsedOther => ?_⟩
  refine ⟨treePath_eq_iff parsed parsedOther, emptyTailPath_ne_treePath parsed parsedOther, ?_⟩
  intro path path' tail tailOther
  exact emptyTailPath_eq_iff parsed parsedOther tail tailOther

/-- Two patterns that differ in the class of their first capture and in the name of their tail. -/
theorem RoutePattern.treePath_unambiguous_tails :
    ∃ pattern other, parse "/m*/\x7bid:media_id\x7d/\x7brest:*\x7d" = .ok pattern ∧
      parse "/m*/\x7bid:filename\x7d/\x7bmore:*\x7d" = .ok other ∧
      TreeKey.ofText? pattern.treePath = some [.literal "m*", .one "id", .rest "rest"] ∧
      pattern.treePath ≠ other.treePath ∧ pattern.emptyTailPath? ≠ some other.treePath ∧
      pattern.emptyTailPath? = some "/m*/\x7bid\x7d/" ∧ pattern.emptyTailPath? = other.emptyTailPath? := by
  let pattern : RoutePattern := ⟨"/m*/\x7bid:media_id\x7d/\x7brest:*\x7d",
    [.literal "m*", .capture "id" .mediaId, .capture "rest" .tail]⟩
  let other : RoutePattern := ⟨"/m*/\x7bid:filename\x7d/\x7bmore:*\x7d",
    [.literal "m*", .capture "id" .filename, .capture "more" .tail]⟩
  have parsed : parse "/m*/\x7bid:media_id\x7d/\x7brest:*\x7d" = .ok pattern := by decide +kernel
  have parsedOther : parse "/m*/\x7bid:filename\x7d/\x7bmore:*\x7d" = .ok other := by decide +kernel
  obtain ⟨read, compared⟩ := treePath_unambiguous parsed
  obtain ⟨paths, unaliased, tails⟩ := compared _ _ parsedOther
  have tail : pattern.emptyTailPath? = some "/m*/\x7bid\x7d/" := by decide +kernel
  obtain ⟨path, tailOther⟩ : ∃ path, other.emptyTailPath? = some path := ⟨_, rfl⟩
  have fronts : List.Forall₂ Segment.AlikeButClass pattern.segments.dropLast other.segments.dropLast :=
    .cons (.literal "m*") (.cons (.one (by decide) (by decide)) .nil)
  refine ⟨pattern, other, parsed, parsedOther, read, ?_, unaliased, tail, ?_⟩
  · rw [Ne, paths, Segment.forall₂_alikeButClass_iff]
    decide
  · rw [tail, tailOther, (tails _ _ tail tailOther).mpr fronts]

end MediaServer

import MediaServer.Route.Table
import MediaServer.Proofs.Route.Grammar

namespace MediaServer

/-- What the tree keeps of a part: classes are left out, apart from there being a tail or not. -/
def Segment.toTree : Segment → TreeSegment
  | .literal text => .literal text
  | .capture name .tail => .rest name
  | .capture name _ => .one name

theorem Segment.toTree_of_ne_tail {name : String} {kind : CaptureClass} (single : kind ≠ .tail) :
    (capture name kind).toTree = .one name := by
  cases kind with
  | tail => exact absurd rfl single
  | _ => rfl

/-- The keys of a pattern: its own, and one for a tail of which nothing is left. -/
def Segment.keys : List Segment → List TreeKey
  | [] => [[]]
  | segment :: segments =>
    (keys segments).map (segment.toTree :: ·) ++ if segment.isTail then [[.literal ""]] else []

theorem Segment.mem_keys_cons {segment : Segment} {segments : List Segment} {key : TreeKey} :
    key ∈ keys (segment :: segments) ↔
      (∃ below ∈ keys segments, key = segment.toTree :: below) ∨
        segment.isTail = true ∧ key = [.literal ""] := by
  rw [keys, List.mem_append, List.mem_map]
  cases segment.isTail <;> simp [eq_comm (a := key)]

/-- The pattern's own key is one of its keys. -/
theorem Segment.map_toTree_mem_keys (segments : List Segment) : segments.map toTree ∈ keys segments := by
  induction segments with
  | nil => exact List.mem_singleton_self _
  | cons segment segments ih => exact mem_keys_cons.mpr (Or.inl ⟨_, ih, rfl⟩)

/-- Parts without a tail are in front of all keys. -/
theorem Segment.keys_append {front : List Segment} (tailless : ∀ segment ∈ front, segment.isTail = false)
    (segments : List Segment) : keys (front ++ segments) = (keys segments).map (front.map toTree ++ ·) := by
  induction front with
  | nil => simp
  | cons segment front ih =>
    have ⟨one, ones⟩ := List.forall_mem_cons.mp tailless
    rw [List.cons_append, keys, ih ones, one]
    simp

/-- A tail comes last, so a pattern has its own key and at most one more. -/
theorem Segment.keys_concat {front : List Segment} (tailless : ∀ segment ∈ front, segment.isTail = false)
    (last : Segment) :
    keys (front ++ [last]) =
      (front ++ [last]).map toTree ::
        if last.isTail then [front.map toTree ++ [.literal ""]] else [] := by
  rw [keys_append tailless, keys]
  cases last.isTail <;> simp [keys]

theorem TreeSegment.unescape?_of_unbraced {chars : List Char} (plain : ∀ c ∈ chars, isBrace c = false) :
    unescape? chars = some chars := by
  induction chars with
  | nil => rfl
  | cons c chars ih =>
    have ⟨here, others⟩ := List.forall_mem_cons.mp plain
    have ⟨noOpen, noClose⟩ : c ≠ '\x7b' ∧ c ≠ '\x7d' := by simpa [isBrace] using here
    rw [unescape?, ih others, if_neg (by simp [noOpen, noClose]), Option.map_some]
    · rintro _ rfl
      exact absurd rfl noOpen
    · rintro _ rfl
      exact absurd rfl noClose

theorem TreeSegment.name?_of_captureName {name : String} (named : isCaptureName name.toList = true) :
    name? (name.toList ++ ['\x7d']) = some name := by
  have filled := (isCaptureName_iff.mp named).1
  have noOpen : '\x7b' ∉ name.toList := not_mem_captureName named rfl (by decide)
  have noClose : '\x7d' ∉ name.toList := not_mem_captureName named rfl (by decide)
  have noStar : '*' ∉ name.toList := not_mem_captureName named rfl (by decide)
  have plain : name.toList.all (fun c => c != '\x7b' && c != '\x7d' && c != '*') = true := by
    rw [List.all_eq_true]
    intro c member
    have apart : c ≠ '\x7b' ∧ c ≠ '\x7d' ∧ c ≠ '*' :=
      ⟨fun same => noOpen (same ▸ member), fun same => noClose (same ▸ member),
        fun same => noStar (same ▸ member)⟩
    simp [apart]
  simp only [name?, List.getLast?_concat, List.dropLast_concat, plain, String.ofList_toList]
  simp [filled]

theorem TreeSegment.read?_treeText {segment : Segment} (wellformed : segment.Wellformed) :
    TreeSegment.read? segment.treeText = some segment.toTree := by
  cases segment with
  | literal text =>
    obtain ⟨filled, plain⟩ := wellformed
    have whole := unescape?_of_unbraced fun c member => (plain c member).2
    rcases chars : text.toList with _ | ⟨c, others⟩
    · exact absurd chars filled
    · have unbraced : c ≠ '\x7b' := by
        rintro rfl
        have brace := (plain '\x7b' (by simp [chars])).2
        exact absurd brace (by decide)
      rw [chars] at whole
      have text_eq : String.ofList (c :: others) = text := by rw [← chars, String.ofList_toList]
      simp [Segment.treeText, chars, TreeSegment.read?, unbraced, whole, Segment.toTree, text_eq]
  | capture name kind =>
    have read := name?_of_captureName wellformed
    have noOpen : '\x7b' ∉ name.toList := not_mem_captureName wellformed rfl (by decide)
    have noStar : '*' ∉ name.toList := not_mem_captureName wellformed rfl (by decide)
    rcases chars : name.toList with _ | ⟨c, others⟩
    · exact absurd chars (isCaptureName_iff.mp wellformed).1
    · have apart : c ≠ '\x7b' ∧ c ≠ '*' :=
        ⟨fun same => noOpen (by simp [chars, same]), fun same => noStar (by simp [chars, same])⟩
      rw [chars] at read
      cases kind <;>
        simp_all [Segment.treeText, TreeSegment.read?, Segment.toTree]

theorem Segment.Wellformed.treeText_noSlash {segment : Segment} (wellformed : segment.Wellformed) :
    '/' ∉ segment.treeText := by
  cases segment with
  | literal text => exact fun member => (wellformed.2 '/' member).1 rfl
  | capture name kind =>
    have absent : '/' ∉ name.toList := not_mem_captureName wellformed rfl (by decide)
    cases kind <;> simp [treeText, absent]

theorem Segment.Wellformed.toTree_ne_empty {segment : Segment} (wellformed : segment.Wellformed) :
    segment.toTree ≠ .literal "" := by
  intro same
  cases segment with
  | literal text =>
    cases same
    exact wellformed.1 rfl
  | capture name kind => cases kind <;> cases same

/-- Parts that are no tails are read one by one, whatever follows them. -/
theorem TreeKey.read?_append {front : List Segment} (wellformed : ∀ segment ∈ front, segment.Wellformed)
    (tailless : ∀ segment ∈ front, segment.isTail = false) (ending : List (List Char)) :
    TreeKey.read? (front.map Segment.treeText ++ ending) =
      (TreeKey.read? ending).map (front.map Segment.toTree ++ ·) := by
  induction front with
  | nil => simp
  | cons segment front ih =>
    have ⟨here, others⟩ := List.forall_mem_cons.mp wellformed
    have ⟨one, ones⟩ := List.forall_mem_cons.mp tailless
    rw [List.map_cons, List.cons_append, TreeKey.read?, TreeSegment.read?_treeText here, ih others ones]
    rcases TreeKey.read? ending with _ | key
    · rfl
    · cases segment with
      | literal text => rfl
      | capture name kind => cases kind <;> first | rfl | simp [Segment.isTail] at one

theorem TreeKey.ofText?_slashed {written : List (List Char)} (clean : ∀ piece ∈ written, '/' ∉ piece)
    (some : written ≠ []) :
    TreeKey.ofText? (String.ofList (written.flatMap ('/' :: ·))) = TreeKey.read? written := by
  simp only [TreeKey.ofText?, String.toList_ofList, flatMap_separator '/' some,
    pieces_intercalate clean some]

theorem TreeKey.ofText?_treePath {segments : List Segment} {taken : List String} (some : segments ≠ [])
    (proper : Segment.Proper taken segments) :
    TreeKey.ofText? (Segment.treePath segments) = .some (segments.map Segment.toTree) := by
  have clean : ∀ piece ∈ segments.map Segment.treeText, '/' ∉ piece := by
    intro piece member
    obtain ⟨segment, within, rfl⟩ := List.mem_map.mp member
    exact (proper.wellformed segment within).treeText_noSlash
  have slashed := TreeKey.ofText?_slashed clean (by simpa using some)
  rw [List.flatMap_map] at slashed
  obtain ⟨front, last, rfl⟩ : ∃ front last, segments = front ++ [last] :=
    ⟨_, _, (List.dropLast_concat_getLast some).symm⟩
  have tailless := proper.tailLast
  rw [List.dropLast_concat] at tailless
  have ⟨wellformed, here⟩ := List.forall_mem_append.mp proper.wellformed
  have ending : TreeKey.read? [last.treeText] = .some [last.toTree] := by
    simp [TreeKey.read?, TreeSegment.read?_treeText (here last (List.mem_singleton_self last))]
  rw [Segment.treePath, slashed, List.map_append, TreeKey.read?_append wellformed tailless,
    List.map_singleton, ending]
  simp

/-- The key for nothing left of a tail goes on with an empty text where the tail would stand. -/
theorem TreeKey.ofText?_emptyTail {front : List Segment} (wellformed : ∀ segment ∈ front, segment.Wellformed)
    (tailless : ∀ segment ∈ front, segment.isTail = false) :
    TreeKey.ofText? (Segment.treePath front ++ "/") =
      some (front.map Segment.toTree ++ [.literal ""]) := by
  have clean : ∀ piece ∈ front.map Segment.treeText ++ [[]], '/' ∉ piece := by
    intro piece member
    rw [List.mem_append, List.mem_singleton] at member
    rcases member with member | rfl
    · obtain ⟨segment, within, rfl⟩ := List.mem_map.mp member
      exact (wellformed segment within).treeText_noSlash
    · exact List.not_mem_nil
  have slashed := TreeKey.ofText?_slashed clean (List.concat_ne_nil _ _)
  have path : String.ofList ((front.map Segment.treeText ++ [[]]).flatMap ('/' :: ·)) =
      Segment.treePath front ++ "/" := by
    rw [← String.toList_inj, String.toList_ofList, String.toList_append, Segment.treePath,
      String.toList_ofList, List.flatMap_append, List.flatMap_map]
    rfl
  rw [← path, slashed, TreeKey.read?_append wellformed tailless]
  rfl

theorem RouteTree.insert?_eq_some_iff {tree grown : RouteTree} {key : TreeKey} {slot : Nat} :
    tree.insert? key slot = some grown ↔
      (∀ entry ∈ tree, TreeKey.clashes key entry.1 = false) ∧ grown = tree ++ [(key, slot)] := by
  unfold insert?
  by_cases clash : tree.any (fun entry => TreeKey.clashes key entry.1) = true
  · rw [if_pos clash]
    obtain ⟨entry, member, clashes⟩ := List.any_eq_true.mp clash
    constructor
    · intro impossible
      cases impossible
    · rintro ⟨apart, _⟩
      simp [apart entry member] at clashes
  · rw [if_neg clash, Option.some.injEq]
    rw [Bool.not_eq_true, List.any_eq_false] at clash
    constructor
    · rintro rfl
      exact ⟨fun entry member => by simpa using clash entry member, rfl⟩
    · rintro ⟨_, rfl⟩
      rfl

/-- The parts in front of the last one, none of which is a tail. -/
theorem Segment.Proper.split {taken : List String} {segments : List Segment} (proper : Proper taken segments)
    (some : segments ≠ []) :
    ∃ front last, segments = front ++ [last] ∧ (∀ segment ∈ front, segment.Wellformed) ∧
      ∀ segment ∈ front, segment.isTail = false := by
  refine ⟨_, _, (List.dropLast_concat_getLast some).symm, ?_, proper.tailLast⟩
  intro segment member
  exact proper.wellformed segment (List.dropLast_subset _ member)

/-- A new pattern gives the tree its keys and nothing else, and clashes with none that are there. -/
theorem RouteTree.insertPattern?_eq_some {tree grown : RouteTree} {pattern : RoutePattern} {slot : Nat}
    (some : pattern.segments ≠ []) (proper : Segment.Proper [] pattern.segments)
    (inserted : tree.insertPattern? pattern slot = .some grown) :
    grown = tree ++ (Segment.keys pattern.segments).map (·, slot) ∧
      ∀ key ∈ Segment.keys pattern.segments, ∀ entry ∈ tree, TreeKey.clashes key entry.1 = false := by
  obtain ⟨front, last, split, wellformed, tailless⟩ := proper.split some
  unfold insertPattern? insertText? at inserted
  rw [RoutePattern.treePath, TreeKey.ofText?_treePath some proper] at inserted
  obtain ⟨first, own, rest⟩ := Option.bind_eq_some_iff.mp inserted
  obtain ⟨apart, rfl⟩ := RouteTree.insert?_eq_some_iff.mp own
  unfold RoutePattern.emptyTailPath? at rest
  rw [split, List.getLast?_concat, List.dropLast_concat] at rest
  rw [split] at apart ⊢
  rw [Segment.keys_concat tailless]
  by_cases tail : last.isTail = true
  · simp only [if_pos tail, TreeKey.ofText?_emptyTail wellformed tailless, Option.bind_some] at rest
    obtain ⟨apart₂, rfl⟩ := RouteTree.insert?_eq_some_iff.mp rest
    rw [if_pos tail]
    refine ⟨by simp, ?_⟩
    simp only [List.forall_mem_cons]
    exact ⟨apart, fun entry within => apart₂ entry (List.mem_append_left _ within),
      fun _ nothing => absurd nothing List.not_mem_nil⟩
  · simp only [if_neg tail, Option.some.injEq] at rest
    subst rest
    rw [if_neg tail]
    refine ⟨by simp, ?_⟩
    simp only [List.forall_mem_cons]
    exact ⟨apart, fun _ nothing => absurd nothing List.not_mem_nil⟩

theorem TreeKey.clashes_comm (key other : TreeKey) : key.clashes other = other.clashes key := by
  induction key generalizing other with
  | nil => cases other with
    | nil => rfl
    | cons head tail => cases head <;> rfl
  | cons head key ih =>
    rcases other with _ | ⟨next, other⟩
    · cases head <;> rfl
    · cases head <;> cases next <;> simp [TreeKey.clashes, ih other, eq_comm, Bool.beq_eq_decide_eq]

end MediaServer

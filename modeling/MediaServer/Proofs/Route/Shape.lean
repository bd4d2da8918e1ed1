import MediaServer.Proofs.Route.Keys
import MediaServer.Proofs.Route.Search

namespace MediaServer

/-- What the captures of a pattern take from a path, still as it was written there. -/
abbrev Taken := List (String × CaptureClass × String)

/-- What a pattern takes from the parts of a path, whatever classes its captures have. A capture
takes one part, but not an empty one at the end; a tail takes all that is left, be it empty. -/
inductive Segment.Takes : List Segment → List String → Taken → Prop
  | done : Takes [] [] []
  | literal {text : String} {segments : List Segment} {parts : List String} {taken : Taken} :
      Takes segments parts taken → Takes (.literal text :: segments) (text :: parts) taken
  | one {name part : String} {kind : CaptureClass} {segments : List Segment} {parts : List String}
      {taken : Taken} :
      kind ≠ .tail → ¬ (part = "" ∧ parts = []) → Takes segments parts taken →
        Takes (.capture name kind :: segments) (part :: parts) ((name, kind, part) :: taken)
  | tail {name part : String} {parts : List String} :
      Takes [.capture name .tail] (part :: parts)
        [(name, .tail, String.ofList (joinParts (part :: parts)))]

/-- The decoded value of one capture, if it is UTF-8 and of its class. -/
def Taken.value? : String × CaptureClass × String → Option (String × String)
  | (name, kind, text) =>
    (Percent.decodeText? text).bind fun value => if kind.accepts value then some (name, value) else none

/-- All captures in their order, decoded, if each has a value. -/
def Taken.decode? (taken : Taken) : Option Captures :=
  taken.mapM Taken.value?

/-- The names that were given a text, without their classes. -/
def Taken.params (taken : Taken) : List (String × String) :=
  taken.map fun (name, _, text) => (name, text)

def Segment.rank : Segment → Nat
  | .literal _ => 0
  | .capture _ kind => if kind = .tail then 2 else 1

theorem Segment.toTree_rank (segment : Segment) : segment.toTree.rank = segment.rank := by
  cases segment with
  | literal text => rfl
  | capture name kind => cases kind <;> rfl

theorem joinParts_eq_nil_iff {part : String} {parts : List String} :
    joinParts (part :: parts) = [] ↔ part = "" ∧ parts = [] := by
  unfold joinParts
  cases parts with
  | nil => simp
  | cons next parts => simp

variable {segments others : List Segment} {parts : List String} {taken : Taken}

theorem Segment.Takes.names (takes : Takes segments parts taken) :
    taken.map (·.1) = segments.flatMap Segment.names := by
  induction takes with
  | done => rfl
  | literal _ ih => simpa [Segment.names] using ih
  | one _ _ _ ih => simpa [Segment.names] using ih
  | tail => rfl

theorem Segment.captured?_capture {params : List (String × String)} {name text : String}
    (here : (params.lookup name).getD "" = text) (kind : CaptureClass) :
    captured? params (capture name kind) = (Taken.value? (name, kind, text)).map ([·]) := by
  rw [captured?, here, Taken.value?, Option.map_bind]
  congr 1
  funext value
  by_cases fits : kind.accepts value = true <;> simp [fits]

theorem Segment.captured?_cons {params : List (String × String)} {name text : String}
    (here : (params.lookup name).getD "" = text) (kind : CaptureClass) (segments : List Segment) :
    ((capture name kind :: segments).mapM (captured? params)).map List.flatten =
      (Taken.value? (name, kind, text)).bind fun value =>
        ((segments.mapM (captured? params)).map List.flatten).map (value :: ·) := by
  rw [List.mapM_cons, captured?_capture here]
  rcases Taken.value? _ with _ | value
  · rfl
  · rcases List.mapM (captured? params) segments with _ | captures <;> rfl

/-- The captures are read by name, each from what the path gave for it. -/
theorem Segment.Takes.captured (takes : Takes segments parts taken) {params : List (String × String)}
    (agree : ∀ entry ∈ taken, (params.lookup entry.1).getD "" = entry.2.2) :
    (segments.mapM (Segment.captured? params)).map List.flatten = taken.decode? := by
  induction takes with
  | done => rfl
  | literal _ ih =>
    rw [← ih agree, List.mapM_cons]
    rcases List.mapM (captured? params) _ with _ | captures <;> rfl
  | one _ _ _ ih =>
    have ⟨here, rest⟩ := List.forall_mem_cons.mp agree
    rw [Segment.captured?_cons here, ih rest, Taken.decode?, Taken.decode?, List.mapM_cons]
    rcases Taken.value? _ with _ | value
    · rfl
    · rcases List.mapM Taken.value? _ with _ | values <;> rfl
  | tail =>
    have ⟨here, _⟩ := List.forall_mem_cons.mp agree
    rw [Segment.captured?_cons here, Taken.decode?, List.mapM_cons]
    rcases Taken.value? _ with _ | value <;> rfl

/-- What a key of a pattern takes, the pattern takes. Of an empty tail the key says nothing. -/
theorem Segment.takes_of_key {earlier : List String} (proper : Proper earlier segments) {key : TreeKey}
    (member : key ∈ keys segments) {params : List (String × String)} (takes : key.Takes parts params) :
    ∃ taken, Takes segments parts taken ∧
      (taken.params = params ∨ ∃ name, taken.params = params ++ [(name, "")]) := by
  induction segments generalizing earlier key parts params with
  | nil =>
    cases List.mem_singleton.mp member
    cases takes
    exact ⟨[], .done, Or.inl rfl⟩
  | cons segment segments ih =>
    obtain ⟨_, last, _, properRest⟩ := proper_cons_iff.mp proper
    rcases mem_keys_cons.mp member with ⟨below, within, rfl⟩ | ⟨tail, rfl⟩
    · cases segment with
      | literal text =>
        cases takes with
        | literal takes =>
          obtain ⟨taken, shape, same⟩ := ih properRest within takes
          exact ⟨taken, .literal shape, same⟩
      | capture name kind =>
        by_cases rest : kind = .tail
        · subst rest
          obtain rfl := last rfl
          cases List.mem_singleton.mp within
          cases takes with
          | rest => exact ⟨_, .tail, Or.inl rfl⟩
        · rw [toTree_of_ne_tail rest] at takes
          cases takes with
          | one filled takes =>
            obtain ⟨taken, shape, same⟩ := ih properRest within takes
            refine ⟨_, .one rest filled shape, ?_⟩
            rcases same with same | ⟨ending, same⟩
            · exact Or.inl (by simpa [Taken.params] using same)
            · exact Or.inr ⟨ending, by simpa [Taken.params] using same⟩
    · cases segment with
      | literal text => cases tail
      | capture name kind =>
        obtain rfl := isTail_capture.mp tail
        obtain rfl := last rfl
        cases takes with
        | literal takes =>
          cases takes
          exact ⟨_, .tail, Or.inr ⟨name, rfl⟩⟩

/-- What a pattern takes, one of its keys takes. -/
theorem Segment.Takes.key (takes : Takes segments parts taken) :
    ∃ key ∈ keys segments, ∃ params, TreeKey.Takes key parts params := by
  induction takes with
  | done => exact ⟨[], List.mem_singleton_self _, [], .done⟩
  | literal _ ih =>
    obtain ⟨key, member, params, takes⟩ := ih
    exact ⟨_, mem_keys_cons.mpr (Or.inl ⟨key, member, rfl⟩), params, .literal takes⟩
  | one single filled _ ih =>
    obtain ⟨key, member, params, takes⟩ := ih
    refine ⟨_, mem_keys_cons.mpr (Or.inl ⟨key, member, rfl⟩), ?_⟩
    rw [toTree_of_ne_tail single]
    exact ⟨_, .one filled takes⟩
  | @tail name part parts =>
    by_cases nothing : part = "" ∧ parts = []
    · obtain ⟨rfl, rfl⟩ := nothing
      exact ⟨_, mem_keys_cons.mpr (Or.inr ⟨rfl, rfl⟩), [], .literal .done⟩
    · have filled : joinParts (part :: parts) ≠ [] := fun empty => nothing (joinParts_eq_nil_iff.mp empty)
      exact ⟨_, mem_keys_cons.mpr (Or.inl ⟨[], List.mem_singleton_self _, rfl⟩), _, .rest filled⟩

theorem TreeKey.Takes.tail {head : TreeSegment} {below : TreeKey} {params : List (String × String)}
    (takes : TreeKey.Takes (head :: below) parts params) :
    below = [] ∨ ∃ given, TreeKey.Takes below parts.tail given := by
  cases takes with
  | literal takes => exact Or.inr ⟨_, takes⟩
  | one _ takes => exact Or.inr ⟨_, takes⟩
  | rest => exact Or.inl rfl

/-- An empty part at the end is taken by a text alone. -/
theorem TreeKey.Takes.rank_of_empty {head : TreeSegment} {below : TreeKey}
    {params : List (String × String)} (takes : TreeKey.Takes (head :: below) [""] params) :
    head.rank = 0 := by
  cases takes with
  | literal => rfl
  | one filled => exact absurd ⟨rfl, rfl⟩ filled
  | rest filled => exact absurd (joinParts_eq_nil_iff.mpr ⟨rfl, rfl⟩) filled

/-- The order of keys that take the same path is that of their patterns. -/
theorem Segment.before_of_keys {key other : TreeKey} (member : key ∈ keys segments)
    (otherMember : other ∈ keys others) {params alsoParams : List (String × String)}
    (takes : key.Takes parts params) (otherTakes : other.Takes parts alsoParams)
    (first : RankedBefore TreeSegment.rank key other) : RankedBefore Segment.rank segments others := by
  induction segments generalizing others key other parts params alsoParams with
  | nil =>
    cases List.mem_singleton.mp member
    cases first
  | cons segment segments ih =>
    rcases others with _ | ⟨next, others⟩
    · cases List.mem_singleton.mp otherMember
      cases first
    rcases mem_keys_cons.mp member with ⟨below, within, rfl⟩ | ⟨_, rfl⟩ <;>
      rcases mem_keys_cons.mp otherMember with ⟨otherBelow, otherWithin, rfl⟩ | ⟨_, rfl⟩
    · cases first with
      | here less =>
        rw [toTree_rank, toTree_rank] at less
        exact .here less
      | there same first =>
        rw [toTree_rank, toTree_rank] at same
        rcases takes.tail with rfl | ⟨_, takes⟩
        · cases first
        rcases otherTakes.tail with rfl | ⟨_, otherTakes⟩
        · cases first
        exact .there same (ih within otherWithin takes otherTakes first)
    · cases first with
      | here less => exact absurd less (Nat.not_lt_zero _)
      | there _ first => cases first
    · cases first with
      | here less =>
        cases takes with
        | literal takes =>
          cases takes
          rw [otherTakes.rank_of_empty] at less
          exact absurd less (Nat.not_lt_zero _)
      | there _ first => cases first
    · cases first with
      | here less => exact absurd less (Nat.not_lt_zero _)
      | there _ first => cases first

end MediaServer

import Mathlib.Tactic.Tauto
import MediaServer.Proofs.Lists.Lookup
import MediaServer.Toml.Document

namespace MediaServer

/-- No table in a value has a key twice. -/
inductive Toml.Distinct : Toml → Prop
  | text (value : String) : Distinct (.text value)
  | integer (value : Int) : Distinct (.integer value)
  | float (value : Float) : Distinct (.float value)
  | boolean (value : Bool) : Distinct (.boolean value)
  | moment : Distinct .moment
  | list {items : List Toml} (each : ∀ item ∈ items, Distinct item) : Distinct (.list items)
  | table {members : List (String × Toml)} (keys : (members.map (·.1)).Nodup)
      (each : ∀ member ∈ members, Distinct member.2) : Distinct (.table members)

/-- No table of an unfinished document has a key twice. -/
def Toml.Entries.Distinct (entries : Toml.Entries) : Prop :=
  (Toml.table (Toml.finishMembers entries)).Distinct

/-- A reader makes only values in which no table has a key twice. -/
def Toml.MakesDistinct (read : List Char → Option (Toml × List Char)) : Prop :=
  ∀ {chars value rest}, read chars = some (value, rest) → value.Distinct

section Table

variable {members : List (String × Toml)} {name : String} {value : Toml}

theorem Toml.table_distinct_iff : (Toml.table members).Distinct ↔
    (members.map (·.1)).Nodup ∧ ∀ member ∈ members, member.2.Distinct := by
  constructor
  · rintro (_ | _ | _ | _ | _ | _ | ⟨keys, each⟩)
    exact ⟨keys, each⟩
  · exact fun ⟨keys, each⟩ => .table keys each

theorem Toml.table_cons_distinct_iff : (Toml.table ((name, value) :: members)).Distinct ↔
    value.Distinct ∧ members.lookup name = none ∧ (Toml.table members).Distinct := by
  rw [table_distinct_iff, table_distinct_iff, List.map_cons, List.nodup_cons, List.forall_mem_cons,
    lookup_eq_none_iff_notMem]
  tauto

end Table

section Entries

variable {entries : Toml.Entries} {key : String} {entry : Toml.Entry} {value : Toml}
  {origin : TableOrigin} {members latest : Toml.Entries} {earlier : List Toml.Entries}

theorem Toml.finishMembers_eq_map (entries : Toml.Entries) :
    Toml.finishMembers entries = entries.map fun (key, entry) => (key, entry.finish) := by
  induction entries with
  | nil => rfl
  | cons entry entries ih =>
    obtain ⟨key, entry⟩ := entry
    rw [Toml.finishMembers, ih, List.map_cons]

theorem Toml.mem_finishElements {later : List Toml} {item : Toml} :
    item ∈ Toml.finishElements earlier later ↔
      item ∈ later ∨ ∃ members ∈ earlier, item = .table (Toml.finishMembers members) := by
  induction earlier generalizing later with
  | nil => simp [Toml.finishElements]
  | cons members earlier ih =>
    rw [Toml.finishElements, ih, List.mem_cons]
    simp only [List.mem_cons, exists_eq_or_imp]
    exact or_assoc.trans or_left_comm

theorem Toml.Entries.distinct_iff : entries.Distinct ↔
    (entries.map (·.1)).Nodup ∧ ∀ entry ∈ entries, entry.2.finish.Distinct := by
  rw [Entries.Distinct, Toml.finishMembers_eq_map, Toml.table_distinct_iff, List.map_map, List.forall_mem_map]
  rfl

theorem Toml.Entry.table_distinct_iff : (Toml.Entry.table origin members).finish.Distinct ↔
    Toml.Entries.Distinct members := by
  rw [Toml.Entry.finish, Toml.Entries.Distinct]

theorem Toml.Entry.tables_distinct_iff : (Toml.Entry.tables latest earlier).finish.Distinct ↔
    Toml.Entries.Distinct latest ∧ ∀ members ∈ earlier, Toml.Entries.Distinct members := by
  rw [Toml.Entry.finish]
  constructor
  · rintro (_ | _ | _ | _ | _ | each)
    exact ⟨each _ (Toml.mem_finishElements.mpr (Or.inl (List.mem_singleton_self _))),
      fun members member => each _ (Toml.mem_finishElements.mpr (Or.inr ⟨members, member, rfl⟩))⟩
  · rintro ⟨last, before⟩
    refine .list fun item member => ?_
    rcases Toml.mem_finishElements.mp member with same | ⟨members, inside, rfl⟩
    · rw [List.mem_singleton.mp same]
      exact last
    · exact before members inside

theorem Toml.Entries.Distinct.nil : Toml.Entries.Distinct [] :=
  .table List.nodup_nil (by simp [Toml.finishMembers])

theorem Toml.Entries.Distinct.of_lookup (distinct : entries.Distinct) (found : entries.lookup key = some entry) :
    entry.finish.Distinct :=
  (distinct_iff.mp distinct).2 (key, entry) (mem_of_lookup found)

/-- A new key may stand behind the others. -/
theorem Toml.Entries.Distinct.append (distinct : entries.Distinct) (absent : entries.lookup key = none)
    (fits : entry.finish.Distinct) : Toml.Entries.Distinct (entries ++ [(key, entry)]) := by
  obtain ⟨keys, each⟩ := distinct_iff.mp distinct
  rw [distinct_iff, List.map_append, List.nodup_append]
  refine ⟨⟨keys, by simp, ?_⟩, ?_⟩
  · rintro old there new (same : new ∈ [key]) rfl
    obtain rfl := List.mem_singleton.mp same
    exact lookup_eq_none_iff_notMem.mp absent there
  · rw [List.forall_mem_append, List.forall_mem_singleton]
    exact ⟨each, fits⟩

/-- The entry of a key that is there may be another. -/
theorem Toml.Entries.Distinct.set (distinct : entries.Distinct) (key : String) (fits : entry.finish.Distinct) :
    (Toml.Entries.set entries key entry).Distinct := by
  obtain ⟨keys, each⟩ := distinct_iff.mp distinct
  rw [distinct_iff]
  constructor
  · have same : (Toml.Entries.set entries key entry).map (·.1) = entries.map (·.1) := by
      rw [Toml.Entries.set, List.map_map]
      refine List.map_congr_left fun old _ => ?_
      dsimp only [Function.comp]
      split <;> rfl
    rwa [same]
  · intro member inside
    obtain ⟨old, found, rfl⟩ := List.mem_map.mp inside
    dsimp only
    split
    · exact fits
    · exact each old found

theorem Toml.Entries.Distinct.filter (distinct : entries.Distinct) (keep : String × Toml.Entry → Bool) :
    Toml.Entries.Distinct (entries.filter keep) := by
  obtain ⟨keys, each⟩ := distinct_iff.mp distinct
  exact distinct_iff.mpr ⟨keys.sublist (List.filter_sublist.map _),
    fun entry member => each entry (List.mem_filter.mp member).1⟩

/-- A value that is added gets a key of its own. -/
theorem Toml.Entries.Distinct.add (distinct : entries.Distinct) (fits : value.Distinct) {path : List String}
    {later : Toml.Entries} (added : Toml.Entries.add key value path entries = some later) : later.Distinct := by
  induction path generalizing entries later with
  | nil =>
    rw [Toml.Entries.add] at added
    split at added
    · cases added
    · rename_i unknown
      obtain rfl := Option.some.inj added
      exact distinct.append (Option.not_isSome_iff_eq_none.mp unknown) fits
  | cons part path ih =>
    rw [Toml.Entries.add] at added
    split at added
    · rename_i absent
      obtain ⟨inner, made, rfl⟩ := Option.map_eq_some_iff.mp added
      exact distinct.append absent (Entry.table_distinct_iff.mpr (ih .nil made))
    · cases added
    · rename_i origin inner found
      split at added
      · cases added
      · obtain ⟨grown, made, rfl⟩ := Option.map_eq_some_iff.mp added
        have own := Entry.table_distinct_iff.mp (distinct.of_lookup found)
        exact distinct.set part (Entry.table_distinct_iff.mpr (ih own made))
    · rename_i latest earlier found
      split at added
      · cases added
      · obtain ⟨grown, made, rfl⟩ := Option.map_eq_some_iff.mp added
        have own := Entry.tables_distinct_iff.mp (distinct.of_lookup found)
        exact distinct.set part (Entry.tables_distinct_iff.mpr ⟨ih own.1 made, own.2⟩)

/-- What a change keeps in one table, it keeps in the table that a path leads to. -/
theorem Toml.Entries.Distinct.within {change : Toml.Entries → Option Toml.Entries}
    (kept : ∀ {entries later}, entries.Distinct → change entries = some later → later.Distinct)
    (distinct : entries.Distinct) {path : List String} {later : Toml.Entries}
    (changed : Toml.Entries.within change path entries = some later) : later.Distinct := by
  induction path generalizing entries later with
  | nil => exact kept distinct changed
  | cons part path ih =>
    rw [Toml.Entries.within] at changed
    split at changed
    · rename_i absent
      obtain ⟨inner, made, rfl⟩ := Option.map_eq_some_iff.mp changed
      exact distinct.append absent (Entry.table_distinct_iff.mpr (ih .nil made))
    · cases changed
    · rename_i origin inner found
      obtain ⟨grown, made, rfl⟩ := Option.map_eq_some_iff.mp changed
      have own := Entry.table_distinct_iff.mp (distinct.of_lookup found)
      exact distinct.set part (Entry.table_distinct_iff.mpr (ih own made))
    · rename_i latest earlier found
      obtain ⟨grown, made, rfl⟩ := Option.map_eq_some_iff.mp changed
      have own := Entry.tables_distinct_iff.mp (distinct.of_lookup found)
      exact distinct.set part (Entry.tables_distinct_iff.mpr ⟨ih own.1 made, own.2⟩)

theorem Toml.Entries.Distinct.openTable (distinct : entries.Distinct) {later : Toml.Entries}
    (opened : Toml.Entries.openTable key entries = some later) : later.Distinct := by
  rw [Toml.Entries.openTable] at opened
  split at opened
  · rename_i absent
    obtain rfl := Option.some.inj opened
    exact distinct.append absent (Entry.table_distinct_iff.mpr .nil)
  · rename_i inner found
    obtain rfl := Option.some.inj opened
    have absent : List.lookup key (entries.filter (·.1 != key)) = none := by
      rw [lookup_filter_key, if_pos (beq_self_eq_true key)]
    have own := Entry.table_distinct_iff.mp (distinct.of_lookup found)
    exact (distinct.filter _).append absent (Entry.table_distinct_iff.mpr own)
  · cases opened

theorem Toml.Entries.Distinct.openElement (distinct : entries.Distinct) {later : Toml.Entries}
    (opened : Toml.Entries.openElement key entries = some later) : later.Distinct := by
  rw [Toml.Entries.openElement] at opened
  split at opened
  · rename_i absent
    obtain rfl := Option.some.inj opened
    exact distinct.append absent (Entry.tables_distinct_iff.mpr ⟨.nil, by simp⟩)
  · rename_i latest earlier found
    obtain rfl := Option.some.inj opened
    have own := Entry.tables_distinct_iff.mp (distinct.of_lookup found)
    exact distinct.set key
      (Entry.tables_distinct_iff.mpr ⟨.nil, List.forall_mem_cons.mpr ⟨own.1, own.2⟩⟩)
  · cases opened

/-- The value of a statement, if it has one, has no key twice. -/
def Toml.Statement.Distinct : Toml.Statement → Prop
  | .pair _ _ value => value.Distinct
  | _ => True

/-- Statements that are taken keep keys apart. -/
theorem Toml.Entries.Distinct.run {statements : List Toml.Statement} {opened : List String}
    (each : ∀ statement ∈ statements, statement.Distinct) (distinct : entries.Distinct) {later : Toml.Entries}
    (taken : Toml.Entries.run statements opened entries = some later) : later.Distinct := by
  induction statements generalizing opened entries with
  | nil =>
    obtain rfl := Option.some.inj taken
    exact distinct
  | cons statement statements ih =>
    obtain ⟨own, others⟩ := List.forall_mem_cons.mp each
    cases statement with
    | pair path name value =>
      obtain ⟨grown, made, rest⟩ := Option.bind_eq_some_iff.mp taken
      exact ih others (distinct.within (fun before => before.add own) made) rest
    | table path name =>
      obtain ⟨grown, made, rest⟩ := Option.bind_eq_some_iff.mp taken
      exact ih others (distinct.within (fun before => before.openTable) made) rest
    | element path name =>
      obtain ⟨grown, made, rest⟩ := Option.bind_eq_some_iff.mp taken
      exact ih others (distinct.within (fun before => before.openElement) made) rest

end Entries

section Simple

theorem Toml.readBased_distinct (base : Nat) (isOne : Char → Bool) :
    Toml.MakesDistinct (Toml.readBased base isOne) := by
  intro chars value rest done
  simp only [Toml.readBased, Option.bind_eq_bind, Option.bind_eq_some_iff] at done
  obtain ⟨_, _, _, _, size, _, same⟩ := done
  cases same
  exact .integer size

theorem Toml.readDecimal_distinct (negative : Bool) : Toml.MakesDistinct (Toml.readDecimal negative) := by
  intro chars value rest done
  simp only [Toml.readDecimal, Option.bind_eq_bind, Option.bind_eq_some_iff] at done
  obtain ⟨_, _, _, _, _, _, done⟩ := done
  split at done
  · obtain ⟨number, finite, same⟩ := Option.bind_eq_some_iff.mp done
    cases same
    rw [Toml.float?] at finite
    split at finite
    · cases finite
    · cases finite
      exact .float _
  · split at done
    · obtain ⟨size, _, same⟩ := Option.bind_eq_some_iff.mp done
      cases same
      exact .integer _
    · obtain ⟨size, _, same⟩ := Option.bind_eq_some_iff.mp done
      cases same
      exact .integer _

theorem Toml.readNumber_distinct : Toml.MakesDistinct Toml.readNumber := by
  intro chars value rest done
  unfold Toml.readNumber at done
  split at done
  · exact Toml.readBased_distinct _ _ done
  · exact Toml.readBased_distinct _ _ done
  · exact Toml.readBased_distinct _ _ done
  · rcases Toml.readSign chars with ⟨negative, unsigned⟩
    dsimp only at done
    split at done
    · cases done
      exact .float _
    · cases done
      exact .float _
    · exact Toml.readDecimal_distinct _ done

theorem Toml.readMoment_distinct : Toml.MakesDistinct Toml.readMoment := by
  intro chars value rest done
  rw [Toml.readMoment] at done
  split at done
  · obtain ⟨_, _, same⟩ := Option.map_eq_some_iff.mp done
    cases same
    exact .moment
  · cases done
    exact .moment

theorem Toml.readSimple_distinct : Toml.MakesDistinct Toml.readSimple := by
  intro chars value rest done
  unfold Toml.readSimple at done
  split at done
  · cases done
    exact .boolean true
  · cases done
    exact .boolean false
  · split at done
    · cases done
      exact .text _
    · rcases Option.or_eq_some_iff.mp done with moment | ⟨_, number⟩
      · exact Toml.readMoment_distinct moment
      · exact Toml.readNumber_distinct number

end Simple

section Readers

variable {read : List Char → Option (Toml × List Char)}

theorem Toml.readItems_distinct (made : Toml.MakesDistinct read) {bound chars rest : List Char}
    {items : List Toml} (done : Toml.readItems read bound chars = some (items, rest)) :
    ∀ item ∈ items, item.Distinct := by
  induction bound generalizing chars items rest with
  | nil => cases done
  | cons _ bound ih =>
    rw [Toml.readItems] at done
    split at done
    · cases done
      exact List.forall_mem_nil _
    · obtain ⟨⟨item, after⟩, first, done⟩ := Option.bind_eq_some_iff.mp done
      dsimp only at done
      split at done
      · obtain ⟨⟨others, last⟩, more, same⟩ := Option.map_eq_some_iff.mp done
        cases same
        exact List.forall_mem_cons.mpr ⟨made first, ih more⟩
      · cases done
        exact List.forall_mem_singleton.mpr (made first)
      · cases done

theorem Toml.readMembers_distinct (made : Toml.MakesDistinct read) {bound chars rest : List Char}
    {entries : Toml.Entries} (distinct : entries.Distinct) {value : Toml}
    (done : Toml.readMembers read bound entries chars = some (value, rest)) : value.Distinct := by
  induction bound generalizing entries chars rest with
  | nil => cases done
  | cons _ bound ih =>
    rw [Toml.readMembers] at done
    obtain ⟨⟨path, name, after⟩, _, done⟩ := Option.bind_eq_some_iff.mp done
    dsimp only at done
    split at done
    · obtain ⟨⟨member, later⟩, first, done⟩ := Option.bind_eq_some_iff.mp done
      obtain ⟨grown, added, done⟩ := Option.bind_eq_some_iff.mp done
      have kept := distinct.add (made first) added
      dsimp only at done
      split at done
      · exact ih kept done
      · cases done
        exact kept
      · cases done
    · cases done

theorem Toml.readValue_distinct (depth : Nat) : Toml.MakesDistinct (Toml.readValue depth) := by
  induction depth with
  | zero => exact Toml.readSimple_distinct
  | succ depth ih =>
    intro chars value rest done
    unfold Toml.readValue at done
    split at done
    · obtain ⟨⟨items, after⟩, read, same⟩ := Option.map_eq_some_iff.mp done
      cases same
      exact .list (Toml.readItems_distinct ih read)
    · split at done
      · cases done
        exact .table List.nodup_nil (List.forall_mem_nil _)
      · exact Toml.readMembers_distinct ih .nil done
    · exact Toml.readSimple_distinct done

theorem Toml.readStatement_distinct {chars rest : List Char} {statement : Toml.Statement}
    (done : Toml.readStatement chars = some (statement, rest)) : statement.Distinct := by
  unfold Toml.readStatement at done
  split at done
  · obtain ⟨_, _, same⟩ := Option.map_eq_some_iff.mp done
    cases same
    trivial
  · obtain ⟨_, _, same⟩ := Option.map_eq_some_iff.mp done
    cases same
    trivial
  · obtain ⟨⟨path, name, after⟩, _, done⟩ := Option.bind_eq_some_iff.mp done
    dsimp only at done
    split at done
    · obtain ⟨⟨value, later⟩, read, done⟩ := Option.bind_eq_some_iff.mp done
      obtain ⟨_, _, same⟩ := Option.bind_eq_some_iff.mp done
      cases same
      exact Toml.readValue_distinct _ read
    · cases done

theorem Toml.readStatements_distinct {fuel : Nat} {chars : List Char} {statements : List Toml.Statement}
    (done : Toml.readStatements fuel chars = some statements) :
    ∀ statement ∈ statements, statement.Distinct := by
  induction fuel generalizing chars statements with
  | zero => cases done
  | succ fuel ih =>
    rw [Toml.readStatements] at done
    split at done
    · cases done
      exact List.forall_mem_nil _
    · split at done
      · cases done
        exact List.forall_mem_nil _
      · cases done
    · obtain ⟨⟨statement, rest⟩, read, done⟩ := Option.bind_eq_some_iff.mp done
      obtain ⟨others, more, same⟩ := Option.bind_eq_some_iff.mp done
      cases same
      exact List.forall_mem_cons.mpr ⟨Toml.readStatement_distinct read, ih more⟩

/-- In a document that is read no table has a key twice, at any depth. -/
theorem Toml.read?_distinct {text : String} {members : List (String × Toml)}
    (read : Toml.read? text = some members) : (Toml.table members).Distinct := by
  obtain ⟨statements, parsed, done⟩ := Option.bind_eq_some_iff.mp read
  obtain ⟨entries, taken, rfl⟩ := Option.map_eq_some_iff.mp done
  exact Toml.Entries.Distinct.nil.run (Toml.readStatements_distinct parsed) taken

end Readers

end MediaServer

import Mathlib.Data.List.Nodup
import MediaServer.Proofs.Toml.Keys
import MediaServer.Settings.Overlay

namespace MediaServer

/-- A setting: the path of keys under which a document gives it, how a value of it is read, and where it is
kept. -/
structure Setting (σ : Type) where
  path : List String
  Value : Type
  read : Toml → Option Value
  view : σ → Value

/-- What a value holds under a path of keys. -/
def Toml.at? : List String → Toml → Option Toml
  | [], value => some value
  | name :: path, .table members => (members.lookup name).bind (Toml.at? path)
  | _, _ => none

/-- What is given for the setting, if anything, is a value of it. -/
def Setting.Accepts {σ : Type} (setting : Setting σ) (document : Toml) : Prop :=
  ∀ value, document.at? setting.path = some value → ∃ own, setting.read value = some own

/-- The setting is what is given for it, or what it was at the start if nothing is given. -/
def Setting.Holds {σ : Type} (setting : Setting σ) (document : Toml) (start state : σ) : Prop :=
  match document.at? setting.path with
  | none => setting.view state = setting.view start
  | some value => setting.read value = some (setting.view state)

/-- The setting of a part, as one of the whole. -/
def Setting.within {σ τ : Type} (name : String) (part : τ → σ) (setting : Setting σ) : Setting τ :=
  ⟨name :: setting.path, setting.Value, setting.read, setting.view ∘ part⟩

/-- A value is read as it should be, with the reason why it is none of its kind left out. -/
def Toml.Reads {α : Type} (read : Toml → Except TypeFault α) (read? : Toml → Option α) : Prop :=
  ∀ value : Toml, value.Distinct → (read value).toOption = read? value

/-- Whatever is read for the field, what is kept at another place stays as it is. -/
def Field.Keeps {σ α : Type} (field : Field σ) (view : σ → α) : Prop :=
  ∀ value change, field.change value = .ok change → ∀ state, view (change state) = view state

/-- The field puts what is given for the setting where it is kept. -/
structure Field.Realizes {σ : Type} (field : Field σ) (setting : Setting σ) : Prop where
  path : setting.path = [field.name]
  refused : ∀ {value : Toml}, value.Distinct →
    ((∃ change, field.change value = .ok change) ↔ ∃ own, setting.read value = some own)
  put : ∀ {value : Toml} {change}, value.Distinct → field.change value = .ok change →
    ∀ state, setting.read value = some (setting.view (change state))

/-- The fields of a section are its settings, each kept at a place of its own. -/
structure Field.Schema {σ : Type} (fields : List (Field σ)) (settings : List (Setting σ)) : Prop where
  names : (fields.map (·.name)).Nodup
  realized : List.Forall₂ Field.Realizes fields settings
  apart : ∀ field ∈ fields, ∀ setting ∈ settings, setting.path ≠ [field.name] → field.Keeps setting.view

section Fields

variable {σ α : Type} {fields : List (Field σ)} {settings : List (Setting σ)} {start state : σ}
  {members : List (String × Toml)} {name : String} {value : Toml}

theorem Toml.at?_singleton (name : String) : (Toml.table members).at? [name] = members.lookup name := by
  simp [Toml.at?]

theorem Setting.holds_iff {setting : Setting σ} (path : setting.path = [name]) :
    setting.Holds (.table members) start state ↔
      (members.lookup name = none → setting.view state = setting.view start) ∧
        ∀ value, members.lookup name = some value → setting.read value = some (setting.view state) := by
  rw [Holds, path, Toml.at?_singleton]
  cases members.lookup name <;> simp

/-- What is given for a setting is all that it depends on. -/
theorem Setting.Holds.agree {setting : Setting σ} {document other : Toml} {later : σ}
    (holds : setting.Holds document start state) (also : setting.Holds other start later)
    (same : other.at? setting.path = document.at? setting.path) : setting.view later = setting.view state := by
  rw [Setting.Holds, same] at also
  rw [Setting.Holds] at holds
  rcases given : document.at? setting.path with _ | value
  · rw [given] at holds also
    exact also.trans holds.symm
  · rw [given] at holds also
    exact Option.some.inj (also.symm.trans holds)

theorem Field.of_name (read : Toml → Except TypeFault α) (put : α → σ → σ) :
    (Field.of name read put).name = name := by
  rw [Field.of]

theorem Field.of_change_eq_ok_iff {read : Toml → Except TypeFault α} {put : α → σ → σ} {change : σ → σ} :
    (Field.of name read put).change value = .ok change ↔ ∃ own, read value = .ok own ∧ put own = change := by
  simp only [Field.of]
  cases read value <;> simp [Except.map]

theorem Field.of_keeps_iff {β : Type} {read : Toml → Except TypeFault α} {put : α → σ → σ} {view : σ → β} :
    (Field.of name read put).Keeps view ↔
      ∀ value own, read value = .ok own → ∀ state, view (put own state) = view state := by
  simp only [Keeps, of_change_eq_ok_iff]
  constructor
  · exact fun keeps value own read => keeps value (put own) ⟨own, read, rfl⟩
  · rintro keeps value _ ⟨own, read, rfl⟩
    exact keeps value own read

theorem Field.Realizes.of {read : Toml → Except TypeFault α} {read? : Toml → Option α} {put : α → σ → σ}
    {view : σ → α} (reads : Toml.Reads read read?) (own : ∀ own state, view (put own state) = own) :
    (Field.of name read put).Realizes ⟨[name], α, read?, view⟩ where
  path := rfl
  refused {value} distinct := by
    simp only [of_change_eq_ok_iff, ← reads value distinct]
    cases read value <;> simp [Except.toOption]
  put {value change} distinct done state := by
    obtain ⟨given, made, rfl⟩ := of_change_eq_ok_iff.mp done
    dsimp only
    rw [own, ← reads value distinct, made]
    rfl

theorem exists_of_forall₂ {β : Type} {γ : Type 1} {related : β → γ → Prop} {firsts : List β} {seconds : List γ}
    (all : List.Forall₂ related firsts seconds) :
    (∀ first ∈ firsts, ∃ second ∈ seconds, related first second) ∧
      ∀ second ∈ seconds, ∃ first ∈ firsts, related first second := by
  induction all with
  | nil => exact ⟨List.forall_mem_nil _, List.forall_mem_nil _⟩
  | @cons first second firsts seconds own _ ih =>
    refine ⟨List.forall_mem_cons.mpr ⟨⟨second, List.mem_cons_self .., own⟩, fun other member => ?_⟩,
      List.forall_mem_cons.mpr ⟨⟨first, List.mem_cons_self .., own⟩, fun other member => ?_⟩⟩
    · obtain ⟨found, inside, its⟩ := ih.1 other member
      exact ⟨found, List.mem_cons_of_mem _ inside, its⟩
    · obtain ⟨found, inside, its⟩ := ih.2 other member
      exact ⟨found, List.mem_cons_of_mem _ inside, its⟩

theorem Field.find?_eq_some_iff (names : (fields.map (·.name)).Nodup) {field : Field σ} :
    fields.find? (·.name == name) = some field ↔ field ∈ fields ∧ field.name = name := by
  constructor
  · intro found
    exact ⟨List.mem_of_find?_eq_some found, by simpa using List.find?_some found⟩
  · rintro ⟨member, rfl⟩
    obtain ⟨other, found⟩ : ∃ other, fields.find? (·.name == field.name) = some other := by
      rw [← Option.isSome_iff_exists, List.find?_isSome]
      exact ⟨field, member, beq_self_eq_true _⟩
    have same : other.name = field.name := by simpa using List.find?_some found
    rw [found, List.inj_on_of_nodup_map names (List.mem_of_find?_eq_some found) member same]

theorem Field.takeAll_cons (member : String × Toml) :
    Field.takeAll fields start (member :: members) =
      (Field.take fields start member).bind fun state => Field.takeAll fields state members :=
  rfl

/-- A member is taken unless a field is named for it that refuses its value. -/
theorem Field.take_ok_iff {member : String × Toml} : (∃ later, Field.take fields state member = .ok later) ↔
    ∀ field, fields.find? (·.name == member.1) = some field → ∃ change, field.change member.2 = .ok change := by
  rw [take]
  rcases found : fields.find? (·.name == member.1) with _ | field
  · simp [found]
  · rcases made : field.change member.2 with fault | change <;> simp [found, made, Except.map]

theorem Field.takeAll_ok_iff : (∃ later, Field.takeAll fields start members = .ok later) ↔
    ∀ member ∈ members, ∀ field, fields.find? (·.name == member.1) = some field →
      ∃ change, field.change member.2 = .ok change := by
  induction members generalizing start with
  | nil => simp [takeAll, pure, Except.pure]
  | cons member members ih =>
    rw [List.forall_mem_cons, takeAll_cons, ← @take_ok_iff _ fields start member]
    rcases Field.take fields start member with fault | later
    · simp [Except.bind]
    · simp only [Except.bind, Except.ok.injEq, exists_eq', true_and]
      exact ih

section Schema

variable (schema : Field.Schema fields settings)

include schema

/-- A member of another name leaves the setting as it is, and its own member sets it. -/
theorem Field.Schema.take_view {setting : Setting σ} (member : setting ∈ settings) {later : σ}
    (distinct : value.Distinct) (taken : Field.take fields state (name, value) = .ok later) :
    (setting.path = [name] → setting.read value = some (setting.view later)) ∧
      (setting.path ≠ [name] → setting.view later = setting.view state) := by
  obtain ⟨own, inside, realizes⟩ := (exists_of_forall₂ schema.realized).2 setting member
  rw [take] at taken
  rcases found : fields.find? (·.name == name) with _ | field
  · rw [found] at taken
    cases taken
    refine ⟨fun here => ?_, fun _ => rfl⟩
    rw [realizes.path, List.singleton_inj] at here
    simpa [here] using List.find?_eq_none.mp found own inside
  · simp only [found] at taken
    obtain ⟨among, rfl⟩ := (find?_eq_some_iff schema.names).mp found
    rcases made : field.change value with fault | change
    · rw [made] at taken
      cases taken
    · rw [made] at taken
      cases taken
      refine ⟨fun here => ?_, fun elsewhere => ?_⟩
      · rw [realizes.path, List.singleton_inj] at here
        obtain rfl : own = field := List.inj_on_of_nodup_map schema.names inside among here
        exact realizes.put distinct made state
      · exact schema.apart field among setting member elsewhere value change made state

/-- Every setting is what is given for it, whatever stands before or behind. -/
theorem Field.Schema.takeAll_holds {later : σ} (distinct : (Toml.table members).Distinct)
    (done : Field.takeAll fields start members = .ok later) :
    ∀ setting ∈ settings, setting.Holds (.table members) start later := by
  intro setting member
  obtain ⟨own, -, realizes⟩ := (exists_of_forall₂ schema.realized).2 setting member
  rw [Setting.holds_iff realizes.path]
  induction members generalizing start with
  | nil =>
    cases done
    exact ⟨fun _ => rfl, nofun⟩
  | cons entry members ih =>
    obtain ⟨name, value⟩ := entry
    obtain ⟨fits, new, others⟩ := Toml.table_cons_distinct_iff.mp distinct
    rw [takeAll_cons] at done
    rcases taken : Field.take fields start (name, value) with fault | middle
    · rw [taken] at done
      cases done
    · rw [taken] at done
      have rest := ih others done
      obtain ⟨sets, keeps⟩ := schema.take_view member fits taken
      rw [realizes.path] at sets keeps
      rw [lookup_cons_if]
      by_cases here : own.name = name
      · subst here
        rw [if_pos (beq_self_eq_true _)]
        refine ⟨nofun, ?_⟩
        rintro _ ⟨⟩
        rw [rest.1 new]
        exact sets rfl
      · rw [if_neg (by simpa using here), ← keeps (by simpa using here)]
        exact rest

theorem Field.Schema.takeAll_ok_iff (distinct : (Toml.table members).Distinct) :
    (∃ later, Field.takeAll fields start members = .ok later) ↔
      ∀ setting ∈ settings, setting.Accepts (.table members) := by
  obtain ⟨keys, each⟩ := Toml.table_distinct_iff.mp distinct
  obtain ⟨fieldSetting, settingField⟩ := exists_of_forall₂ schema.realized
  rw [Field.takeAll_ok_iff]
  constructor
  · intro taken setting member value given
    obtain ⟨field, among, realizes⟩ := settingField setting member
    rw [realizes.path, Toml.at?_singleton] at given
    have inside := mem_of_lookup given
    rw [← realizes.refused (each _ inside)]
    exact taken _ inside field ((find?_eq_some_iff schema.names).mpr ⟨among, rfl⟩)
  · rintro accepts ⟨name, value⟩ inside field found
    obtain ⟨among, rfl⟩ := (find?_eq_some_iff schema.names).mp found
    obtain ⟨setting, member, realizes⟩ := fieldSetting field among
    rw [realizes.refused (each _ inside)]
    refine accepts setting member value ?_
    rw [realizes.path, Toml.at?_singleton]
    exact lookup_of_mem keys inside

end Schema

end Fields

end MediaServer

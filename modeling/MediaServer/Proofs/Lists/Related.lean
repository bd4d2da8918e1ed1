import Mathlib.Data.List.Forall2

namespace MediaServer

section Lists

variable {α β : Type} {relation : α → β → Prop} {xs : List α} {ys : List β}

theorem forall₂_getElem? (related : List.Forall₂ relation xs ys) (place : Nat) :
    Option.Rel relation xs[place]? ys[place]? := by
  induction related generalizing place with
  | nil => exact .none
  | cons here _ ih =>
    cases place with
    | zero => exact .some here
    | succ place => exact ih place

theorem forall₂_set (related : List.Forall₂ relation xs ys) (place : Nat) {x : α} {y : β}
    (new : relation x y) : List.Forall₂ relation (xs.set place x) (ys.set place y) := by
  induction related generalizing place with
  | nil => exact .nil
  | cons here others ih =>
    cases place with
    | zero => exact .cons new others
    | succ place => exact .cons here (ih place)

/-- Entries of one name with values that stand in the relation. -/
def SameName (relation : α → β → Prop) (entry : String × α) (other : String × β) : Prop :=
  entry.1 = other.1 ∧ relation entry.2 other.2

theorem lookup_related {entries : List (String × α)} {others : List (String × β)}
    (related : List.Forall₂ (SameName relation) entries others) (name : String) :
    Option.Rel relation (entries.lookup name) (others.lookup name) := by
  induction related with
  | nil => exact .none
  | @cons entry other _ _ here _ ih =>
    obtain ⟨own, value⟩ := entry
    obtain ⟨otherOwn, otherValue⟩ := other
    obtain ⟨rfl, values⟩ := here
    rw [List.lookup_cons, List.lookup_cons]
    cases name == own with
    | true => exact .some values
    | false => exact ih

end Lists

/-- Both succeed, with results that stand in the relation, or both fail for the same reason. -/
inductive RelatedResults {ε α β : Type} (relation : α → β → Prop) : Except ε α → Except ε β → Prop
  | ok {result : α} {other : β} : relation result other → RelatedResults relation (.ok result) (.ok other)
  | error (fault : ε) : RelatedResults relation (.error fault) (.error fault)

/-- Folds over one list are related if each of their steps keeps what they start with. -/
theorem foldlM_related {ε σ τ α : Type} {relation : σ → τ → Prop} {step : σ → α → Except ε σ}
    {otherStep : τ → α → Except ε τ}
    (kept : ∀ state other x, relation state other → RelatedResults relation (step state x) (otherStep other x))
    {state : σ} {other : τ} (start : relation state other) (xs : List α) :
    RelatedResults relation (xs.foldlM step state) (xs.foldlM otherStep other) := by
  induction xs generalizing state other with
  | nil => exact .ok start
  | cons x xs ih =>
    rw [List.foldlM_cons, List.foldlM_cons]
    have first := kept state other x start
    generalize step state x = next at first
    generalize otherStep other x = otherNext at first
    cases first with
    | ok related => exact ih related
    | error fault => exact .error fault

end MediaServer

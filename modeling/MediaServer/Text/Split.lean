namespace MediaServer

/-- The pieces between the separators: always one more than there are separators. -/
def pieces {α : Type} [BEq α] (separator : α) : List α → List (List α)
  | [] => [[]]
  | x :: rest =>
    if x == separator then [] :: pieces separator rest
    else
      match pieces separator rest with
      | [] => [[x]]
      | first :: others => (x :: first) :: others

/-- What stands before the first separator, and what follows it if there is one. -/
def cutAt {α : Type} [BEq α] (separator : α) : List α → List α × Option (List α)
  | [] => ([], none)
  | x :: rest =>
    if x == separator then ([], some rest)
    else
      let (before, after) := cutAt separator rest
      (x :: before, after)

theorem pieces_ne_nil {α : Type} [BEq α] (separator : α) (xs : List α) :
    pieces separator xs ≠ [] := by
  cases xs with
  | nil => simp [pieces]
  | cons x rest =>
    rw [pieces]
    split
    · simp
    · split <;> simp

end MediaServer

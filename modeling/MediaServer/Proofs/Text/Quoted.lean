import MediaServer.Text.Quoted

namespace MediaServer

/-- One character at a time: a backslash and a quote get a backslash before them. -/
theorem Quoted.escape_cons (c : Char) (text : List Char) :
    escape (c :: text) = (if c = '\\' ∨ c = '"' then ['\\', c] else [c]) ++ escape text := by
  unfold escape replaceChar
  rw [List.flatMap_cons, List.flatMap_append]
  congr 1
  by_cases backslash : c = '\\'
  · subst backslash
    rfl
  · by_cases quote : c = '"'
    · subst quote
      rfl
    · simp [backslash, quote]

/-- What a backslash has, all characters of a text have exactly if those of the escaped text do. -/
theorem Quoted.forall_mem_escape {Has : Char → Prop} (backslash : Has '\\') {text : List Char} :
    (∀ c ∈ escape text, Has c) ↔ ∀ c ∈ text, Has c := by
  induction text with
  | nil => rfl
  | cons c text ih =>
    rw [escape_cons, List.forall_mem_append, ih, List.forall_mem_cons]
    refine and_congr_left fun _ => ?_
    split
    · rw [List.forall_mem_cons, List.forall_mem_singleton]
      exact and_iff_right backslash
    · exact List.forall_mem_singleton

/-- A reader of quoted texts stops at the closing quote, with the text that was escaped. -/
theorem Quoted.read?_escape (text rest : List Char) :
    read? (escape text ++ '"' :: rest) = some (text, rest) := by
  induction text with
  | nil => rfl
  | cons c text ih =>
    rw [escape_cons]
    by_cases special : c = '\\' ∨ c = '"'
    · rw [if_pos special, List.append_assoc, List.cons_append, List.cons_append, List.nil_append,
        Quoted.read?, ih]
      rfl
    · have ⟨noBackslash, noQuote⟩ := not_or.mp special
      rw [if_neg special, List.append_assoc, List.cons_append, List.nil_append, Quoted.read?, ih]
      · rfl
      · exact noQuote
      · rintro rfl
        exact absurd rfl noBackslash
      · rintro _ _ rfl
        exact absurd rfl noBackslash

end MediaServer

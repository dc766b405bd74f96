/-!
Division of a text into lines. A line keeps the end that closes it, so the lines of a text
joined together are the text (`flatten_lines`).
-/

namespace ServiceSyntax.Text

/-- The lines of a sequence; `isEnd` tells the item that closes a line and belongs to it. -/
def lines {α : Type} (isEnd : α → Bool) : List α → List (List α)
  | [] => []
  | x :: xs =>
    if isEnd x then [x] :: lines isEnd xs
    else match lines isEnd xs with
      | [] => [[x]]
      | first :: rest => (x :: first) :: rest

theorem flatten_lines {α : Type} (isEnd : α → Bool) (xs : List α) :
    (lines isEnd xs).flatten = xs := by
  induction xs with
  | nil => rfl
  | cons x xs ih =>
    rw [lines]
    split
    · simp [ih]
    · split <;> simp_all

theorem ne_nil_of_mem_lines {α : Type} {isEnd : α → Bool} {xs line : List α}
    (h : line ∈ lines isEnd xs) : line ≠ [] := by
  induction xs generalizing line with
  | nil => simp [lines] at h
  | cons x xs ih =>
    rw [lines] at h
    split at h
    · rcases List.mem_cons.1 h with rfl | h
      · simp
      · exact ih h
    · split at h
      · simp_all
      · rename_i first rest heq
        rcases List.mem_cons.1 h with rfl | h
        · simp
        · exact ih (heq ▸ List.mem_cons_of_mem _ h)

/-- Every carriage return, alone or before a line feed, becomes a line feed. -/
def unifyLineEnds : List Char → List Char
  | [] => []
  | '\r' :: '\n' :: rest => '\n' :: unifyLineEnds rest
  | '\r' :: rest => '\n' :: unifyLineEnds rest
  | c :: rest => c :: unifyLineEnds rest

end ServiceSyntax.Text

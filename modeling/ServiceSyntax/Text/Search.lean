/-!
Where things occur in a sequence: the first and the last place of an item, and whether a run of
items occurs at all.
-/

namespace ServiceSyntax.Text

/-- The index of the first occurrence. -/
def firstIndex? {α : Type} [BEq α] (item : α) (items : List α) : Option Nat :=
  items.findIdx? (· == item)

/-- The index of the last occurrence. -/
def lastIndex? {α : Type} [BEq α] (item : α) (items : List α) : Option Nat :=
  (items.reverse.findIdx? (· == item)).map fun index => items.length - 1 - index

/-- The run occurs in the sequence without interruption. -/
def occursIn {α : Type} [BEq α] (run : List α) : List α → Bool
  | [] => run.isEmpty
  | x :: xs => run.isPrefixOf (x :: xs) || occursIn run xs

/-- The parts between the occurrences of a separator; one more part than occurrences. -/
def fields {α : Type} [BEq α] (separator : α) : List α → List (List α)
  | [] => [[]]
  | x :: xs =>
    if x == separator then [] :: fields separator xs
    else match fields separator xs with
      | [] => [[x]]
      | first :: rest => (x :: first) :: rest

end ServiceSyntax.Text

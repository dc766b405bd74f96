import Mathlib.Order.Bounds.Defs
import ServiceSyntax.Diagnostic.EditDistance

/-!
# The least number of edits

An edit inserts, deletes or replaces one character. The distance by recursion on two texts is the
length of a sequence of edits that leads from the one to the other (`edits_distance`), and no such
sequence is shorter, whatever texts it passes through (`distance_le_of_edits`): one edit changes the
distance to any text by one at most. Since edits do not mind the direction in which the texts are
read, the recursion may as well take the last characters, which is what a row is filled by: the rows
hold the distances to every prefix (`rowOf_lastRow`).
-/

namespace ServiceSyntax

namespace EditDistance

/-- One edit of a text: at its front, or behind its first character. -/
inductive Edit : List Char → List Char → Prop
  | insertion (c : Char) (a : List Char) : Edit a (c :: a)
  | deletion (c : Char) (a : List Char) : Edit (c :: a) a
  | substitution (c d : Char) (a : List Char) : Edit (c :: a) (d :: a)
  | behind (c : Char) {a b : List Char} : Edit a b → Edit (c :: a) (c :: b)

/-- A sequence of so many edits leads from the first text to the second one. -/
inductive Edits : Nat → List Char → List Char → Prop
  | refl (a : List Char) : Edits 0 a a
  | step {n : Nat} {a b c : List Char} : Edit a b → Edits n b c → Edits (n + 1) a c

/-- The distance between two texts by recursion on both: of two first characters one is deleted, or
the other one is inserted in front of it, or it is kept or replaced. -/
def distance : List Char → List Char → Nat
  | [], b => b.length
  | _ :: a, [] => distance a [] + 1
  | x :: a, y :: b =>
    min (distance a (y :: b) + 1)
      (min (distance (x :: a) b + 1) (distance a b + if x = y then 0 else 1))
termination_by a b => a.length + b.length

variable {n m : Nat} {a a' b c : List Char}

/-! ## Sequences of edits -/

theorem Edit.symm (h : Edit a b) : Edit b a := by
  induction h with
  | insertion c a => exact .deletion c a
  | deletion c a => exact .insertion c a
  | substitution c d a => exact .substitution d c a
  | behind c _ ih => exact .behind c ih

namespace Edits

theorem behind (x : Char) (h : Edits n a b) : Edits n (x :: a) (x :: b) := by
  induction h with
  | refl a => exact .refl (x :: a)
  | step hedit _ ih => exact .step (.behind x hedit) ih

theorem trans (h : Edits n a b) (h' : Edits m b c) : Edits (n + m) a c := by
  induction h with
  | refl a => rwa [Nat.zero_add]
  | step hedit _ ih =>
    rw [Nat.add_right_comm]
    exact .step hedit (ih h')

theorem symm (h : Edits n a b) : Edits n b a := by
  induction h with
  | refl a => exact .refl a
  | step hedit _ ih => exact ih.trans (.step hedit.symm (.refl _))

/-- The smaller one of two lengths is one of them. -/
theorem least (h : Edits n a b) (h' : Edits m a b) : Edits (min n m) a b := by
  rcases Nat.le_total n m with hle | hle
  · rwa [Nat.min_eq_left hle]
  · rwa [Nat.min_eq_right hle]

end Edits

theorem eq_of_edits_zero (h : Edits 0 a b) : a = b := by
  cases h
  rfl

/-! ## The distance by recursion -/

theorem distance_nil_left (b : List Char) : distance [] b = b.length := by
  rw [distance]

theorem distance_nil_right (x : Char) (a : List Char) :
    distance (x :: a) [] = distance a [] + 1 := by
  rw [distance]

theorem distance_cons_cons (x y : Char) (a b : List Char) :
    distance (x :: a) (y :: b) = min (distance a (y :: b) + 1)
      (min (distance (x :: a) b + 1) (distance a b + if x = y then 0 else 1)) := by
  rw [distance]

theorem distance_self (a : List Char) : distance a a = 0 := by
  induction a with
  | nil => exact distance_nil_left []
  | cons x a ih =>
    rw [distance_cons_cons, ih, if_pos rfl]
    omega

/-! ## The distance is reached -/

theorem edits_nil (b : List Char) : Edits b.length [] b := by
  induction b with
  | nil => exact .refl []
  | cons y b ih => exact .step (.insertion y []) (ih.behind y)

/-- There is a sequence of as many edits as the distance says. -/
theorem edits_distance (a b : List Char) : Edits (distance a b) a b := by
  induction a generalizing b with
  | nil =>
    rw [distance_nil_left]
    exact edits_nil b
  | cons x a ih =>
    induction b with
    | nil =>
      rw [distance_nil_right]
      exact .step (.deletion x a) (ih [])
    | cons y b ihb =>
      have hdeleted : Edits (distance a (y :: b) + 1) (x :: a) (y :: b) :=
        .step (.deletion x a) (ih (y :: b))
      have hinserted : Edits (distance (x :: a) b + 1) (x :: a) (y :: b) :=
        .step (.insertion y (x :: a)) (ihb.behind y)
      have hkept : Edits (distance a b + if x = y then 0 else 1) (x :: a) (y :: b) := by
        by_cases hxy : x = y
        · subst hxy
          rw [if_pos rfl]
          exact (ih b).behind x
        · rw [if_neg hxy]
          exact .step (.substitution x y a) ((ih b).behind y)
      rw [distance_cons_cons]
      exact hdeleted.least (hinserted.least hkept)

/-! ## No sequence is shorter -/

theorem distance_cons_le (x : Char) (a b : List Char) :
    distance (x :: a) b ≤ distance a b + 1 := by
  cases b with
  | nil => exact Nat.le_of_eq (distance_nil_right x a)
  | cons y b =>
    rw [distance_cons_cons]
    exact Nat.min_le_left _ _

theorem distance_le_cons_right (y : Char) (a b : List Char) :
    distance a (y :: b) ≤ distance a b + 1 := by
  cases a with
  | nil =>
    rw [distance_nil_left, distance_nil_left]
    exact Nat.le_refl _
  | cons x a =>
    rw [distance_cons_cons]
    omega

theorem distance_cons_cons_le (x y : Char) (a b : List Char) :
    distance (x :: a) (y :: b) ≤ distance a b + 1 := by
  rw [distance_cons_cons]
  split <;> omega

/-- Where a character is put in front the distance falls by one at most. -/
theorem distance_le_cons (x : Char) (a b : List Char) :
    distance a b ≤ distance (x :: a) b + 1 := by
  induction b with
  | nil =>
    rw [distance_nil_right]
    omega
  | cons y b ih =>
    have hright := distance_le_cons_right y a b
    rw [distance_cons_cons x y]
    omega

theorem distance_substitution_le (x z : Char) (a b : List Char) :
    distance (x :: a) b ≤ distance (z :: a) b + 1 := by
  induction b with
  | nil =>
    rw [distance_nil_right, distance_nil_right]
    exact Nat.le_succ _
  | cons y b ih =>
    have hdeleted := distance_cons_le x a (y :: b)
    have hinserted := distance_le_cons_right y (x :: a) b
    have hreplaced := distance_cons_cons_le x y a b
    rw [distance_cons_cons z y]
    omega

/-- A character in front of two texts does not drive them further apart. -/
theorem distance_behind_le (x : Char) (h : ∀ b, distance a b ≤ distance a' b + 1)
    (b : List Char) : distance (x :: a) b ≤ distance (x :: a') b + 1 := by
  induction b with
  | nil =>
    have hnil := h []
    rw [distance_nil_right, distance_nil_right]
    omega
  | cons y b ih =>
    have hdeleted := h (y :: b)
    have hkept := h b
    rw [distance_cons_cons, distance_cons_cons]
    omega

/-- One edit changes the distance to any text by one at most. -/
theorem distance_le_of_edit (h : Edit a a') (b : List Char) :
    distance a b ≤ distance a' b + 1 := by
  induction h generalizing b with
  | insertion x a => exact distance_le_cons x a b
  | deletion x a => exact distance_cons_le x a b
  | substitution x z a => exact distance_substitution_le x z a b
  | behind x _ ih => exact distance_behind_le x ih b

/-- No sequence of edits is shorter than the distance. -/
theorem distance_le_of_edits (h : Edits n a b) : distance a b ≤ n := by
  induction h with
  | refl a => exact Nat.le_of_eq (distance_self a)
  | @step n a a' b hedit _ ih =>
    have hstep := distance_le_of_edit hedit b
    omega

/-! ## Texts read from their ends -/

namespace Edit

theorem append (h : Edit a b) (rest : List Char) : Edit (a ++ rest) (b ++ rest) := by
  induction h with
  | insertion c a => exact .insertion c (a ++ rest)
  | deletion c a => exact .deletion c (a ++ rest)
  | substitution c d a => exact .substitution c d (a ++ rest)
  | behind c _ ih => exact .behind c ih

theorem insertion_last (c : Char) (a : List Char) : Edit a (a ++ [c]) := by
  induction a with
  | nil => exact .insertion c []
  | cons x a ih => exact .behind x ih

theorem substitution_last (c d : Char) (a : List Char) : Edit (a ++ [c]) (a ++ [d]) := by
  induction a with
  | nil => exact .substitution c d []
  | cons x a ih => exact .behind x ih

theorem reverse (h : Edit a b) : Edit a.reverse b.reverse := by
  induction h with
  | insertion c a =>
    rw [List.reverse_cons]
    exact insertion_last c a.reverse
  | deletion c a =>
    rw [List.reverse_cons]
    exact (insertion_last c a.reverse).symm
  | substitution c d a =>
    rw [List.reverse_cons, List.reverse_cons]
    exact substitution_last c d a.reverse
  | behind c _ ih =>
    rw [List.reverse_cons, List.reverse_cons]
    exact ih.append [c]

end Edit

theorem Edits.reverse (h : Edits n a b) : Edits n a.reverse b.reverse := by
  induction h with
  | refl a => exact .refl a.reverse
  | step hedit _ ih => exact .step hedit.reverse ih

theorem distance_comm (a b : List Char) : distance a b = distance b a := by
  apply Nat.le_antisymm
  · exact distance_le_of_edits (edits_distance b a).symm
  · exact distance_le_of_edits (edits_distance a b).symm

theorem distance_reverse (a b : List Char) : distance a.reverse b.reverse = distance a b := by
  have hle : ∀ a b, distance a.reverse b.reverse ≤ distance a b :=
    fun a b => distance_le_of_edits (edits_distance a b).reverse
  have hback := hle a.reverse b.reverse
  rw [List.reverse_reverse, List.reverse_reverse] at hback
  exact Nat.le_antisymm (hle a b) hback

theorem distance_nil (a : List Char) : distance a [] = a.length := by
  rw [distance_comm, distance_nil_left]

/-- The recursion at the last characters instead of the first ones. -/
theorem distance_concat_concat (x y : Char) (a b : List Char) :
    distance (a ++ [x]) (b ++ [y]) = min (distance a (b ++ [y]) + 1)
      (min (distance (a ++ [x]) b + 1) (distance a b + if x = y then 0 else 1)) := by
  have hfront := distance_cons_cons x y a.reverse b.reverse
  have hlast : ∀ z (c : List Char), z :: c.reverse = (c ++ [z]).reverse := fun z c => by simp
  rw [hlast, hlast, distance_reverse, distance_reverse, distance_reverse, distance_reverse]
    at hfront
  exact hfront

/-! ## Rows -/

/-- The entries of a row are the distances from a text to every prefix of another. -/
structure RowOf (a b : List Char) (row : Array Nat) : Prop where
  size_eq : row.size = b.length + 1
  entry_eq : ∀ {done rest : List Char}, b = done ++ rest →
    row.getD done.length 0 = distance a done

namespace RowOf

variable {done rest : List Char} {above row : Array Nat} {x y : Char}

/-- The row above the first one: so many characters have to be inserted. -/
theorem range (b : List Char) : RowOf [] b (Array.range (b.length + 1)) where
  size_eq := Array.size_range
  entry_eq := by
    rintro done rest rfl
    have hlt : done.length < done.length + rest.length + 1 := by omega
    rw [distance_nil_left, List.length_append, Array.getD_eq_getD_getElem?, Array.getElem?_range,
      if_pos hlt]
    rfl

/-- A row begins with the number of characters that have to be deleted. -/
theorem singleton (a : List Char) : RowOf a [] #[a.length] where
  size_eq := rfl
  entry_eq := by
    intro done rest hnil
    obtain ⟨rfl, rfl⟩ := List.append_eq_nil_iff.1 hnil.symm
    rw [distance_nil]
    rfl

/-- The entry behind a row is the distance to the prefix with one more character: the three entries
it is taken from are those of the recursion at the last characters. -/
theorem push (habove : RowOf a (done ++ y :: rest) above) (hrow : RowOf (a ++ [x]) done row) :
    RowOf (a ++ [x]) (done ++ [y]) (pushEntry above x row (y, done.length + 1)) := by
  have hdeleted : above.getD (done.length + 1) 0 = distance a (done ++ [y]) := by
    have hsplit : done ++ y :: rest = (done ++ [y]) ++ rest := by simp
    rw [← habove.entry_eq hsplit, List.length_append]
    rfl
  have hinserted : row.getD done.length 0 = distance (a ++ [x]) done :=
    hrow.entry_eq (List.append_nil done).symm
  have hkept : above.getD done.length 0 = distance a done := habove.entry_eq rfl
  have hpush : pushEntry above x row (y, done.length + 1)
      = row.push (distance (a ++ [x]) (done ++ [y])) := by
    rw [distance_concat_concat, ← hdeleted, ← hinserted, ← hkept]
    rfl
  rw [hpush]
  constructor
  · rw [Array.size_push, hrow.size_eq, List.length_append]
    rfl
  · intro prior behind hsplit
    obtain rfl | ⟨behind, z, rfl⟩ := List.eq_nil_or_concat behind
    · rw [List.append_nil] at hsplit
      subst hsplit
      simp [Array.getD_eq_getD_getElem?, ← hrow.size_eq]
    · -- a shorter prefix is one of the row before the entry was put behind it
      rw [List.concat_eq_append, ← List.append_assoc] at hsplit
      obtain ⟨hdone, -⟩ := List.append_inj' hsplit rfl
      have hlt : prior.length < row.size := by
        rw [hrow.size_eq, hdone, List.length_append]
        omega
      rw [← hrow.entry_eq hdone]
      simp [Array.getD_eq_getD_getElem?, Array.getElem?_push_lt, hlt]

/-- The inner loop fills the row for one more character of the first text. -/
theorem foldl_pushEntry (habove : RowOf a (done ++ rest) above)
    (hrow : RowOf (a ++ [x]) done row) :
    RowOf (a ++ [x]) (done ++ rest)
      ((rest.zipIdx (done.length + 1)).foldl (pushEntry above x) row) := by
  induction rest generalizing done row with
  | nil => rwa [List.append_nil]
  | cons y rest ih =>
    have hsplit : done ++ y :: rest = done ++ [y] ++ rest := by simp
    have hnext := habove.push hrow
    rw [hsplit] at habove ⊢
    rw [List.zipIdx_cons, List.foldl_cons]
    have hfilled := ih habove hnext
    rwa [List.length_append] at hfilled

theorem nextRow (habove : RowOf a b above) (x : Char) :
    RowOf (a ++ [x]) b (nextRow b above (x, a.length + 1)) := by
  have hfirst : RowOf (a ++ [x]) [] #[a.length + 1] := by
    have h := singleton (a ++ [x])
    rwa [List.length_append] at h
  have hfilled : RowOf (a ++ [x]) ([] ++ b) _ := foldl_pushEntry habove hfirst
  exact hfilled

/-- The outer loop leads to the row for the whole first text. -/
theorem foldl_nextRow (hrow : RowOf done b row) :
    RowOf (done ++ rest) b
      ((rest.zipIdx (done.length + 1)).foldl (EditDistance.nextRow b) row) := by
  induction rest generalizing done row with
  | nil => rwa [List.append_nil]
  | cons x rest ih =>
    have hfilled := ih (hrow.nextRow x)
    rw [List.zipIdx_cons, List.foldl_cons]
    rwa [List.length_append, List.append_assoc] at hfilled

end RowOf

theorem rowOf_lastRow (a b : List Char) : RowOf a b (lastRow a b) := by
  have hfilled : RowOf ([] ++ a) b _ := (RowOf.range b).foldl_nextRow
  exact hfilled

theorem ofLonger_eq_distance (a b : List Char) : ofLonger a b = distance a b := by
  have hrow := rowOf_lastRow a b
  unfold ofLonger
  split
  case isTrue hnil =>
    rw [List.isEmpty_iff.1 hnil, distance_nil]
  case isFalse =>
    have hlast := hrow.entry_eq (List.append_nil b).symm
    rw [Array.back?_eq_getElem?, hrow.size_eq, Nat.add_sub_cancel,
      ← Array.getD_eq_getD_getElem?, hlast]

/-- Neither the shortcut for equal texts nor the order in which they are taken shows. -/
theorem editDistance_eq_distance (a b : String) :
    editDistance a b = distance a.toList b.toList := by
  unfold editDistance
  split
  case isTrue heq => rw [heq, distance_self]
  case isFalse =>
    split
    case isTrue => rw [ofLonger_eq_distance, distance_comm]
    case isFalse => rw [ofLonger_eq_distance]

end EditDistance

open EditDistance

/-- The distance of two texts is the length of the shortest sequence of edits that turns the one
into the other. So it is the same in both directions, a detour does not make it smaller, and only
equal texts have none. -/
theorem editDistance_isLeast (a b : String) :
    IsLeast {n | Edits n a.toList b.toList} (editDistance a b) ∧
      editDistance b a = editDistance a b ∧
      (∀ c, editDistance a c ≤ editDistance a b + editDistance b c) ∧
      (editDistance a b = 0 ↔ a = b) := by
  have hreached : ∀ s t : String, Edits (editDistance s t) s.toList t.toList :=
    fun s t => editDistance_eq_distance s t ▸ edits_distance s.toList t.toList
  have hleast : ∀ {s t : String} {n : Nat}, Edits n s.toList t.toList → editDistance s t ≤ n :=
    fun h => editDistance_eq_distance _ _ ▸ distance_le_of_edits h
  refine ⟨⟨hreached a b, fun n hn => hleast hn⟩, ?_, fun c => ?_, ?_, ?_⟩
  · apply Nat.le_antisymm
    · exact hleast (hreached a b).symm
    · exact hleast (hreached b a).symm
  · exact hleast ((hreached a b).trans (hreached b c))
  · intro hzero
    have hnone := hreached a b
    rw [hzero] at hnone
    exact String.toList_inj.1 (eq_of_edits_zero hnone)
  · intro heq
    rw [heq, editDistance_eq_distance, distance_self]

example : editDistance "inputprot" "inputPort" = 3 := by decide +kernel

end ServiceSyntax

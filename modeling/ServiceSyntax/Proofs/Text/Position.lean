import ServiceSyntax.Text.Lines

/-!
# Positions in a text

A place in a text is given by what stands before it. Its line counts the line feeds before it, its
column the characters since the last of them. `exists_line_of_place` reads the character at a place
off the list of lines.
-/

namespace ServiceSyntax.Text

/-- The lines of a source text; only a line feed ends a line. -/
abbrev sourceLines (text : List Char) : List (List Char) := lines (· == '\n') text

/-- The line of the character behind `before`; lines count from one. -/
def lineAfter (before : List Char) : Nat := 1 + before.count '\n'

/-- The number of characters between the last line feed of `before` and its end. -/
def columnAfter (before : List Char) : Nat := (before.reverse.takeWhile (· != '\n')).length

@[simp] theorem lineAfter_nil : lineAfter [] = 1 := rfl

@[simp] theorem columnAfter_nil : columnAfter [] = 0 := rfl

theorem lineAfter_concat (before : List Char) (c : Char) :
    lineAfter (before ++ [c]) = if c = '\n' then lineAfter before + 1 else lineAfter before := by
  unfold lineAfter
  rw [List.count_append, List.count_singleton]
  by_cases hc : c = '\n'
  · simp [hc]; omega
  · simp [hc]

theorem columnAfter_concat (before : List Char) (c : Char) :
    columnAfter (before ++ [c]) = if c = '\n' then 0 else columnAfter before + 1 := by
  unfold columnAfter
  rw [List.reverse_append, List.reverse_singleton, List.singleton_append, List.takeWhile_cons]
  by_cases hc : c = '\n' <;> simp [hc]

private theorem ne_newline_of_mem_reverse {before : List Char} (h : '\n' ∉ before) :
    ∀ x ∈ before.reverse, (x != '\n') = true := by
  intro x hx
  rw [bne_iff_ne]
  intro heq
  subst heq
  exact h (by simpa using hx)

/-- In the first line the column counts everything before it. -/
theorem columnAfter_of_not_mem {before : List Char} (h : '\n' ∉ before) :
    columnAfter before = before.length := by
  have hself : (before.reverse ++ []).takeWhile (· != '\n') = before.reverse ++ [] :=
    List.takeWhile_append_of_pos (ne_newline_of_mem_reverse h)
  rw [List.append_nil] at hself
  rw [columnAfter, hself, List.length_reverse]

/-- What stands before a line feed does not count for the columns behind it. -/
theorem columnAfter_cons_of_mem {before : List Char} (c : Char) (h : '\n' ∈ before) :
    columnAfter (c :: before) = columnAfter before := by
  unfold columnAfter
  have hne : (before.reverse.takeWhile (· != '\n')).length ≠ before.reverse.length := by
    intro hlen
    have hall := List.all_takeWhile (p := (· != '\n')) (l := before.reverse)
    rw [(List.takeWhile_prefix _).eq_of_length hlen, List.all_eq_true] at hall
    simpa using hall '\n' (by simpa using h)
  rw [List.reverse_cons, List.takeWhile_append, if_neg hne]

@[simp] theorem columnAfter_cons_newline (before : List Char) :
    columnAfter ('\n' :: before) = columnAfter before := by
  by_cases hmem : '\n' ∈ before
  · exact columnAfter_cons_of_mem _ hmem
  · rw [columnAfter_of_not_mem hmem, columnAfter, List.reverse_cons,
      List.takeWhile_append_of_pos (ne_newline_of_mem_reverse hmem)]
    simp

/-- Lines are counted on behind a line feed, and columns anew. -/
theorem place_append_newline (front before : List Char) :
    lineAfter (front ++ '\n' :: before) = lineAfter before + (front.count '\n' + 1) ∧
      columnAfter (front ++ '\n' :: before) = columnAfter before := by
  constructor
  · unfold lineAfter
    rw [List.count_append, List.count_cons_self]
    omega
  · induction front with
    | nil => exact columnAfter_cons_newline before
    | cons c front ih =>
      rw [List.cons_append, columnAfter_cons_of_mem c (by simp)]
      exact ih

/-! ## Lines -/

/-- The character at a place stands in the line and at the column of the place. -/
theorem exists_line_of_place (before : List Char) (c : Char) (after : List Char) :
    ∃ shown, (sourceLines (before ++ c :: after))[before.count '\n']? = some shown ∧
      shown[columnAfter before]? = some c := by
  induction before with
  | nil =>
    rw [List.nil_append, sourceLines, lines]
    split
    · exact ⟨[c], by simp⟩
    · split
      · exact ⟨[c], by simp⟩
      · rename_i first rest _
        exact ⟨c :: first, by simp⟩
  | cons x before ih =>
    obtain ⟨line, hline, hchar⟩ := ih
    rw [List.cons_append, sourceLines, lines]
    by_cases hx : x = '\n'
    · subst hx
      exact ⟨line, by simpa using hline, by simpa using hchar⟩
    · rw [if_neg (by simpa using hx), List.count_cons_of_ne hx]
      split
      · simp_all
      · rename_i first rest hlines
        rw [sourceLines, hlines] at hline
        by_cases hmem : '\n' ∈ before
        · -- the line feed makes the line one of the later ones
          obtain ⟨n, hn⟩ : ∃ n, before.count '\n' = n + 1 :=
            Nat.exists_eq_add_one.2 (List.count_pos_iff.2 hmem)
          rw [hn] at hline ⊢
          exact ⟨line, by simpa using hline, by rwa [columnAfter_cons_of_mem x hmem]⟩
        · have hmem' : '\n' ∉ x :: before := by simp [hmem, Ne.symm hx]
          rw [columnAfter_of_not_mem hmem] at hchar
          rw [List.count_eq_zero.2 hmem] at hline ⊢
          simp only [List.getElem?_cons_zero, Option.some.injEq] at hline
          subst hline
          exact ⟨x :: first, by simp, by simpa [columnAfter_of_not_mem hmem'] using hchar⟩

/-- Without its first character a text has the same lines but for the first one, which only ends
where the character is a line feed or the text is over. -/
theorem sourceLines_tail {c : Char} {rest : List Char} {others : List (List Char)}
    (h : sourceLines (c :: (rest ++ others.flatten)) = (c :: rest) :: others) :
    sourceLines (rest ++ others.flatten) = (if rest = [] then others else rest :: others) ∧
      (c = '\n' → rest = []) ∧ (c ≠ '\n' → rest = [] → others = []) := by
  rw [sourceLines, lines] at h
  split at h
  · rename_i hc
    obtain ⟨hrest, hothers⟩ := List.cons.inj h
    obtain rfl : rest = [] := by simpa using hrest.symm
    have hc : c = '\n' := by simpa using hc
    exact ⟨by simpa using hothers, fun _ => rfl, fun hne => absurd hc hne⟩
  · rename_i hc
    have hc : c ≠ '\n' := by simpa using hc
    split at h
    · rename_i hnil
      obtain ⟨hrest, rfl⟩ := List.cons.inj h
      obtain rfl : rest = [] := by simpa using hrest.symm
      exact ⟨by simpa using hnil, fun _ => rfl, fun _ _ => rfl⟩
    · rename_i first tail hcons
      obtain ⟨hrest, rfl⟩ := List.cons.inj h
      obtain rfl : first = rest := by simpa using hrest
      have hne : first ≠ [] := ne_nil_of_mem_lines (hcons ▸ List.mem_cons_self)
      exact ⟨by rw [if_neg hne]; exact hcons, fun e => absurd e hc, fun _ e => absurd e hne⟩

end ServiceSyntax.Text

import ServiceSyntax.Proofs.Diagnostic.Correction
import ServiceSyntax.Proofs.Text.Position

/-!
# The last line of a text

A line is its text and, if it has one, its line feed (`IsLine.exists_body`). What stands in front of
the last line of a text ends in a line feed (`exists_lastLine`), so the last line alone decides how
long it is up to the last character (`length_lastLine_concat`).
-/

namespace ServiceSyntax.Text

variable {line front : List Char}

/-- In front of the last character of a line there is no line feed. -/
theorem IsLine.not_mem_init {init : List Char} {c : Char}
    (h : IsLine (· == '\n') (init ++ [c])) : '\n' ∉ init :=
  fun hmem => Bool.noConfusion (h.eq_false_of_mem '\n' hmem)

/-- A line has one line feed at most, which ends it. -/
theorem IsLine.exists_body (h : IsLine (· == '\n') line) :
    ∃ body lineEnd : String, String.ofList line = body ++ lineEnd ∧ '\n' ∉ body.toList ∧
      (lineEnd = "" ∨ lineEnd = "\n") := by
  rcases List.eq_nil_or_concat line with rfl | ⟨init, c, rfl⟩
  · exact ⟨"", "", rfl, List.not_mem_nil, Or.inl rfl⟩
  rw [List.concat_eq_append] at h ⊢
  have hinit := h.not_mem_init
  by_cases hc : c = '\n'
  · subst hc
    exact ⟨String.ofList init, "\n", String.ofList_append, by rwa [String.toList_ofList],
      Or.inr rfl⟩
  · refine ⟨String.ofList (init ++ [c]), "", String.append_empty.symm, ?_, Or.inl rfl⟩
    rw [String.toList_ofList, List.mem_append, List.mem_singleton]
    rintro (hmem | heq)
    · exact hinit hmem
    · exact hc heq.symm

/-- All lines in front of the last one are closed. -/
theorem Closed.getLast?_flatten {others : List (List Char)}
    (h : Closed (· == '\n') (others ++ [line])) :
    others.flatten = [] ∨ others.flatten.getLast? = some '\n' := by
  induction others with
  | nil => exact Or.inl rfl
  | cons first others ih =>
    right
    obtain ⟨x, hx, hend⟩ := h.1 (by simp)
    obtain rfl : x = '\n' := by simpa using hend
    rw [List.flatten_cons, List.getLast?_append]
    rcases ih h.2 with hnil | hlast
    · rw [hnil, hx]
      rfl
    · rw [hlast]
      rfl

/-- A text is its last line behind the others, if there are any. -/
theorem exists_lastLine {text : List Char} (h : text ≠ []) :
    ∃ front line, text = front ++ line ∧ (sourceLines text).getLast? = some line ∧
      IsLine (· == '\n') line ∧ line ≠ [] ∧ (front = [] ∨ front.getLast? = some '\n') := by
  have hflatten : (sourceLines text).flatten = text := flatten_lines _ text
  have hclosed : Closed (· == '\n') (sourceLines text) := closed_lines _ text
  rcases List.eq_nil_or_concat (sourceLines text) with hnil | ⟨others, line, hlines⟩
  · rw [hnil] at hflatten
    exact absurd hflatten.symm h
  rw [List.concat_eq_append] at hlines
  have hmem : line ∈ sourceLines text := by
    rw [hlines]
    exact List.mem_append_right _ List.mem_cons_self
  rw [hlines] at hflatten hclosed
  refine ⟨others.flatten, line, ?_, ?_, isLine_of_mem_lines hmem, ne_nil_of_mem_lines hmem,
    hclosed.getLast?_flatten⟩
  · rw [List.flatten_append, List.flatten_singleton] at hflatten
    exact hflatten.symm
  · rw [hlines, List.getLast?_concat]

/-- Columns begin anew behind a line feed. -/
theorem columnAfter_append (hfront : front = [] ∨ front.getLast? = some '\n') (before : List Char) :
    columnAfter (front ++ before) = columnAfter before := by
  rcases hfront with rfl | hlast
  · rfl
  · obtain ⟨init, rfl⟩ := List.getLast?_eq_some_iff.1 hlast
    rw [List.append_assoc]
    exact (place_append_newline init before).2

/-- Up to its last character a text has the column of that character, and behind it one more unless
it is a line feed: so long is its last line. -/
theorem length_lastLine_concat (body : List Char) (c : Char) :
    (withoutLineEnd (String.ofList ((sourceLines (body ++ [c])).getLast?.getD []))).length
      = if c = '\n' then columnAfter body else columnAfter body + 1 := by
  obtain ⟨front, line, htext, hlast, hline, hne, hfront⟩ :=
    exists_lastLine (List.append_ne_nil_of_right_ne_nil body (List.cons_ne_nil c []))
  rw [hlast, Option.getD_some]
  obtain ⟨init, d, rfl⟩ := (List.eq_nil_or_concat line).resolve_left hne
  rw [List.concat_eq_append] at htext hline ⊢
  rw [← List.append_assoc] at htext
  obtain ⟨rfl, hd⟩ := List.append_inj' htext rfl
  obtain rfl := (List.cons.inj hd).1
  have hinit := hline.not_mem_init
  rw [columnAfter_append hfront, columnAfter_of_not_mem hinit, String.ofList_append]
  by_cases hc : c = '\n'
  · subst hc
    rw [if_pos rfl, withoutLineEnd_of_not_mem (by rwa [String.toList_ofList]) (Or.inr rfl),
      String.length_ofList]
  · have hbody : '\n' ∉ (String.ofList init ++ String.ofList [c]).toList := by
      rw [String.toList_append, String.toList_ofList, String.toList_ofList, List.mem_append,
        List.mem_singleton, not_or]
      exact ⟨hinit, Ne.symm hc⟩
    rw [if_neg hc, ← String.append_empty (s := String.ofList init ++ String.ofList [c]),
      withoutLineEnd_of_not_mem hbody (Or.inl rfl), String.length_append, String.length_ofList,
      String.length_ofList]
    rfl

end ServiceSyntax.Text

import ServiceSyntax.Scan.Scanner
import ServiceSyntax.Proofs.Text.Position

/-!
# The place of a scanner in its text

A scanner keeps a line, a column and lists of lines, but no offset. `Stands s before after` says
which place of a text these stand for: `before` has been consumed and `after` is left. Consuming
a character and taking up a line keep it (`Stands.advance`, `Stands.load`).
-/

namespace ServiceSyntax.Scanner

open Scan Text

/-- The scanner has consumed `before`, and `after` is what is left of the text. -/
structure Stands (s : Scanner) (before after : List Char) : Prop where
  /-- No unread line is broken. -/
  sound : ∀ line ∈ s.unread, ∃ chars, line = .sound chars
  /-- The rest of the present line comes before the unread lines. -/
  after_eq : after = s.rest ++ (s.unread.map SourceLine.chars).flatten
  /-- Every line of the text is retained or unread. -/
  lines_eq : sourceLines (before ++ after)
    = s.retained.toList.map String.toList ++ s.unread.map SourceLine.chars
  /-- The present line and the unread lines are the lines of what is left. -/
  lines_after : sourceLines after
    = if s.rest = [] then s.unread.map SourceLine.chars
      else s.rest :: s.unread.map SourceLine.chars
  line_eq : s.line = lineAfter before
  /-- Until the text is over the present line is the last one retained. -/
  size_eq : after ≠ [] → s.line = s.retained.size + if s.rest = [] then 1 else 0
  column_eq : after ≠ [] → columnAfter before = if s.rest = [] then 0 else s.column

/-- A scanner of a text stands before all of it. -/
theorem stands_ofText (text source : String) (layout : Bool) :
    Stands (ofText text source layout) [] text.toList where
  sound := by simp [ofText, Source.ofText]
  after_eq := by simp [ofText, Source.ofText, SourceLine.chars, Function.comp_def, flatten_lines]
  lines_eq := by simp [ofText, Source.ofText, SourceLine.chars, Function.comp_def]
  lines_after := by simp [ofText, Source.ofText, SourceLine.chars, Function.comp_def]
  line_eq := rfl
  size_eq := by simp [ofText]
  column_eq := by simp [ofText]

namespace Stands

variable {s : Scanner} {before after rest : List Char} {c : Char}

/-- Consuming the next character moves the place behind it. -/
theorem advance (h : Stands s before (c :: after)) (hs : s.rest = c :: rest) :
    Stands (s.advance c rest) (before ++ [c]) after := by
  have hafter : after = rest ++ (s.unread.map SourceLine.chars).flatten := by
    have := h.after_eq
    rw [hs, List.cons_append] at this
    exact (List.cons.inj this).2
  have hlines := h.lines_after
  rw [hs, if_neg (List.cons_ne_nil _ _), hafter] at hlines
  obtain ⟨htail, hend, hmore⟩ := sourceLines_tail hlines
  have hsize := h.size_eq (List.cons_ne_nil _ _)
  have hcol := h.column_eq (List.cons_ne_nil _ _)
  rw [hs, if_neg (List.cons_ne_nil _ _)] at hsize hcol
  -- the line is over after its line feed, and before it only at the end of the text
  have hrest : after ≠ [] → (rest = [] ↔ c = '\n') := by
    intro hne
    refine ⟨fun hnil => ?_, hend⟩
    by_cases hc : c = '\n'
    · exact hc
    · rw [hafter, hnil, hmore hc hnil] at hne
      exact absurd rfl hne
  exact {
    sound := h.sound
    after_eq := hafter
    lines_eq := by rw [List.append_assoc]; exact h.lines_eq
    lines_after := by rw [hafter]; exact htail
    line_eq := by rw [lineAfter_concat, ← h.line_eq]; rfl
    size_eq := by
      intro hne
      simp only [Scanner.advance, hrest hne, hsize]
      split <;> rfl
    column_eq := by
      intro hne
      simp only [Scanner.advance, columnAfter_concat, hcol, hrest hne] }

/-- At the end of its line the scanner takes up the next line and stays at its place. -/
theorem load {line : SourceLine} {unread : Source} (h : Stands s before after)
    (hs : s.rest = []) (hu : s.unread = line :: unread) :
    ∃ chars, line = .sound chars ∧ chars ≠ [] ∧
      Stands { s with unread, retained := s.retained.push (String.ofList chars), rest := chars,
                      column := 0 } before after := by
  obtain ⟨chars, rfl⟩ := h.sound line (hu ▸ List.mem_cons_self)
  have hlines := h.lines_after
  rw [if_pos hs, hu, List.map_cons] at hlines
  have hchars : chars ≠ [] := ne_nil_of_mem_lines (hlines ▸ List.mem_cons_self)
  have hafter := h.after_eq
  rw [hs, hu, List.nil_append, List.map_cons, List.flatten_cons] at hafter
  refine ⟨chars, rfl, hchars, ?_⟩
  exact {
    sound := fun line hline => h.sound line (hu ▸ List.mem_cons_of_mem _ hline)
    after_eq := hafter
    lines_eq := by
      rw [h.lines_eq, hu, Array.toList_push, List.map_append, List.append_assoc]
      simp [SourceLine.chars]
    lines_after := by rw [if_neg hchars]; exact hlines
    line_eq := h.line_eq
    size_eq := by
      intro hne
      have := h.size_eq hne
      rw [if_pos hs] at this
      simpa [hchars] using this
    column_eq := by
      intro hne
      have := h.column_eq hne
      rw [if_pos hs] at this
      simpa [hchars] using this }

/-- Noting a line break does not move the place. -/
theorem note (h : Stands s before after) (met : Bool) :
    Stands { s with metNewline := met } before after :=
  ⟨h.sound, h.after_eq, h.lines_eq, h.lines_after, h.line_eq, h.size_eq, h.column_eq⟩

/-- Noting the position of a token does not move the place. -/
theorem markToken (h : Stands s before after) : Stands s.markToken before after :=
  ⟨h.sound, h.after_eq, h.lines_eq, h.lines_after, h.line_eq, h.size_eq, h.column_eq⟩

/-- The line that the scanner stands in is the last one retained. -/
theorem getElem?_currentLine (h : Stands s before after) (hne : s.retained ≠ #[]) :
    (sourceLines (before ++ after))[s.retained.size - 1]? = some s.currentLine.toList := by
  have hpos : s.retained.size ≠ 0 := by simpa using hne
  have hlt : s.retained.size - 1 < (s.retained.toList.map String.toList).length := by
    rw [List.length_map, Array.length_toList]
    omega
  rw [h.lines_eq, List.getElem?_append_left hlt, List.getElem?_map, Array.getElem?_toList,
    ← Array.back?_eq_getElem?, currentLine]
  cases hback : s.retained.back? with
  | none => exact absurd (Array.back?_eq_none_iff.1 hback) hne
  | some line => rfl

/-- In the middle of a line the line that the scanner stands in is that of its place. -/
theorem currentLine_eq (h : Stands s before after) (hs : s.rest ≠ []) :
    (sourceLines (before ++ after))[before.count '\n']? = some s.currentLine.toList := by
  have hafter : after ≠ [] := by
    rw [h.after_eq]
    exact List.append_ne_nil_of_left_ne_nil hs _
  have hsize := h.size_eq hafter
  have hline := h.line_eq
  unfold lineAfter at hline
  rw [if_neg hs] at hsize
  have hne : s.retained ≠ #[] := by
    intro hnil
    rw [hnil, Array.size_empty] at hsize
    omega
  rw [show before.count '\n' = s.retained.size - 1 by omega]
  exact h.getElem?_currentLine hne

/-- The text is over when nothing is left of it. -/
theorem unread_eq_nil (h : Stands s before []) : s.rest = [] ∧ s.unread = [] := by
  have hrest : s.rest = [] := (List.append_eq_nil_iff.1 h.after_eq.symm).1
  have hlines := h.lines_after
  rw [if_pos hrest] at hlines
  exact ⟨hrest, List.map_eq_nil_iff.1 hlines.symm⟩

/-- The line of a character that has been consumed is retained. -/
theorem count_lt_size {consumed : List Char} (h : Stands s (before ++ c :: consumed) after) :
    before.count '\n' < s.retained.size := by
  by_cases hafter : after = []
  · subst hafter
    obtain ⟨line, hline, -⟩ := exists_line_of_place before c consumed
    have hlines := h.lines_eq
    rw [h.unread_eq_nil.2, List.append_nil, List.map_nil, List.append_nil] at hlines
    rw [hlines] at hline
    simpa using (List.getElem?_eq_some_iff.1 hline).1
  · have hsize := h.size_eq hafter
    have hcol := h.column_eq hafter
    have hline := h.line_eq
    unfold lineAfter at hline
    rw [List.count_append] at hline
    by_cases hrest : s.rest = []
    · -- the last character consumed is the line feed of the last line retained
      rw [if_pos hrest] at hsize hcol
      have hend : '\n' ∈ c :: consumed := by
        obtain ⟨init, last, hinit⟩ :=
          (List.eq_nil_or_concat (c :: consumed)).resolve_left (List.cons_ne_nil _ _)
        rw [hinit, List.concat_eq_append, ← List.append_assoc, columnAfter_concat] at hcol
        by_cases hlast : last = '\n'
        · rw [hinit, hlast, List.concat_eq_append]
          exact List.mem_append_right _ List.mem_cons_self
        · rw [if_neg hlast] at hcol
          omega
      have hpos := List.count_pos_iff.2 hend
      omega
    · rw [if_neg hrest] at hsize
      omega

/-- A character that has been consumed can be shown at its line and column. -/
theorem exists_codeLine {consumed : List Char} (h : Stands s (before ++ c :: consumed) after) :
    ∃ line, s.codeLine? (lineAfter before) = some line ∧
      line.toList[columnAfter before]? = some c := by
  obtain ⟨line, hline, hchar⟩ := exists_line_of_place before c (consumed ++ after)
  have hlt : before.count '\n' < (s.retained.toList.map String.toList).length := by
    rw [List.length_map, Array.length_toList]
    exact h.count_lt_size
  have hlines := h.lines_eq
  rw [List.append_assoc, List.cons_append] at hlines
  rw [hlines, List.getElem?_append_left hlt, List.getElem?_map, Array.getElem?_toList,
    Option.map_eq_some_iff] at hline
  obtain ⟨text, htext, rfl⟩ := hline
  refine ⟨text, ?_, hchar⟩
  have hone : (1 : Int) ≤ (lineAfter before : Nat) := by unfold lineAfter; omega
  have hnum : (((lineAfter before : Nat) : Int) - 1).toNat = before.count '\n' := by
    unfold lineAfter
    omega
  rw [codeLine?, if_pos hone, hnum]
  exact htext

end Stands

end ServiceSyntax.Scanner

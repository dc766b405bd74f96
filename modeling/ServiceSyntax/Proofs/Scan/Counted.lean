import ServiceSyntax.Proofs.Scan.Steady
import ServiceSyntax.Proofs.Text.Lines

/-!
# Lines and columns

The line counter counts the lines retained, and the column the characters consumed of the last one
(`Counted`). This holds of every source, sound or broken, in front of every scan and behind it, be
it over with a token or with an error. So a place that a token begins at lies within its line,
however far the scanner has read since.
-/

namespace ServiceSyntax

open Scan Text

namespace Scanner

variable {s t : Scanner} {c : Char} {rest : List Char}

/-- The counters agree with the lines: in front of a character the present line is the last one
retained, and behind its end it is the next one, unless the source ends without a line feed. -/
structure Counted (s : Scanner) : Prop where
  unread_ordered : Source.Ordered s.unread
  rest_isLine : IsLine (· == '\n') s.rest
  rest_closed : s.rest ≠ [] → s.unread ≠ [] → s.rest.getLast? = some '\n'
  line_eq : s.rest ≠ [] → s.line = s.retained.size
  line_eq_of_nil : s.rest = [] →
    s.line = s.retained.size + 1 ∨ s.unread = [] ∧ s.line = s.retained.size
  line_pos : 1 ≤ s.line
  exists_consumed : s.rest ≠ [] →
    ∃ consumed, s.currentLine.toList = consumed ++ s.rest ∧ consumed.length = s.column

theorem counted_fresh {source : Source} (h : source.Ordered) (name : String) (layout : Bool) :
    Counted { source := name, layout, unread := source } where
  unread_ordered := h
  rest_isLine := trivial
  rest_closed := absurd rfl
  line_eq := absurd rfl
  line_eq_of_nil _ := Or.inl rfl
  line_pos := Nat.le_refl 1
  exists_consumed := absurd rfl

theorem counted_ofText (text source : String) (layout : Bool) :
    Counted (ofText text source layout) :=
  counted_fresh (ordered_ofText text) source layout

theorem counted_ofBytes (bytes : List UInt8) (source : String) (layout : Bool) :
    Counted (ofBytes bytes source layout) :=
  counted_fresh (ordered_ofBytes bytes) source layout

namespace Counted

/-- Marks do not count. -/
theorem markToken (h : Counted s) : Counted s.markToken :=
  ⟨h.unread_ordered, h.rest_isLine, h.rest_closed, h.line_eq, h.line_eq_of_nil, h.line_pos,
    h.exists_consumed⟩

theorem note (h : Counted s) (met : Bool) : Counted { s with metNewline := met } :=
  ⟨h.unread_ordered, h.rest_isLine, h.rest_closed, h.line_eq, h.line_eq_of_nil, h.line_pos,
    h.exists_consumed⟩

/-- A line feed stands at the end of its line, and the last line only may lack it. -/
theorem advance (h : Counted s) (hrest : s.rest = c :: rest) : Counted (s.advance c rest) := by
  have hne : s.rest ≠ [] := by simp [hrest]
  have hisLine := h.rest_isLine
  have hclosed := h.rest_closed hne
  have hline := h.line_eq hne
  have hpos := h.line_pos
  obtain ⟨consumed, hconsumed, hlength⟩ := h.exists_consumed hne
  rw [hrest] at hisLine hclosed hconsumed
  refine ⟨h.unread_ordered, hisLine.2, ?_, ?_, ?_, ?_, ?_⟩
  · intro hne' hunread
    have hne' : rest ≠ [] := hne'
    have hlast := hclosed hunread
    rwa [List.getLast?_cons_of_ne_nil hne'] at hlast
  · intro hne'
    have hc : c ≠ '\n' := fun hc => hne' (hisLine.1 (by simp [hc]))
    simpa only [Scanner.advance, if_neg hc] using hline
  · -- the line is over: a line feed makes the counter move on, and without one the source is over
    intro hnil
    have hnil : rest = [] := hnil
    by_cases hc : c = '\n'
    · left
      simp only [Scanner.advance, if_pos hc, hline]
    · right
      refine ⟨Decidable.byContradiction fun hunread => ?_, ?_⟩
      · have hlast := hclosed hunread
        rw [hnil] at hlast
        exact hc (Option.some.inj hlast)
      · simpa only [Scanner.advance, if_neg hc] using hline
  · simp only [Scanner.advance]
    split <;> omega
  · intro _
    refine ⟨consumed ++ [c], ?_, ?_⟩
    · rw [List.append_assoc]
      exact hconsumed
    · rw [List.length_append, hlength]
      rfl

/-- A line that holds nothing is the last one. -/
theorem load {line : SourceLine} {unread : Source} (h : Counted s) (hrest : s.rest = [])
    (hunread : s.unread = line :: unread) : Counted (s.load line unread).2 := by
  have hordered := h.unread_ordered
  rw [hunread] at hordered
  have hlines := List.forall_mem_cons.1 hordered.isLine
  have hclosed := hordered.closed
  have hline : s.line = s.retained.size + 1 := by
    refine (h.line_eq_of_nil hrest).resolve_right fun hover => ?_
    rw [hunread] at hover
    cases hover.1
  have hlast : unread ≠ [] → line.chars.getLast? = some '\n' := by
    intro hne
    obtain ⟨x, hlast, hx⟩ := hclosed.1 (by simpa using hne)
    rw [hlast, beq_iff_eq.1 hx]
  obtain ⟨consumed, rest, hchars, hnil, hload⟩ := exists_load s line unread
  rw [hload]
  have hisLine := hlines.1.suffix ⟨consumed, hchars.symm⟩
  refine ⟨⟨hlines.2, hclosed.2⟩, hisLine, ?_, ?_, ?_, h.line_pos, ?_⟩
  · intro hne hunread'
    have hlast' := hlast hunread'
    simpa [hchars, List.getLast?_append, List.getLast?_eq_some_getLast hne] using hlast'
  · intro _
    show s.line = (s.retained.push _).size
    rw [Array.size_push, hline]
  · intro hover
    refine Or.inr ⟨Decidable.byContradiction fun hunread' => ?_, ?_⟩
    · have hlast' := hlast hunread'
      rw [hnil hover] at hlast'
      cases hlast'
    · show s.line = (s.retained.push _).size
      rw [Array.size_push, hline]
  · intro _
    refine ⟨consumed, ?_, rfl⟩
    simp [currentLine, hchars]

end Counted

theorem steady_counted : Steady Counted where
  markToken _ h := h.markToken
  note _ met h := h.note met
  advance _ _ _ hrest h := h.advance hrest
  load _ _ _ hrest hunread h := h.load hrest hunread

end Scanner

/-! ## Inputs -/

/-- What a scanner can be made for. -/
inductive Scan.Input where
  | text (text : String)
  | bytes (bytes : List UInt8)
deriving Repr, DecidableEq

namespace Scan.Input

def source : Input → Source
  | text t => .ofText t
  | bytes b => .ofBytes b

def scanner (input : Input) (name : String) (layout : Bool) : Scanner :=
  match input with
  | text t => .ofText t name layout
  | bytes b => .ofBytes b name layout

/-- The input behind its first lines. -/
def behind (n : Nat) : Input → Input
  | text t => .text (String.ofList ((lines (· == '\n') t.toList).drop n).flatten)
  | bytes b => .bytes ((lines (· == 10) b).drop n).flatten

theorem scanner_eq (input : Input) (name : String) (layout : Bool) :
    input.scanner name layout = { source := name, layout, unread := input.source } := by
  cases input <;> rfl

theorem source_behind (input : Input) (n : Nat) :
    (input.behind n).source = input.source.drop n := by
  cases input with
  | text t =>
    simp only [behind, source, Source.ofText, String.toList_ofList, lines_flatten_drop,
      List.map_drop]
  | bytes b => simp only [behind, source, Source.ofBytes, lines_flatten_drop, List.map_drop]

theorem counted (input : Input) (name : String) (layout : Bool) :
    (input.scanner name layout).Counted := by
  cases input with
  | text t => exact Scanner.counted_ofText t name layout
  | bytes b => exact Scanner.counted_ofBytes b name layout

end Scan.Input

end ServiceSyntax

import ServiceSyntax.Proofs.Diagnostic.Excerpt

/-!
# Diagnostics of a parser that has read further

A parser shows its current token with lines that it has read. One that stands at the same token and
has read further shows the same (`Further.context_eq`, `Further.unexpectedIn_eq`), provided that the
lines to be shown have been read by the first one, or that the second one has read no other ones.
-/

namespace ServiceSyntax

open Scanner

namespace Scanner

variable {s t : Scanner}

/-- A line that has been read stays what it is. -/
theorem Grown.codeLine?_same (h : Grown s t) {number : Int}
    (hnumber : t.retained = s.retained ∨ number ≤ s.retained.size) :
    t.codeLine? number = s.codeLine? number := by
  rcases hnumber with hretained | hle
  · rw [codeLine?, codeLine?, hretained]
  · obtain ⟨read, -, hretained⟩ := h.exists_read
    unfold codeLine?
    split
    · rw [← Array.getElem?_toList, ← Array.getElem?_toList, hretained,
        List.getElem?_append_left (by rw [Array.length_toList]; omega)]
    · rfl

theorem Grown.codeLines_same (h : Grown s t) (first : Int) {last : Int}
    (hlast : t.retained = s.retained ∨ 0 ≤ last ∧ last ≤ s.retained.size) :
    t.codeLines first last = s.codeLines first last := by
  rcases hlast with hretained | ⟨hpos, hle⟩
  · rw [codeLines, codeLines, hretained]
  · obtain ⟨read, -, hretained⟩ := h.exists_read
    rw [codeLines, codeLines, hretained]
    exact Text.slice_append _ (by omega) hpos (by rwa [Array.length_toList])

end Scanner

/-- The second parser stands at the same token, and it may have read further. It is given the same
registry when it asks for one. -/
structure Parser.Further (p q : Parser) : Prop where
  token?_eq : q.token? = p.token?
  position_eq : q.position = p.position
  ask_eq : q.vocabulary.ask.1 = p.vocabulary.ask.1
  grown : Grown p.scanner q.scanner

/-- The first parser has read the line of its current token, or the second one has not read more
lines. -/
def Parser.Ready (p q : Parser) : Prop :=
  q.scanner.retained = p.scanner.retained ∨
    p.token?.any Token.isEndOfFile = false ∧ p.position.1 ≤ p.scanner.retained.size

namespace Parser.Further

variable {p q : Parser}

theorem content_eq (h : Further p q) : q.content = p.content := by
  rw [Parser.content, Parser.content, h.token?_eq]

theorem sourceName_eq (h : Further p q) : q.sourceName = p.sourceName := h.grown.source_eq

theorem startLine_eq (h : Further p q) (hfirst : q.firstLine = p.firstLine) :
    q.startLine = p.startLine := by
  rw [Parser.startLine, Parser.startLine, hfirst, h.position_eq]

theorem endLine_eq (h : Further p q) (hlast : q.lastLine = p.lastLine) :
    q.endLine = p.endLine := by
  rw [Parser.endLine, Parser.endLine, hlast, h.position_eq]

/-- Both show the current token at the same place with the same line. -/
theorem context_eq (h : Further p q) (hready : p.Ready q) : q.context = p.context := by
  have hline := h.grown.codeLine?_same (hready.imp_right And.right)
  unfold Parser.context
  rw [h.token?_eq, h.sourceName_eq, h.position_eq, hline]
  rcases hready with hretained | ⟨hkind, -⟩
  · rw [endOfFileContext, endOfFileContext, hretained, h.sourceName_eq, h.position_eq]
  · rw [hkind]
    rfl

theorem unexpected_eq (h : Further p q) (hready : p.Ready q) (message : String)
    (expected : List String) : q.unexpected message expected = p.unexpected message expected := by
  unfold Parser.unexpected
  rw [h.context_eq hready, h.content_eq]

/-- Both show the same lines of a construct. -/
theorem unexpectedIn_eq (h : Further p q) (hready : p.Ready q) (hstart : q.startLine = p.startLine)
    (hend : q.endLine = p.endLine) (hlines : q.scanner.retained = p.scanner.retained ∨
      0 ≤ p.endLine ∧ p.endLine ≤ p.scanner.retained.size)
    (r : Registry) (message : String) (name : Option String) (scope : String) :
    q.unexpectedIn r message name scope = p.unexpectedIn r message name scope := by
  unfold Parser.unexpectedIn
  rw [hstart, hend, h.grown.codeLines_same p.startLine hlines, h.context_eq hready, h.content_eq]

end Parser.Further

end ServiceSyntax

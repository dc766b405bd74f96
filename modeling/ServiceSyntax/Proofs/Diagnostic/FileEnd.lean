import ServiceSyntax.Parse.Parser
import ServiceSyntax.Proofs.Scan.Counted
import ServiceSyntax.Proofs.Text.LastLine

/-!
# The context of the end of a file

The lines that a parser has retained are searched from the last one on for one that is not blank
(`exists_lastInkedLine`). Where they are all lines of the source, the context at the end of the file
is thus the end of the last such line of the source (`Context.AtEnd`).
-/

namespace ServiceSyntax

open Scan

/-- The lines of an input, as they can be shown. -/
def Scan.Input.lines (input : Input) : List String :=
  input.source.map fun line => String.ofList line.chars

/-- A line of an input has one line feed at most, which ends it. -/
theorem Scan.Input.exists_body {input : Input} {line : String} (h : line ∈ input.lines) :
    ∃ body lineEnd : String, line = body ++ lineEnd ∧ '\n' ∉ body.toList ∧
      (lineEnd = "" ∨ lineEnd = "\n") := by
  obtain ⟨chars, hchars, rfl⟩ := List.mem_map.1 h
  have hordered := (input.counted "" false).unread_ordered
  rw [input.scanner_eq] at hordered
  exact (hordered.isLine chars hchars).exists_body

/-- The context is that of the end of a source with these lines: it shows the last line that is not
blank and points behind its text, its line feed not counted. Where all lines are blank it shows
nothing. -/
inductive Context.AtEnd (name : String) (lines : List String) : Context → Prop
  | inked {before behind : List String} {body lineEnd : String} :
      lines = before ++ (body ++ lineEnd) :: behind → Text.hasInk (body ++ lineEnd) = true →
      (∀ line ∈ behind, Text.hasInk line = false) → '\n' ∉ body.toList →
      lineEnd = "" ∨ lineEnd = "\n" →
      AtEnd name lines
        { source := name
          startLine := (before.length + 1 : Nat)
          endLine := (before.length + 1 : Nat)
          column := body.length
          code := [body ++ lineEnd] }
  | blank {ctx : Context} : (∀ line ∈ lines, Text.hasInk line = false) → ctx.source = name →
      ctx.code = [] → ctx.column = 0 → AtEnd name lines ctx

namespace Parser

theorem lastInkedLine?_concat (lines : List String) (line : String) :
    lastInkedLine? (lines ++ [line])
      = if Text.hasInk line then some (lines.length + 1, line) else lastInkedLine? lines := by
  rw [lastInkedLine?, List.zipIdx_append, List.reverse_append, List.zipIdx_singleton,
    List.reverse_singleton, List.singleton_append, List.findSome?_cons, Nat.add_comm]
  dsimp only
  by_cases hink : Text.hasInk line = true
  · rw [if_pos hink, if_pos hink]
  · rw [if_neg hink, if_neg hink]
    rfl

/-- All lines are blank, or else the last one that is not is found. -/
theorem exists_lastInkedLine (lines : List String) :
    (lastInkedLine? lines = none ∧ ∀ line ∈ lines, Text.hasInk line = false) ∨
    ∃ before line behind, lines = before ++ line :: behind ∧ Text.hasInk line = true ∧
      (∀ line ∈ behind, Text.hasInk line = false) ∧
      lastInkedLine? lines = some (before.length + 1, line) := by
  induction lines using List.reverseRecOn with
  | nil => exact Or.inl ⟨rfl, List.forall_mem_nil _⟩
  | append_singleton lines last ih =>
    rw [lastInkedLine?_concat]
    cases hink : Text.hasInk last with
    | true => exact Or.inr ⟨lines, last, [], rfl, hink, List.forall_mem_nil _, rfl⟩
    | false =>
      -- a blank line at the end does not count
      rcases ih with ⟨hnone, hblank⟩ | ⟨before, line, behind, rfl, hline, hblank, hsome⟩
      · refine Or.inl ⟨hnone, fun line hmem => ?_⟩
        rcases List.mem_append.1 hmem with hmem | hmem
        · exact hblank line hmem
        · exact List.mem_singleton.1 hmem ▸ hink
      · refine Or.inr ⟨before, line, behind ++ [last], by simp, hline, fun line hmem => ?_, hsome⟩
        rcases List.mem_append.1 hmem with hmem | hmem
        · exact hblank line hmem
        · exact List.mem_singleton.1 hmem ▸ hink

/-- A parser that has retained all lines points at the end of the source. -/
theorem atEnd_endOfFileContext {p : Parser} {input : Input}
    (hretained : p.scanner.retained.toList = input.lines) :
    Context.AtEnd p.sourceName input.lines p.endOfFileContext := by
  rw [endOfFileContext, hretained]
  rcases exists_lastInkedLine input.lines with ⟨hnone, hblank⟩ | ⟨before, line, behind, hlines,
    hink, hblank, hsome⟩
  · rw [hnone]
    exact .blank hblank rfl rfl rfl
  · rw [hsome]
    have hmem : line ∈ input.lines := by
      rw [hlines]
      exact List.mem_append_right _ List.mem_cons_self
    obtain ⟨body, lineEnd, rfl, hbody, hend⟩ := Input.exists_body hmem
    have hcontext : Context.AtEnd p.sourceName input.lines _ :=
      .inked hlines hink hblank hbody hend
    dsimp only
    rwa [Text.withoutLineEnd_of_not_mem hbody hend]

end Parser

end ServiceSyntax

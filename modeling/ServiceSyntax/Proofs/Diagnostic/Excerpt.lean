import ServiceSyntax.Parse.Parser
import ServiceSyntax.Proofs.Scan.Counted

/-!
# The code of a context

A context quotes its source if its code is what the scanner has retained of the lines that it spans
(`Scanner.Quotes`); reading on does not change that. Every context that a scanner or a parser makes
does so, whatever construct it is made for (`quotes_errorAt`, `quotes_context`, `quotes_diagnose`).
Its column lies within the code (`Context.Within`) unless a construct has moved it, provided that
the places of all entries fit their lines (`Scanner.Fits`).
-/

namespace ServiceSyntax

open Scan

/-- The column lies within the first line of the code. -/
def Context.Within (ctx : Context) : Prop :=
  ∀ line, ctx.code.head? = some line → 0 ≤ ctx.column ∧ ctx.column ≤ line.length

namespace Scanner

variable {s t : Scanner} {ctx : Context} {line : String} {number column : Int}

/-- The code of the context is that of the lines which the context spans. -/
structure Quotes (s : Scanner) (ctx : Context) : Prop where
  codeLine_eq : ∀ (i : Nat) line, ctx.code[i]? = some line →
    s.codeLine? (ctx.startLine + i) = some line
  endLine_eq : ctx.code ≠ [] → ctx.endLine = ctx.startLine + ctx.code.length - 1

/-- The place lies within its line, as soon as that has been read and ever after. -/
structure Fits (s : Scanner) (number column : Int) : Prop where
  line_pos : 1 ≤ number
  column_nonneg : 0 ≤ column
  column_le : ∀ t line, Grown s t → t.codeLine? number = some line → column ≤ line.length

/-! ## Retained lines -/

theorem codeLine?_succ (s : Scanner) (n : Nat) : s.codeLine? (n + 1) = s.retained[n]? := by
  rw [codeLine?, if_pos (by omega), show ((n : Int) + 1 - 1).toNat = n by omega]

theorem exists_of_codeLine? (h : s.codeLine? number = some line) :
    ∃ n : Nat, number = n + 1 ∧ s.retained[n]? = some line := by
  unfold codeLine? at h
  split at h
  · exact ⟨(number - 1).toNat, by omega, h⟩
  · cases h

/-- Lines stay retained under their numbers. -/
theorem Grown.codeLine?_eq (h : Grown s t) (hline : s.codeLine? number = some line) :
    t.codeLine? number = some line := by
  obtain ⟨read, -, hretained⟩ := h.exists_read
  obtain ⟨n, rfl, hn⟩ := exists_of_codeLine? hline
  rw [← Array.getElem?_toList] at hn
  rw [codeLine?_succ, ← Array.getElem?_toList, hretained,
    List.getElem?_append_left (List.getElem?_eq_some_iff.1 hn).1, hn]

theorem Quotes.grown (h : Quotes s ctx) (hgrown : Grown s t) : Quotes t ctx :=
  ⟨fun i line hline => hgrown.codeLine?_eq (h.codeLine_eq i line hline), h.endLine_eq⟩

theorem Fits.grown (h : Fits s number column) (hgrown : Grown s t) : Fits t number column :=
  ⟨h.line_pos, h.column_nonneg, fun u line hu => h.column_le u line (hgrown.trans hu)⟩

/-- The first column is part of any line. -/
theorem fits_zero (s : Scanner) (h : 1 ≤ number) : Fits s number 0 :=
  ⟨h, Int.le_refl 0, fun _ line _ _ => Int.natCast_nonneg line.length⟩

/-- A line that is retained is one of the source. -/
theorem Grown.isLine_of_codeLine? (h : Grown s t) (hs : Counted s)
    (hretained : s.retained = #[]) (hline : t.codeLine? number = some line) :
    Text.IsLine (· == '\n') line.toList := by
  obtain ⟨read, hunread, hread⟩ := h.exists_read
  obtain ⟨n, -, hn⟩ := exists_of_codeLine? hline
  have hmem : line ∈ t.retained.toList := Array.mem_toList_iff.2 (Array.mem_of_getElem? hn)
  rw [hread, hretained, List.nil_append] at hmem
  obtain ⟨sourceLine, hsource, rfl⟩ := List.mem_map.1 hmem
  rw [String.toList_ofList]
  apply hs.unread_ordered.isLine
  rw [hunread]
  exact List.mem_append_left _ hsource

/-- One line is quoted, or none. -/
theorem quotes_line (hcode : ctx.code = (s.codeLine? ctx.startLine).toList)
    (hend : ctx.endLine = ctx.startLine) : Quotes s ctx := by
  refine ⟨fun i line hline => ?_, fun hne => ?_⟩
  · rw [hcode] at hline
    obtain ⟨rfl, hfound⟩ : i = 0 ∧ s.codeLine? ctx.startLine = some line := by
      cases hcodeLine : s.codeLine? ctx.startLine <;> cases i <;> simp_all
    rw [Int.natCast_zero, Int.add_zero, hfound]
  · cases hcodeLine : s.codeLine? ctx.startLine with
    | none => simp [hcode, hcodeLine] at hne
    | some line =>
      rw [hcode, hcodeLine, hend]
      show ctx.startLine = ctx.startLine + 1 - 1
      omega

/-- The lines from one number on are quoted in their order. -/
theorem codeLine?_of_codeLines {first last : Int} (hfirst : 1 ≤ first) {i : Nat}
    (h : (s.codeLines first last)[i]? = some line) : s.codeLine? (first + i) = some line := by
  unfold codeLines Text.slice at h
  rw [List.getElem?_drop, List.getElem?_take] at h
  split at h
  · have hlt := (List.getElem?_eq_some_iff.1 h).1
    have hcut : Text.cut s.retained.toList.length (max first 1 - 1)
        = min (max first 1 - 1).toNat s.retained.toList.length := by
      rw [Text.cut, if_neg (by omega)]
    have hskip : Text.cut s.retained.toList.length (max first 1 - 1) = (first - 1).toNat := by
      omega
    rw [hskip, Array.getElem?_toList] at h
    rw [show first + i = ((first - 1).toNat + i : Nat) + 1 by omega, codeLine?_succ, h]
  · cases h

/-! ## Faults -/

/-- The last line retained is the present one. -/
theorem codeLine?_size (h : 0 < s.retained.size) :
    s.codeLine? s.retained.size = some s.currentLine := by
  have hlt : s.retained.size - 1 < s.retained.size := by omega
  have hback : s.retained.back? = some s.retained[s.retained.size - 1] := by
    rw [Array.back?_eq_getElem?, Array.getElem?_eq_getElem hlt]
  rw [show (s.retained.size : Int) = (s.retained.size - 1 : Nat) + 1 by omega, codeLine?_succ,
    Array.getElem?_eq_getElem hlt, currentLine, hback]
  rfl

/-- In front of a character the present line is the last one retained. -/
theorem Counted.codeLine?_line (h : Counted s) (hrest : s.rest ≠ []) :
    s.codeLine? s.line = some s.currentLine := by
  have hline := h.line_eq hrest
  have hpos := h.line_pos
  rw [hline, codeLine?_size (by omega)]

theorem Counted.column_le (h : Counted s) (hrest : s.rest ≠ []) :
    s.column ≤ s.currentLine.length := by
  obtain ⟨consumed, hconsumed, hlength⟩ := h.exists_consumed hrest
  rw [← String.length_toList, hconsumed, List.length_append]
  omega

/-- The line in front of whose character the scanner stands is the code of the error. -/
theorem Counted.code_errorAt (h : Counted s) (hrest : s.rest ≠ []) (fault : Fault) :
    (s.errorAt fault).context.code = [s.currentLine] := by
  have hne : s.currentLine.isEmpty = false := by
    rw [Bool.eq_false_iff]
    intro hempty
    obtain ⟨consumed, hconsumed, -⟩ := h.exists_consumed hrest
    rw [String.isEmpty_iff.1 hempty] at hconsumed
    exact hrest (List.append_eq_nil_iff.1 hconsumed.symm).2
  simp [errorAt, hne]

theorem quotes_errorAt (h : Counted s) (hrest : s.rest ≠ []) (fault : Fault) :
    Quotes s (s.errorAt fault).context ∧ (s.errorAt fault).context.Within := by
  have hline := h.codeLine?_line hrest
  have hcolumn := h.column_le hrest
  have hcode := h.code_errorAt hrest fault
  refine ⟨quotes_line ?_ rfl, fun line hhead => ?_⟩
  · rw [hcode]
    show _ = (s.codeLine? s.line).toList
    rw [hline]
    rfl
  · rw [hcode] at hhead
    obtain rfl := Option.some.inj hhead
    exact ⟨Int.natCast_nonneg _, Int.ofNat_le.2 hcolumn⟩

/-! ## Places -/

theorem length_withoutLineEnd_le (text : String) :
    (Text.withoutLineEnd text).length ≤ text.length := by
  have hle := (List.dropWhile_sublist (· == '\n') (l := text.toList.reverse)).length_le
  rw [← String.length_toList, ← String.length_toList, Text.withoutLineEnd, String.toList_ofList,
    Text.dropTrailing, List.length_reverse]
  rwa [List.length_reverse] at hle

/-- Behind the end of a line its place is still one of that line. -/
theorem Counted.tokenColumn_markToken_le (h : Counted s) :
    s.markToken.tokenColumn ≤ s.currentLine.length := by
  simp only [Scanner.markToken]
  split
  · exact length_withoutLineEnd_le s.currentLine
  · rename_i hrest
    exact h.column_le (by simpa using hrest)

/-- The place that is marked fits its line: it lies in front of a character, or behind the last line
of the source. -/
theorem Counted.fits_markToken (h : Counted s) (hover : s.rest = [] → s.unread = []) :
    Fits s s.markToken.tokenLine s.markToken.tokenColumn := by
  refine ⟨Int.ofNat_le.2 h.line_pos, Int.natCast_nonneg _, fun t line hgrown hline => ?_⟩
  have hline : t.codeLine? s.line = some line := hline
  have hcurrent : s.currentLine = line := by
    by_cases hrest : s.rest = []
    · -- no line is left to be read, so the number is that of the last one or of none
      obtain ⟨n, hn, hget⟩ := exists_of_codeLine? hline
      rw [hgrown.retained_eq (hover hrest)] at hget
      have hlt := (Array.getElem?_eq_some_iff.1 hget).1
      have hlast : s.line = s.retained.size := by
        rcases h.line_eq_of_nil hrest with hsize | ⟨-, hsize⟩ <;> omega
      rw [currentLine, Array.back?_eq_getElem?, show s.retained.size - 1 = n by omega, hget]
      rfl
    · -- the line has been read, and it stays what it is
      have hsame := hgrown.codeLine?_eq (h.codeLine?_line hrest)
      rw [hline] at hsame
      exact (Option.some.inj hsame).symm
  rw [← hcurrent]
  exact Int.ofNat_le.2 h.tokenColumn_markToken_le

end Scanner

/-! ## Constructs -/

namespace ScopeFailure

variable {s : Scanner} {f : ScopeFailure}

/-- However many lines of a construct are shown, they are quoted. -/
theorem quotes_spanning (hctx : s.Quotes f.context) {last : Int} (hfirst : 1 ≤ f.firstLine)
    (hlines : f.lines = s.codeLines f.firstLine last) (n : Nat) (column : Option Int) :
    s.Quotes (f.spanning (f.lines.take n) column) := by
  unfold spanning
  split
  · exact ⟨hctx.codeLine_eq, hctx.endLine_eq⟩
  · refine ⟨fun i line hline => ?_, fun _ => rfl⟩
    have hline : (f.lines.take n)[i]? = some line := hline
    rw [List.getElem?_take] at hline
    split at hline
    · rw [hlines] at hline
      exact Scanner.codeLine?_of_codeLines hfirst hline
    · cases hline

/-- A diagnostic of a construct is at the token, or it spans lines of the construct. -/
theorem exists_spanning (f : ScopeFailure) (scope : String) :
    ∃ n column, (f.diagnose scope).context = f.spanning (f.lines.take n) column := by
  have hplain : ∃ n column, f.context = f.spanning (f.lines.take n) column := ⟨0, none, rfl⟩
  have hall (column : Option Int) :
      ∃ n column', f.spanning f.lines column = f.spanning (f.lines.take n) column' :=
    ⟨f.lines.length, column, by rw [List.take_length]⟩
  unfold diagnose
  split
  · rename_i handler hlookup
    obtain ⟨before, others, hhandled, -⟩ := List.lookup_eq_some_iff.1 hlookup
    have hmem : (scope, handler) ∈ handled := by simp [hhandled]
    simp only [handled, List.mem_cons, Prod.mk.injEq, List.not_mem_nil, or_false] at hmem
    rcases hmem with ⟨-, rfl⟩ | ⟨-, rfl⟩ | ⟨-, rfl⟩ | ⟨-, rfl⟩ | ⟨-, rfl⟩ | ⟨-, rfl⟩
    · exact hall _
    · exact hall _
    · -- of an empty service the first line only is shown
      unfold inService
      split
      · exact hplain
      · rename_i first others hlines
        split
        · exact ⟨1, _, by rw [hlines]; rfl⟩
        · exact hplain
    · unfold inImport
      split
      · exact hall _
      · exact hall _
    · exact hplain
    · exact hplain
  · exact hplain

end ScopeFailure

/-! ## Parsers -/

namespace Parser

variable {p : Parser}

/-- At the end of the file the last line with something in it is quoted. -/
theorem quotes_endOfFileContext (p : Parser) :
    p.scanner.Quotes p.endOfFileContext ∧ p.endOfFileContext.Within := by
  unfold endOfFileContext
  split
  · rename_i number text hlast
    unfold lastInkedLine? at hlast
    obtain ⟨⟨text', number'⟩, hmem, hink⟩ := List.exists_of_findSome?_eq_some hlast
    obtain ⟨hpos, hget⟩ :=
      List.mk_mem_zipIdx_iff_le_and_getElem?_sub.1 (List.mem_reverse.1 hmem)
    simp only [Option.ite_none_right_eq_some, Option.some.injEq, Prod.mk.injEq] at hink
    obtain ⟨-, rfl, rfl⟩ := hink
    have hline : p.scanner.codeLine? number' = some text' := by
      rw [show (number' : Int) = (number' - 1 : Nat) + 1 by omega, Scanner.codeLine?_succ,
        ← Array.getElem?_toList, hget]
    refine ⟨Scanner.quotes_line (by rw [hline]; rfl) rfl, fun line hhead => ?_⟩
    obtain rfl := Option.some.inj hhead
    exact ⟨Int.natCast_nonneg _, Int.ofNat_le.2 (Scanner.length_withoutLineEnd_le _)⟩
  · exact ⟨⟨nofun, absurd rfl⟩, nofun⟩

/-- The context of the current token, if the place of the token fits its line. -/
theorem quotes_context (hfits : p.scanner.Fits p.position.1 p.position.2) :
    p.scanner.Quotes p.context ∧ p.context.Within := by
  unfold context
  split
  · exact p.quotes_endOfFileContext
  · refine ⟨Scanner.quotes_line rfl rfl, fun line hhead => ⟨hfits.column_nonneg, ?_⟩⟩
    have hline : p.scanner.codeLine? p.position.1 = some line := by simpa using hhead
    exact hfits.column_le p.scanner line (.refl _) hline

/-- A token without content is pointed at from the character before it. -/
theorem quotes_unexpected (hfits : p.scanner.Fits p.position.1 p.position.2) (message : String)
    (expected : List String) : p.scanner.Quotes (p.unexpected message expected).context ∧
      (p.unexpected message expected).context.Within := by
  obtain ⟨hquotes, hwithin⟩ := p.quotes_context hfits
  unfold unexpected
  split
  · refine ⟨⟨hquotes.codeLine_eq, hquotes.endLine_eq⟩, fun line hhead => ?_⟩
    obtain ⟨hnonneg, hle⟩ := hwithin line hhead
    dsimp only
    omega
  · exact ⟨hquotes, hwithin⟩

theorem quotes_unexpectedIn (hfits : p.scanner.Fits p.position.1 p.position.2)
    (hfirst : 1 ≤ p.startLine) (r : Registry) (message : String) (name : Option String)
    (scope : String) : p.scanner.Quotes (p.unexpectedIn r message name scope).context := by
  unfold unexpectedIn
  obtain ⟨n, column, hspanning⟩ := ScopeFailure.exists_spanning
    { context := p.context, message, content := p.content, name, firstLine := p.startLine
      lines := p.scanner.codeLines p.startLine p.endLine, vocabulary := r.terms scope }
    scope
  rw [hspanning]
  exact ScopeFailure.quotes_spanning (p.quotes_context hfits).1 hfirst rfl n column

end Parser

end ServiceSyntax

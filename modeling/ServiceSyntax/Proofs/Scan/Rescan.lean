import ServiceSyntax.Proofs.Lexis.Printed
import ServiceSyntax.Proofs.Scan.Tokenize

/-!
# Printing and scanning again

The scanner gives printed tokens back, whatever separators and comments stand between them
(`tokenize_printed`). Printable tokens are the only ones that it gives, errors apart
(`printable_iff`).
-/

namespace ServiceSyntax

open Lexis

/-- What the grammar reads is what the scanner gives. -/
theorem tokenize_of_tokens {cs : List Char} {ts : List Token} (h : Lexis.tokens cs = .ok ts)
    (source : String) : tokenize (String.ofList cs) source = .ok ts := by
  rw [tokenize_eq_ok, String.toList_ofList]
  exact h

/-- Tokens with one space between them. -/
def oneSpaced : List Token → List (Token × List Char)
  | [] => []
  | [t] => [(t, [])]
  | t :: t' :: ts => (t, [' ']) :: oneSpaced (t' :: ts)

theorem fst_oneSpaced (ts : List Token) : (oneSpaced ts).map Prod.fst = ts := by
  fun_induction oneSpaced ts with
  | case1 => rfl
  | case2 t => rfl
  | case3 t t' ts ih => rw [List.map_cons, ih]

theorem spaced_oneSpaced (ts : List Token) : Spaced (oneSpaced ts) := by
  have hspace : IsSpace [' '] := ⟨.separator rfl .nil, by simp, by simp [IsBreak, Scan.isSeparator]⟩
  fun_induction oneSpaced ts with
  | case1 => trivial
  | case2 t => exact ⟨Or.inr ⟨rfl, rfl⟩, trivial⟩
  | case3 t t' ts ih => exact ⟨Or.inl hspace, ih⟩

theorem printed_oneSpaced (ts : List Token) :
    printed (oneSpaced ts) = (" ".intercalate (ts.map Token.text)).toList := by
  rw [String.toList_intercalate]
  fun_induction oneSpaced ts with
  | case1 => rfl
  | case2 t => simp [printed]
  | case3 t t' ts ih =>
    rw [printed, List.flatMap_cons, ← printed, ih]
    simp

/-- Printed tokens are scanned as these tokens: with any gap in front of them and with gaps that
keep them apart, in particular with one space between them. The text of a literal is scanned as its
content. -/
theorem tokenize_printed (source : String) :
    (∀ (lead : List Char) (pieces : List (Token × List Char)), IsGap lead → Spaced pieces →
        (∀ piece ∈ pieces, piece.1.Printable) →
        tokenize (String.ofList (lead ++ printed pieces)) source
          = .ok (pieces.map Prod.fst ++ [⟨.endOfFile, ""⟩])) ∧
      (∀ ts : List Token, (∀ t ∈ ts, t.Printable) →
        tokenize (" ".intercalate (ts.map Token.text)) source = .ok (ts ++ [⟨.endOfFile, ""⟩])) ∧
      ∀ content : String,
        tokenize (Token.text ⟨.string, content⟩) source
          = .ok [⟨.string, content⟩, ⟨.endOfFile, ""⟩] := by
  have hjoined : ∀ ts : List Token, (∀ t ∈ ts, t.Printable) →
      tokenize (" ".intercalate (ts.map Token.text)) source = .ok (ts ++ [⟨.endOfFile, ""⟩]) := by
    intro ts hts
    have hprintable : ∀ piece ∈ oneSpaced ts, piece.1.Printable := by
      intro piece hpiece
      apply hts
      rw [← fst_oneSpaced ts]
      exact List.mem_map_of_mem hpiece
    have htokens := tokens_printed (spaced_oneSpaced ts) hprintable .nil
    rw [List.nil_append, printed_oneSpaced, fst_oneSpaced] at htokens
    rw [← tokenize_of_tokens htokens source, String.ofList_toList]
  refine ⟨?_, hjoined, ?_⟩
  · intro lead pieces hlead hspaced hprintable
    exact tokenize_of_tokens (tokens_printed hspaced hprintable hlead) source
  · intro content
    have h := hjoined [⟨.string, content⟩] fun t ht => List.mem_singleton.1 ht ▸ .string content
    simpa using h

/-- A literal with a line break and a quote in it stands between comments. -/
theorem tokenize_printed_comments :
    tokenize "/**/out // (\n \"\\n\\\"\"\t/*b*/" "text"
      = .ok [⟨.keyword .out, ""⟩, ⟨.string, "\n\""⟩, ⟨.endOfFile, ""⟩] := by
  have hlead : IsGap ['/', '*', '*', '/'] := @IsGap.blockComment [] [] (by simp) .nil
  have hfirst : IsSpace [' ', '/', '/', ' ', '(', '\n', ' '] := by
    refine ⟨.separator rfl ?_, by simp, by simp [IsBreak, Scan.isSeparator]⟩
    exact @IsGap.lineComment [' ', '('] [' '] (by simp) (.separator rfl .nil)
  have hlast : IsSpace ['\t', '/', '*', 'b', '*', '/'] := by
    refine ⟨.separator rfl ?_, by simp, by simp [IsBreak, Scan.isSeparator]⟩
    exact @IsGap.blockComment ['b'] [] (by decide) .nil
  have htext : "/**/out // (\n \"\\n\\\"\"\t/*b*/" = String.ofList (['/', '*', '*', '/'] ++ printed
      [(⟨.keyword .out, ""⟩, [' ', '/', '/', ' ', '(', '\n', ' ']),
        (⟨.string, "\n\""⟩, ['\t', '/', '*', 'b', '*', '/'])]) := by
    rfl
  rw [htext]
  exact (tokenize_printed "text").1 _ _ hlead ⟨Or.inl hfirst, Or.inl hlast, trivial⟩
    (by simp [Token.Printable.keyword, Token.Printable.string])

/-- The printable tokens are those that a text can hold, but for errors and the end of the file. -/
theorem printable_iff {t : Token} :
    t.Printable ↔ t.kind ≠ .error ∧ t.kind ≠ .endOfFile ∧
      ∃ text source ts, tokenize text source = .ok ts ∧ t ∈ ts := by
  constructor
  · intro h
    have hspaced : Spaced [(t, [])] := ⟨Or.inr ⟨rfl, rfl⟩, trivial⟩
    have htokens := tokens_printed hspaced (fun _ hpiece => List.mem_singleton.1 hpiece ▸ h) .nil
    refine ⟨by cases h <;> simp, by cases h <;> simp, _, "", _, tokenize_of_tokens htokens "", ?_⟩
    simp
  · intro hparts
    obtain ⟨herror, hend, text, source, ts, htokenize, ht⟩ := hparts
    exact printable_of_mem_tokens (tokenize_eq_ok.1 htokenize) ht herror hend

end ServiceSyntax

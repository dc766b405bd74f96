import ServiceSyntax.Proofs.Lexis.Pieces

/-!
# Texts joined by a line feed

A line feed ends whatever a text ends with, except for a literal or a block comment that is never
closed. So the pieces of two texts with a line feed between them are those of the first one, and then
those of the second one with a longer gap in front (`pieces_joined`).
-/

namespace ServiceSyntax

open Scan Text

/-- The error for a literal or a block comment that is never closed. -/
def Token.isUnclosed (t : Token) : Bool :=
  t.kind = .error && (t.content.toList.head? = some '"' || t.content = "/*")

namespace Lexis

variable {cs gap written rest : List Char} {t : Token} {ps : List Piece}

/-! ## Lexemes -/

/-- Two characters settle which symbol a text begins with. -/
theorem symbol?_append {front : List Char} (h : 2 ≤ front.length) (cs : List Char) :
    symbol? (front ++ cs) = symbol? front := by
  rw [symbol?, symbol?, List.take_append_of_le_length h,
    List.take_append_of_le_length (Nat.le_of_succ_le h)]

/-- A line feed is part of no symbol. -/
theorem symbol?_newline {c : Char} (h : symbol? [c] = none) (cs : List Char) :
    symbol? (c :: '\n' :: cs) = none := by
  rw [symbol?, List.take_succ_cons, List.take_nil] at h
  have hpair : symbolOf? [c, '\n'] = none := by
    cases hsymbol : symbolOf? [c, '\n'] with
    | none => rfl
    | some symbol =>
      have hlexeme := lexeme_of_symbolOf? hsymbol
      cases symbol <;> simp [Symbol.lexeme] at hlexeme
  rw [symbol?, List.take_succ_cons, List.take_succ_cons, List.take_zero, hpair, Option.none_or,
    List.take_succ_cons, List.take_zero]
  exact (Option.or_eq_none_iff.1 h).1

private theorem head?_append_newline {p : Char → Prop} (hrest : ∀ x ∈ rest.head?, p x)
    (hnewline : p '\n') (cs : List Char) : ∀ x ∈ (rest ++ '\n' :: cs).head?, p x := by
  cases rest with
  | nil =>
    rintro x hx
    obtain rfl : '\n' = x := Option.some.inj hx
    exact hnewline
  | cons c rest => exact hrest

/-- A lexeme that has an end keeps it in front of a line feed. -/
theorem IsLexeme.joined (h : IsLexeme written t rest) (ht : t.isUnclosed = false)
    (cs : List Char) : IsLexeme written t (rest ++ '\n' :: cs) := by
  cases h with
  | word hletter hword hstop => exact .word hletter hword (head?_append_newline hstop rfl cs)
  | number hdigit hdigits hstop =>
    exact .number hdigit hdigits (head?_append_newline hstop rfl cs)
  | negative hdigit hdigits hstop =>
    exact .negative hdigit hdigits (head?_append_newline hstop rfl cs)
  | literal hspells => exact .literal hspells
  | unclosedLiteral => simp [Token.isUnclosed] at ht
  | unclosedComment => simp [Token.isUnclosed] at ht
  | @symbol symbol _ hsymbol hdivide hminus =>
    refine .symbol ?_ ?_ fun hsymbol => head?_append_newline (hminus hsymbol) rfl cs
    · cases rest with
      | nil =>
        -- only here the line feed is looked at, and it is a separator
        exact symbol?_lexeme symbol (by simp [IsBreak, isSeparator])
      | cons c rest =>
        have hlength : 2 ≤ (symbol.lexeme.toList ++ c :: rest).length := by
          have hpos := List.length_pos_iff.2 (IsLexeme.symbol hsymbol hdivide hminus).ne_nil
          rw [List.length_append, List.length_cons]
          omega
        rw [← List.append_assoc, symbol?_append hlength]
        exact hsymbol
    · intro heq
      cases rest with
      | nil => simp
      | cons c rest => exact hdivide heq
  | @error c _ hletter hdigit hquote hnone =>
    refine .error hletter hdigit hquote ?_
    cases rest with
    | nil => exact symbol?_newline hnone cs
    | cons d rest => exact (@symbol?_append (c :: d :: rest) (by simp) _).trans hnone

/-- In front of a line feed as well no gap begins where there is a lexeme that has an end. -/
theorem filler?_joined (h : filler? (written ++ rest) = none) (hlexeme : IsLexeme written t rest)
    (ht : t.isUnclosed = false) (cs : List Char) :
    filler? (written ++ (rest ++ '\n' :: cs)) = none := by
  obtain ⟨c, tail, htext⟩ :=
    List.exists_cons_of_ne_nil (List.append_ne_nil_of_left_ne_nil hlexeme.ne_nil rest)
  rw [htext] at h
  obtain ⟨hsep, hline, -⟩ := of_filler?_none h
  have hblock : c = '/' → tail.head? ≠ some '*' := by
    rintro rfl hhead
    -- the comment has no end
    obtain ⟨body, rfl⟩ := List.head?_eq_some_iff.1 hhead
    have hread := lexeme_eq_token.2 ⟨rfl, hlexeme⟩
    have hopen := lexeme_eq_token.2 ⟨(List.append_nil _).symm, @IsLexeme.unclosedComment body⟩
    rw [htext, hopen] at hread
    obtain ⟨-, rfl, -⟩ := Lexeme.token.inj hread
    cases ht
  have hhead {d : Char} (hd : d ≠ '\n') (hne : tail.head? ≠ some d) :
      (tail ++ '\n' :: cs).head? ≠ some d := by
    cases tail with
    | nil => simpa using hd.symm
    | cons => exact hne
  rw [← List.append_assoc, htext, List.cons_append, filler?, if_neg (by simp [hsep]),
    if_neg fun hopen => hhead (by decide) (hline hopen.1) hopen.2,
    if_neg fun hopen => hhead (by decide) (hblock hopen.1) hopen.2]

/-! ## Readings -/

/-- A token that has an end is read in front of a line feed as well. -/
theorem read_joined (h : read cs = ⟨gap, .token written t rest⟩) (ht : t.isUnclosed = false)
    (others : List Char) :
    read (cs ++ '\n' :: others) = ⟨gap, .token written t (rest ++ '\n' :: others)⟩ := by
  obtain ⟨rfl, hlexeme⟩ := append_of_read h
  obtain ⟨hgap, hlex⟩ := Reading.mk.inj h
  have hnone : filler? (written ++ rest) = none := by
    rw [← (lexeme_eq_token.1 hlex).1]
    exact filler?_skip _
  rw [List.append_assoc, List.append_assoc,
    read_append (isGap_of_read h) (filler?_joined hnone hlexeme ht others),
    lexeme_eq_token.2 ⟨rfl, hlexeme.joined ht others⟩]

/-- A line feed closes the gap at the end of a text. -/
theorem isGap_concat (h : (skip cs).2 = []) : IsGap ((skip cs).1 ++ ['\n']) := by
  fun_induction skip cs with
  | case1 => exact .separator rfl .nil
  | case2 cs filler rest hfiller ih =>
    have hgap := ih h
    cases (filler?_eq_some.1 hfiller).2 with
    | separator hsep => exact .separator hsep hgap
    | blockComment hbody => simpa using IsGap.blockComment hbody hgap
    | @lineComment body _ hbody hrest =>
      rcases hrest with rfl | hhead
      · rw [skip_of_none rfl]
        simpa using IsGap.lineComment hbody .nil
      · -- the line feed that ends the comment is skipped next
        obtain ⟨tail, rfl⟩ := List.head?_eq_some_iff.1 hhead
        have hend : filler? ('\n' :: tail) = some (['\n'], tail) :=
          filler?_eq_some.2 ⟨rfl, .separator rfl⟩
        rw [skip_of_some hend] at hgap ⊢
        cases hgap with
        | separator _ hgap => simpa using IsGap.lineComment hbody hgap

/-- Behind the end of a text and a line feed the next text is read, with a longer gap. -/
theorem read_of_joined (h : read cs = ⟨gap, .endOfText⟩) (others : List Char) :
    read (cs ++ '\n' :: others)
      = ⟨gap ++ '\n' :: (read others).gap, (read others).lexeme⟩ := by
  obtain ⟨hskip, rfl⟩ := of_read_endOfText h
  have hgap := isGap_concat (congrArg Prod.snd hskip)
  rw [hskip] at hgap
  have htext : gap ++ '\n' :: others = gap ++ ['\n'] ++ others := by simp
  rw [htext, read, skip_append hgap]
  simp [read]

/-! ## Pieces -/

/-- The pieces of a text with something more in front of its first gap. -/
def behind (lead : List Char) : List Piece → List Piece
  | [] => []
  | p :: ps => { p with gap := lead ++ p.gap } :: ps

theorem map_token_behind (lead : List Char) (ps : List Piece) :
    (behind lead ps).map Piece.token = ps.map Piece.token := by
  cases ps <;> rfl

theorem pieces_behind {lead : List Char} {others : List Char}
    (h : read cs = ⟨lead ++ (read others).gap, (read others).lexeme⟩) :
    pieces cs = (pieces others).map (behind lead) := by
  cases hread : read others with
  | mk gap lex =>
    rw [hread] at h
    cases lex with
    | token written t rest =>
      rw [pieces_of_token h, pieces_of_token hread]
      cases pieces rest <;> rfl
    | endOfText =>
      rw [pieces_of_endOfText h, pieces_of_endOfText hread]
      rfl
    | malformed written rest =>
      rw [pieces_of_malformed h, pieces_of_malformed hread]
      rfl

/-- Where all that a text begins has an end there, a line feed and another text behind it leave its
pieces as they are, up to its last gap. -/
theorem pieces_joined (h : pieces cs = .ok (ps ++ [.last gap]))
    (hclosed : ∀ p ∈ ps, p.token.isUnclosed = false) (others : List Char) :
    pieces (cs ++ '\n' :: others)
      = (pieces others).map fun ps' => ps ++ behind (gap ++ ['\n']) ps' := by
  fun_induction pieces cs generalizing ps with
  | case1 cs gap' written t rest hread ih =>
    obtain ⟨ps', hrest, hpieces⟩ := map_eq_ok.1 h
    cases ps with
    | nil =>
      -- a token is no end of the text
      obtain ⟨hpiece, -⟩ := List.cons.inj hpieces
      have hne := (append_of_read hread).2.ne_nil
      exact absurd (congrArg Piece.written hpiece) hne
    | cons p ps =>
      obtain ⟨rfl, rfl⟩ := List.cons.inj hpieces
      rw [List.forall_mem_cons] at hclosed
      rw [pieces_of_token (read_joined hread hclosed.1 others), ih hrest hclosed.2]
      cases pieces others <;> rfl
  | case2 cs gap' hread =>
    obtain ⟨rfl, hlast⟩ : ps = [] ∧ gap' = gap := by
      cases ps with
      | nil => simpa [Piece.last] using Except.ok.inj h
      | cons p ps => simp at h
    subst hlast
    refine pieces_behind ?_
    rw [read_of_joined hread others]
    simp
  | case3 => cases h

end Lexis

end ServiceSyntax

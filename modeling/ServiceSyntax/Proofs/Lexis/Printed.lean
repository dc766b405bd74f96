import ServiceSyntax.Proofs.Lexis.Reading

/-!
# Printed tokens

The text of a token, followed by a separator or by nothing, is a lexeme of that token
(`isLexeme_text`). So tokens that are printed with gaps between them are read back
(`tokens_printed`).
-/

namespace ServiceSyntax

open Scan Text

/-- The tokens that a text can hold, other than errors. -/
inductive Token.Printable : Token → Prop
  | identifier {c : Char} {word : List Char} : isLetter c = true →
      (∀ x ∈ word, isWordChar x = true) →
      Keyword.ofLexeme? (String.ofList (c :: word)) = none →
      Printable ⟨.identifier, String.ofList (c :: word)⟩
  | number {c : Char} {digits : List Char} : (∀ x ∈ c :: digits, isDigit x = true) →
      Printable ⟨.integer, String.ofList (c :: digits)⟩
  | negative {c : Char} {digits : List Char} : (∀ x ∈ c :: digits, isDigit x = true) →
      Printable ⟨.integer, String.ofList ('-' :: c :: digits)⟩
  | string (content : String) : Printable ⟨.string, content⟩
  | symbol (symbol : Symbol) : Printable ⟨.symbol symbol, ""⟩
  | keyword (keyword : Keyword) : Printable ⟨.keyword keyword, ""⟩

namespace Lexis

/-- A lexeme that is no error stands for a printable token. -/
theorem IsLexeme.printable {written rest : List Char} {t : Token} (h : IsLexeme written t rest)
    (ht : t.kind ≠ .error) : t.Printable := by
  cases h with
  | @word c word _ hletter hchars =>
    rw [wordToken_eq_ofWord, Token.ofWord]
    split
    · exact .keyword _
    · rename_i hkeyword
      exact .identifier hletter hchars hkeyword
  | number hdigit hdigits => exact .number (List.forall_mem_cons.2 ⟨hdigit, hdigits⟩)
  | negative hdigit hdigits => exact .negative (List.forall_mem_cons.2 ⟨hdigit, hdigits⟩)
  | literal => exact .string _
  | symbol => exact .symbol _
  | unclosedLiteral => exact absurd rfl ht
  | unclosedComment => exact absurd rfl ht
  | error => exact absurd rfl ht

/-- All tokens of a text are printable, but for errors and the end of the file. -/
theorem printable_of_mem_tokens {cs : List Char} {ts : List Token} (h : tokens cs = .ok ts)
    {t : Token} (ht : t ∈ ts) (herror : t.kind ≠ .error) (hend : t.kind ≠ .endOfFile) :
    t.Printable := by
  fun_induction tokens cs generalizing ts with
  | case1 cs gap written t' rest hread ih =>
    cases htokens : tokens rest with
    | error r => rw [htokens] at h; cases h
    | ok ts' =>
      rw [htokens] at h
      obtain rfl := Except.ok.inj h
      rcases List.mem_cons.1 ht with rfl | ht
      · exact (append_of_read hread).2.printable herror
      · exact ih htokens ht
  | case2 =>
    obtain rfl := Except.ok.inj h
    obtain rfl := List.mem_singleton.1 ht
    exact absurd rfl hend
  | case3 => cases h

/-! ## Separators -/

theorem isDigit_of_isSeparator {c : Char} (h : isSeparator c = true) : isDigit c = false := by
  have hword := isWordChar_of_isSeparator h
  rw [isWordChar, Bool.or_eq_false_iff, Bool.or_eq_false_iff] at hword
  exact hword.1.2

/-- Behind it a lexeme is over. -/
def IsBreak (rest : List Char) : Prop := ∀ c ∈ rest.head?, isSeparator c = true

theorem IsBreak.head_ne {rest : List Char} (h : IsBreak rest) {c : Char}
    (hc : isSeparator c = false) : rest.head? ≠ some c := by
  intro hhead
  rw [h c hhead] at hc
  cases hc

/-! ## The text of a token -/

theorem symbol?_lexeme (s : Symbol) {rest : List Char} (hrest : IsBreak rest) :
    symbol? (s.lexeme.toList ++ rest) = some s := by
  have hshape : (∃ c, s.lexeme.toList = [c]) ∨ ∃ c d, s.lexeme.toList = [c, d] := by
    cases s <;> first | exact Or.inl ⟨_, rfl⟩ | exact Or.inr ⟨_, _, rfl⟩
  rcases hshape with ⟨c, hc⟩ | ⟨c, d, hcd⟩
  · rw [hc]
    apply symbol?_of_single hc
    -- the second character of a longer symbol would be a separator
    intro long d hlong
    have hsecond : long.lexeme.toList.all (fun x => !isSeparator x) = true := by
      cases long <;> decide
    rw [hlong, List.all_eq_true] at hsecond
    have hd := hsecond d (List.mem_cons_of_mem c List.mem_cons_self)
    apply hrest.head_ne
    simpa using hd
  · rw [hcd]
    exact symbol?_of_pair hcd rest

theorem wordToken_lexeme (k : Keyword) : wordToken k.lexeme = ⟨.keyword k, ""⟩ := by
  cases k <;> rfl

/-- A keyword is a word. -/
theorem exists_word_of_keyword (k : Keyword) : ∃ c word, k.lexeme.toList = c :: word ∧
    isLetter c = true ∧ ∀ x ∈ word, isWordChar x = true := by
  have hspelt :
      (k.lexeme.toList.head?.any isLetter && k.lexeme.toList.tail.all isWordChar) = true := by
    cases k <;> decide
  rw [Bool.and_eq_true, Option.any_eq_true, List.all_eq_true] at hspelt
  obtain ⟨⟨c, hhead, hletter⟩, hchars⟩ := hspelt
  obtain ⟨word, hcw⟩ := List.head?_eq_some_iff.1 hhead
  rw [hcw] at hchars
  exact ⟨c, word, hcw, hletter, hchars⟩

/-- The text of a token is a lexeme of it. -/
theorem isLexeme_text {t : Token} (h : t.Printable) {rest : List Char} (hrest : IsBreak rest) :
    IsLexeme t.text.toList t rest := by
  have hword : ∀ x ∈ rest.head?, isWordChar x = false :=
    fun x hx => isWordChar_of_isSeparator (hrest x hx)
  have hdigit : ∀ x ∈ rest.head?, isDigit x = false :=
    fun x hx => isDigit_of_isSeparator (hrest x hx)
  cases h with
  | @identifier c word hletter hchars hkeyword =>
    have hof : wordToken (String.ofList (c :: word))
        = ⟨.identifier, String.ofList (c :: word)⟩ := by
      rw [wordToken_eq_ofWord, Token.ofWord, hkeyword]
    have hlexeme := IsLexeme.word hletter hchars hword
    rw [hof] at hlexeme
    simpa [Token.text] using hlexeme
  | @number c digits hdigits =>
    rw [List.forall_mem_cons] at hdigits
    simpa [Token.text] using IsLexeme.number hdigits.1 hdigits.2 hdigit
  | @negative c digits hdigits =>
    rw [List.forall_mem_cons] at hdigits
    simpa [Token.text] using IsLexeme.negative hdigits.1 hdigits.2 hdigit
  | string content =>
    have hlexeme := @IsLexeme.literal _ _ rest (spells_escaped content.toList)
    simpa [Token.text, Token.literal] using hlexeme
  | symbol symbol =>
    show IsLexeme symbol.lexeme.toList ⟨.symbol symbol, ""⟩ rest
    exact .symbol (symbol?_lexeme symbol hrest) (fun _ => hrest.head_ne rfl) (fun _ => hdigit)
  | keyword keyword =>
    obtain ⟨c, word, hcw, hletter, hchars⟩ := exists_word_of_keyword keyword
    have hlexeme := IsLexeme.word hletter hchars hword
    rw [← hcw, String.ofList_toList, wordToken_lexeme] at hlexeme
    exact hlexeme

theorem filler?_of_ne {c : Char} (hsep : isSeparator c = false) (hslash : c ≠ '/')
    (cs : List Char) : filler? (c :: cs) = none := by
  rw [filler?, if_neg (by simp [hsep]), if_neg fun h => hslash h.1, if_neg fun h => hslash h.1]

theorem filler?_of_isWordChar {c : Char} (h : isWordChar c = true) (cs : List Char) :
    filler? (c :: cs) = none := by
  apply filler?_of_ne (isSeparator_of_isWordChar h)
  intro heq
  rw [heq] at h
  revert h
  decide

theorem filler?_lexeme (s : Symbol) {rest : List Char} (hrest : IsBreak rest) :
    filler? (s.lexeme.toList ++ rest) = none := by
  have hfirst : s = .divide ∨
      (s.lexeme.toList.head?.any fun c => !isSeparator c && c != '/') = true := by
    cases s <;> decide
  rcases hfirst with rfl | hfirst
  · show filler? ('/' :: rest) = none
    rw [filler?, if_neg (by decide), if_neg fun h => hrest.head_ne rfl h.2,
      if_neg fun h => hrest.head_ne rfl h.2]
  · rw [Option.any_eq_true] at hfirst
    obtain ⟨c, hhead, hc⟩ := hfirst
    obtain ⟨tail, htail⟩ := List.head?_eq_some_iff.1 hhead
    rw [Bool.and_eq_true, Bool.not_eq_true', bne_iff_ne] at hc
    rw [htail]
    exact filler?_of_ne hc.1 hc.2 _

/-- The text of a token does not begin with a separator or a comment. -/
theorem filler?_text {t : Token} (h : t.Printable) {rest : List Char} (hrest : IsBreak rest) :
    filler? (t.text.toList ++ rest) = none := by
  cases h with
  | @identifier c word hletter =>
    simpa [Token.text] using filler?_of_isWordChar (by simp [isWordChar, hletter]) _
  | @number c digits hdigits =>
    have hdigit := hdigits c List.mem_cons_self
    simpa [Token.text] using filler?_of_isWordChar (by simp [isWordChar, hdigit]) _
  | @negative c digits =>
    simpa [Token.text] using filler?_of_ne rfl (by decide) _
  | string content =>
    simpa [Token.text, Token.literal] using filler?_of_ne rfl (by decide) _
  | symbol symbol => exact filler?_lexeme symbol hrest
  | keyword keyword =>
    obtain ⟨c, word, hcw, hletter, -⟩ := exists_word_of_keyword keyword
    show filler? (keyword.lexeme.toList ++ rest) = none
    rw [hcw]
    exact filler?_of_isWordChar (by simp [isWordChar, hletter]) _

/-- Behind a gap the text of a token is read as the token. -/
theorem read_text {t : Token} (h : t.Printable) {gap rest : List Char} (hgap : IsGap gap)
    (hrest : IsBreak rest) :
    read (gap ++ (t.text.toList ++ rest)) = ⟨gap, .token t.text.toList t rest⟩ := by
  rw [read_append hgap (filler?_text h hrest), lexeme_eq_token.2 ⟨rfl, isLexeme_text h hrest⟩]

/-! ## Texts of many tokens -/

/-- A gap that begins with a separator. -/
def IsSpace (gap : List Char) : Prop := IsGap gap ∧ gap ≠ [] ∧ IsBreak gap

/-- The gaps behind tokens keep them apart; the last one may be empty. -/
def Spaced : List (Token × List Char) → Prop
  | [] => True
  | (_, gap) :: pieces => (IsSpace gap ∨ gap = [] ∧ pieces = []) ∧ Spaced pieces

/-- The texts of tokens, each with the gap behind it. -/
def printed (pieces : List (Token × List Char)) : List Char :=
  pieces.flatMap fun (t, gap) => t.text.toList ++ gap

/-- Tokens that are printed with gaps between them are read back. -/
theorem tokens_printed {pieces : List (Token × List Char)} (hspaced : Spaced pieces)
    (hprintable : ∀ piece ∈ pieces, piece.1.Printable) {lead : List Char} (hlead : IsGap lead) :
    tokens (lead ++ printed pieces) = .ok (pieces.map Prod.fst ++ [⟨.endOfFile, ""⟩]) := by
  induction pieces generalizing lead with
  | nil => exact tokens_of_endOfText (read_append hlead rfl)
  | cons piece pieces ih =>
    obtain ⟨t, gap⟩ := piece
    obtain ⟨hgap, hspaced⟩ := hspaced
    rw [List.forall_mem_cons] at hprintable
    -- the next text begins behind the gap, and without a gap there is none
    obtain ⟨hisGap, hbreak⟩ : IsGap gap ∧ IsBreak (gap ++ printed pieces) := by
      rcases hgap with ⟨hisGap, hne, hbreak⟩ | ⟨rfl, rfl⟩
      · refine ⟨hisGap, fun c hc => hbreak c ?_⟩
        obtain ⟨d, tail, rfl⟩ := List.exists_cons_of_ne_nil hne
        exact hc
      · exact ⟨.nil, by simp [IsBreak, printed]⟩
    have htext : printed ((t, gap) :: pieces) = t.text.toList ++ (gap ++ printed pieces) := by
      rw [printed, List.flatMap_cons, List.append_assoc]
      rfl
    rw [htext, tokens_of_token (read_text hprintable.1 hlead hbreak),
      ih hspaced hprintable.2 hisGap]
    rfl

end Lexis

end ServiceSyntax

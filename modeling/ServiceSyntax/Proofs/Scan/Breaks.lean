import ServiceSyntax.Proofs.Scan.Tokenize

/-!
# Line breaks between tokens

In layout mode the scanner stops behind every separator and every comment of a gap that holds a line
break (`exists_marks`), and it gives the token behind the gap at the same place as outside layout
mode. So between two tokens it gives as many line breaks as the gap has (`breaks_between_tokens`).
-/

namespace ServiceSyntax

open Scan Text Lexis

/-- How many line breaks stand in front of each token that is none; `met` of them have been met in
front of the first one. -/
def breakCounts (met : Nat) : List Located → List Nat
  | [] => []
  | located :: others =>
    if located.token.kind = .newline then breakCounts (met + 1) others
    else met :: breakCounts 0 others

/-- The tokens that are no line breaks. -/
def withoutBreaks (marks : List Located) : List Located :=
  marks.filter fun located => located.token.kind ≠ .newline

variable {marks others : List Located} {located : Located}

theorem breakCounts_append (hmarks : ∀ mark ∈ marks, mark.token.kind = .newline)
    (hlocated : located.token.kind ≠ .newline) (met : Nat) (others : List Located) :
    breakCounts met (marks ++ located :: others)
      = (met + marks.length) :: breakCounts 0 others := by
  induction marks generalizing met with
  | nil => rw [List.nil_append, breakCounts, if_neg hlocated, List.length_nil, Nat.add_zero]
  | cons mark marks ih =>
    rw [List.forall_mem_cons] at hmarks
    rw [List.cons_append, breakCounts, if_pos hmarks.1, ih hmarks.2, List.length_cons,
      Nat.add_right_comm, Nat.add_assoc]

theorem withoutBreaks_append (hmarks : ∀ mark ∈ marks, mark.token.kind = .newline)
    (hlocated : located.token.kind ≠ .newline) (others : List Located) :
    withoutBreaks (marks ++ located :: others) = located :: withoutBreaks others := by
  have hnone : marks.filter (fun located => located.token.kind ≠ .newline) = [] := by
    simpa [List.filter_eq_nil_iff] using hmarks
  rw [withoutBreaks, List.filter_append, hnone, List.nil_append,
    List.filter_cons_of_pos (by simpa using hlocated), withoutBreaks]

namespace Scanner

variable {s s' : Scanner} {before cs : List Char}

/-! ## Gaps -/

/-- Where no line break has been noted the scanner need not forget one. -/
theorem next_of_unmet (h : s.metNewline = false) : s.next = s.resume .start "" := by
  have hs : { s with metNewline := false } = s := by rw [← h]
  rw [next, resume, hs]

theorem tokens_congr (h : s.next = s'.next) : s.tokens.1 = s'.tokens.1 := by
  cases hnext : s'.next with
  | mk result t =>
    rw [hnext] at h
    cases result with
    | error e => rw [tokens_of_error h, tokens_of_error hnext]
    | ok token =>
      by_cases hend : token = ⟨.endOfFile, ""⟩
      · subst hend
        rw [tokens_of_endOfFile h, tokens_of_endOfFile hnext]
      · rw [tokens_of_token h hend, tokens_of_token hnext hend]

/-- In layout mode the scanner gives the line breaks of a gap one by one, and then it stands behind
the gap. -/
theorem exists_marks (h : Stands s before cs) (hlayout : s.layout = true) :
    ∃ s' marks, Stands s' (before ++ (skip cs).1) (skip cs).2 ∧ s'.layout = true ∧
      s.tokens.1 = s'.tokens.1.map (marks ++ ·) ∧
      (∀ mark ∈ marks, mark.token.kind = .newline) ∧
      marks.length = (fillers cs).countP (List.contains · '\n') := by
  fun_induction skip cs generalizing s before with
  | case1 cs hnone =>
    refine ⟨s, [], by simpa using h, hlayout, ?_, List.forall_mem_nil _, ?_⟩
    · cases s.tokens.1 <;> rfl
    · rw [fillers_of_none hnone]
      rfl
  | case2 cs filler rest hfiller ih =>
    rw [fillers_of_some hfiller]
    cases hmem : filler.contains '\n' with
    | false =>
      -- the same call goes on behind the filler
      obtain ⟨s₁, hs₁, hon₁, heq₁⟩ := resume_filler (h.note false) hfiller
        fun _ => ⟨rfl, by simpa using hmem⟩
      have hmet : s₁.metNewline = false := by rw [hon₁.metNewline_eq, hmem]; rfl
      have hnext : s.next = s₁.next := heq₁.trans (next_of_unmet hmet).symm
      obtain ⟨s', marks, hs', hlayout', htokens, hmarks, hlength⟩ :=
        ih hs₁ (hon₁.layout_eq.trans hlayout)
      refine ⟨s', marks, by rwa [List.append_assoc] at hs', hlayout', ?_, hmarks, ?_⟩
      · rw [tokens_congr hnext, htokens]
      · rw [hlength, List.countP_cons_of_neg (by simpa using hmem)]
    | true =>
      -- the call is over behind the filler, and the next one starts there
      obtain ⟨s₁, hs₁, hon₁, heq₁⟩ := resume_break (h.note false) hlayout hfiller
        (List.contains_iff_mem.1 hmem)
      have hnext : s.next = (.ok ⟨.newline, ""⟩, s₁) := heq₁
      obtain ⟨s', marks, hs', hlayout', htokens, hmarks, hlength⟩ :=
        ih hs₁ (hon₁.layout_eq.trans hlayout)
      refine ⟨s', s₁.locate ⟨.newline, ""⟩ :: marks, by rwa [List.append_assoc] at hs', hlayout',
        ?_, List.forall_mem_cons.2 ⟨rfl, hmarks⟩, ?_⟩
      · rw [tokens_of_token hnext (by simp), htokens]
        cases s'.tokens.1 <;> rfl
      · rw [List.length_cons, hlength, List.countP_cons_of_pos (by simpa using hmem)]

/-! ## Texts -/

/-- Behind the line breaks of a gap the scanner reads the lexeme. -/
private theorem exists_of_read (h : Stands s before cs) (hlayout : s.layout = true) :
    ∃ (s₁ s' : Scanner) (result : Except ScanError Token) (marks : List Located),
      s.tokens.1 = s₁.tokens.1.map (marks ++ ·) ∧ s₁.next = (result, s') ∧ s'.layout = true ∧
      Ends (before ++ (read cs).gap) s' (read cs).lexeme result ∧
      (∀ mark ∈ marks, mark.token.kind = .newline) ∧
      marks.length = lineBreaks (read cs).gap := by
  obtain ⟨s₁, marks, hs₁, hlayout₁, htokens, hmarks, hlength⟩ := exists_marks h hlayout
  obtain ⟨s', result, hnext, hon, hends⟩ := reads_lexeme (hs₁.note false) (filler?_skip cs)
  exact ⟨s₁, s', result, marks, htokens, hnext, hon.layout_eq.trans hlayout₁, hends, hmarks,
    hlength.trans (lineBreaks_skip cs).symm⟩

/-- In layout mode the tokens of the pieces are given, each behind the line breaks of its gap. -/
theorem exists_marks_of_pieces {ps : List Piece} (h : Stands s before cs)
    (hlayout : s.layout = true) (hps : pieces cs = .ok ps) :
    ∃ marks, s.tokens.1 = .ok marks ∧ withoutBreaks marks = locateAll before ps ∧
      breakCounts 0 marks = ps.map fun p => lineBreaks p.gap := by
  fun_induction pieces cs generalizing s before ps with
  | case1 cs gap written t rest hread ih =>
    obtain ⟨s₁, s', result, marks, htokens, hnext, hlayout', hends, hmarks, hlength⟩ :=
      exists_of_read h hlayout
    rw [hread] at hends hlength
    obtain ⟨-, hlexeme⟩ := append_of_read hread
    obtain ⟨hfile, hbreak⟩ := hlexeme.kind_ne
    have hne : t ≠ ⟨.endOfFile, ""⟩ := fun heq => hfile (congrArg Token.kind heq)
    have hlocate := hends.locate_eq hne
    obtain ⟨hs', -, rfl⟩ := hends
    obtain ⟨others, hrest, rfl⟩ := map_eq_ok.1 hps
    rw [List.append_assoc] at hs'
    obtain ⟨tail, htail, hwithout, hcounts⟩ := ih hs' hlayout' hrest
    have hgiven : s.tokens.1 = .ok (marks ++ s'.locate t :: tail) := by
      rw [htokens, tokens_of_token hnext hne, htail]
      rfl
    refine ⟨_, hgiven, ?_, ?_⟩
    · rw [withoutBreaks_append hmarks hbreak, hwithout, hlocate]
      rfl
    · rw [breakCounts_append hmarks hbreak, hcounts, hlength, Nat.zero_add]
      rfl
  | case2 cs gap hread =>
    -- the end of the file comes behind its line breaks like any other token
    obtain ⟨s₁, s', result, marks, htokens, hnext, -, hends, hmarks, hlength⟩ :=
      exists_of_read h hlayout
    rw [hread] at hends hlength
    have hlocate := hends.locate_last
    obtain ⟨-, -, -, rfl⟩ := hends
    obtain rfl := Except.ok.inj hps
    have hgiven : s.tokens.1 = .ok (marks ++ [s'.locate ⟨.endOfFile, ""⟩]) := by
      rw [htokens, tokens_of_endOfFile hnext]
      rfl
    refine ⟨_, hgiven, ?_, ?_⟩
    · rw [withoutBreaks_append hmarks (by simp [locate]), hlocate]
      rfl
    · rw [breakCounts_append hmarks (by simp [locate]), hlength, Nat.zero_add]
      rfl
  | case3 => cases hps

end Scanner

/-- A text that can be scanned is given in layout mode with line breaks between its tokens, which are
otherwise the same and at the same places. Between two tokens, and in front of the first one and the
last one, there are as many as the gap has: its line feeds outside comments, and its block comments
over several lines. The gaps are made up of separators and comments, so none is for a literal or a
comment that is never closed. -/
theorem breaks_between_tokens {text source : String} {plain : List Located}
    (h : (Scanner.ofText text source).tokens.1 = .ok plain) :
    ∃ (ps : List Piece) (marks : List Located), pieces text.toList = .ok ps ∧
      ps.flatMap Piece.chars = text.toList ∧
      (∀ p ∈ ps, (fillers p.gap).flatten = p.gap) ∧
      locateAll [] ps = plain ∧
      (Scanner.ofText text source true).tokens.1 = .ok marks ∧
      withoutBreaks marks = plain ∧
      breakCounts 0 marks = ps.map fun p => lineBreaks p.gap := by
  obtain ⟨ps, hps, rfl⟩ := Scanner.exists_pieces_of_tokens h
  obtain ⟨-, -, -, -, hchars⟩ := exists_of_pieces_ok hps
  obtain ⟨marks, hmarks, hwithout, hcounts⟩ :=
    Scanner.exists_marks_of_pieces (Scanner.stands_ofText text source true) rfl hps
  exact ⟨ps, marks, hps, hchars, fun p hp => flatten_fillers_of_mem hps hp, rfl, hmarks, hwithout,
    hcounts⟩

/-- A literal over two lines, and a comment over two lines behind it. Only that of the comment is a
line break between tokens. -/
theorem breaks_between_tokens_comment :
    let plain : List Located := [⟨⟨.string, "\n"⟩, 1, 0⟩, ⟨⟨.endOfFile, ""⟩, 3, 2⟩]
    let marks : List Located :=
      [⟨⟨.string, "\n"⟩, 1, 0⟩, ⟨⟨.newline, ""⟩, 3, 2⟩, ⟨⟨.endOfFile, ""⟩, 3, 2⟩]
    (Scanner.ofText "\"\n\"/*\n*/" "text").tokens.1 = .ok plain ∧
      (Scanner.ofText "\"\n\"/*\n*/" "text" true).tokens.1 = .ok marks ∧
      withoutBreaks marks = plain ∧
      ∃ ps, pieces "\"\n\"/*\n*/".toList = .ok ps ∧ ps.map (fun p => lineBreaks p.gap) = [0, 1] := by
  intro plain marks
  have hplain : (Scanner.ofText "\"\n\"/*\n*/" "text").tokens.1 = .ok plain := by
    let s : Scanner := .ofText "\"\n\"/*\n*/" "text"
    have hnext : s.next = (.ok ⟨.string, "\n"⟩, s.next.2) := Prod.ext rfl rfl
    have hend : s.next.2.next = (.ok ⟨.endOfFile, ""⟩, s.next.2.next.2) := Prod.ext rfl rfl
    rw [Scanner.tokens_of_token hnext (by decide), Scanner.tokens_of_endOfFile hend]
    exact congrArg Except.ok (by decide +kernel)
  have hlayout : (Scanner.ofText "\"\n\"/*\n*/" "text" true).tokens.1 = .ok marks := by
    let s : Scanner := .ofText "\"\n\"/*\n*/" "text" true
    have hnext : s.next = (.ok ⟨.string, "\n"⟩, s.next.2) := Prod.ext rfl rfl
    have hbreak : s.next.2.next = (.ok ⟨.newline, ""⟩, s.next.2.next.2) := Prod.ext rfl rfl
    have hend : s.next.2.next.2.next = (.ok ⟨.endOfFile, ""⟩, s.next.2.next.2.next.2) :=
      Prod.ext rfl rfl
    rw [Scanner.tokens_of_token hnext (by decide), Scanner.tokens_of_token hbreak (by decide),
      Scanner.tokens_of_endOfFile hend]
    exact congrArg Except.ok (by decide +kernel)
  obtain ⟨ps, marks', hps, -, -, -, hmarks, hwithout, hcounts⟩ := breaks_between_tokens hplain
  obtain rfl := Except.ok.inj (hlayout.symm.trans hmarks)
  exact ⟨hplain, hlayout, hwithout, ps, hps, hcounts.symm⟩

end ServiceSyntax

import ServiceSyntax.Proofs.Lexis.Printed

/-!
# The pieces of a text

A text that can be read is divided into pieces, each of them a gap and the lexeme behind it; at the
end of the text there is a gap and nothing behind it. `pieces` gives them in order. A gap is divided
once more, into separators and comments (`fillers`), and those that hold a line break are counted
(`lineBreaks`).
-/

namespace ServiceSyntax.Lexis

open Scan

/-! ## Pieces -/

/-- A gap, what is written behind it, and the token that this stands for. -/
structure Piece where
  gap : List Char
  written : List Char
  token : Token
deriving Repr, DecidableEq

/-- The characters of a piece. -/
def Piece.chars (p : Piece) : List Char := p.gap ++ p.written

/-- The last piece of a text. -/
def Piece.last (gap : List Char) : Piece := ⟨gap, [], ⟨.endOfFile, ""⟩⟩

/-- The pieces of a text, the end of the text last; or else what is left of the text from the
character on that a backslash does not escape. -/
def pieces (cs : List Char) : Except (List Char) (List Piece) :=
  match _h : read cs with
  | ⟨gap, .token written t rest⟩ => (pieces rest).map (⟨gap, written, t⟩ :: ·)
  | ⟨gap, .endOfText⟩ => .ok [.last gap]
  | ⟨_, .malformed _ rest⟩ => .error rest
termination_by cs.length
decreasing_by exact length_of_read _h

variable {cs gap written rest : List Char} {t : Token} {ps : List Piece}

theorem pieces_of_token (h : read cs = ⟨gap, .token written t rest⟩) :
    pieces cs = (pieces rest).map (⟨gap, written, t⟩ :: ·) := by
  rw [pieces]
  split <;> simp_all

theorem pieces_of_endOfText (h : read cs = ⟨gap, .endOfText⟩) : pieces cs = .ok [.last gap] := by
  rw [pieces]
  split <;> simp_all

theorem pieces_of_malformed (h : read cs = ⟨gap, .malformed written rest⟩) :
    pieces cs = .error rest := by
  rw [pieces]
  split <;> simp_all

/-- A mapped result is there exactly where the result is. -/
theorem map_eq_ok {ε α β : Type} {f : α → β} {result : Except ε α} {b : β} :
    result.map f = .ok b ↔ ∃ a, result = .ok a ∧ f a = b := by
  cases result <;> simp [Except.map]

/-- The tokens of a text are those of its pieces. -/
theorem tokens_eq_map_pieces (cs : List Char) :
    tokens cs = (pieces cs).map (List.map Piece.token) := by
  fun_induction pieces cs with
  | case1 cs gap written t rest hread ih =>
    rw [tokens_of_token hread, ih]
    cases pieces rest <;> rfl
  | case2 cs gap hread =>
    rw [tokens_of_endOfText hread]
    rfl
  | case3 cs gap written rest hread =>
    rw [tokens_of_malformed hread]
    rfl

/-- The pieces of a text make it up. The last one, and no other, is the end of the text, and all gaps
in front of lexemes are closed. -/
theorem exists_of_pieces_ok (h : pieces cs = .ok ps) :
    ∃ others gap, ps = others ++ [.last gap] ∧
      (∀ p ∈ others, p.token.kind ≠ .endOfFile ∧ p.token.kind ≠ .newline ∧ IsGap p.gap) ∧
      ps.flatMap Piece.chars = cs := by
  fun_induction pieces cs generalizing ps with
  | case1 cs gap written t rest hread ih =>
    obtain ⟨ps', hrest, rfl⟩ := map_eq_ok.1 h
    obtain ⟨others, gap', rfl, hothers, hflat⟩ := ih hrest
    obtain ⟨hcs, hlexeme⟩ := append_of_read hread
    refine ⟨⟨gap, written, t⟩ :: others, gap', rfl, ?_, ?_⟩
    · exact List.forall_mem_cons.2
        ⟨⟨hlexeme.kind_ne.1, hlexeme.kind_ne.2, isGap_of_read hread⟩, hothers⟩
    · rw [List.flatMap_cons, hflat, hcs, Piece.chars, List.append_assoc]
  | case2 cs gap hread =>
    obtain rfl := Except.ok.inj h
    refine ⟨[], gap, rfl, List.forall_mem_nil _, ?_⟩
    simp [Piece.chars, Piece.last, (of_read_endOfText hread).2]
  | case3 => cases h

/-! ## Separators and comments -/

/-- The separators and the comments of the gap that a text begins with. -/
def fillers (cs : List Char) : List (List Char) :=
  match _h : filler? cs with
  | none => []
  | some (filler, rest) => filler :: fillers rest
termination_by cs.length
decreasing_by exact length_of_filler? _h

/-- The line breaks of a gap: its line feeds outside comments, and its block comments over several
lines. -/
def lineBreaks (gap : List Char) : Nat :=
  (fillers gap).count ['\n'] +
    (fillers gap).countP fun filler => filler.take 2 = ['/', '*'] && filler.contains '\n'

theorem fillers_of_none (h : filler? cs = none) : fillers cs = [] := by
  rw [fillers]
  split <;> simp_all

theorem fillers_of_some {filler : List Char} (h : filler? cs = some (filler, rest)) :
    fillers cs = filler :: fillers rest := by
  rw [fillers]
  split <;> simp_all

/-- A gap is made up of its separators and comments. -/
theorem flatten_fillers (cs : List Char) : (fillers cs).flatten = (skip cs).1 := by
  fun_induction skip cs with
  | case1 cs hnone => rw [fillers_of_none hnone, List.flatten_nil]
  | case2 cs filler rest hfiller ih => rw [fillers_of_some hfiller, List.flatten_cons, ih]

/-- A comment up to the end of a line ends there too where only the gap behind it is left. -/
theorem IsFiller.skip {filler : List Char} (h : IsFiller filler rest) :
    IsFiller filler (skip rest).1 := by
  cases h with
  | separator hsep => exact .separator hsep
  | blockComment hbody => exact .blockComment hbody
  | lineComment hbody hrest =>
    refine .lineComment hbody ?_
    rcases hrest with rfl | hhead
    · exact .inl (by rw [skip_of_none rfl])
    · obtain ⟨tail, rfl⟩ := List.head?_eq_some_iff.1 hhead
      have hend : filler? ('\n' :: tail) = some (['\n'], tail) :=
        filler?_eq_some.2 ⟨rfl, .separator rfl⟩
      rw [skip_of_some hend]
      exact .inr rfl

/-- The gap of a text has the same separators and comments by itself. -/
theorem fillers_skip (cs : List Char) : fillers (skip cs).1 = fillers cs := by
  fun_induction skip cs with
  | case1 cs hnone => rw [fillers_of_none hnone, fillers_of_none rfl]
  | case2 cs filler rest hfiller ih =>
    have hskip : filler? (filler ++ (skip rest).1) = some (filler, (skip rest).1) :=
      filler?_eq_some.2 ⟨rfl, (filler?_eq_some.1 hfiller).2.skip⟩
    rw [fillers_of_some hfiller, fillers_of_some hskip, ih]

/-- The gap of a piece is made up of its separators and comments. -/
theorem flatten_fillers_of_mem {p : Piece} (h : pieces cs = .ok ps) (hp : p ∈ ps) :
    (fillers p.gap).flatten = p.gap := by
  have hgap {cs gap : List Char} {lex : Lexeme} (hread : read cs = ⟨gap, lex⟩) :
      (fillers gap).flatten = gap := by
    obtain ⟨rfl, -⟩ := Reading.mk.inj hread
    rw [fillers_skip, flatten_fillers]
  fun_induction pieces cs generalizing ps with
  | case1 cs gap written t rest hread ih =>
    obtain ⟨others, hrest, rfl⟩ := map_eq_ok.1 h
    rcases List.mem_cons.1 hp with rfl | hp
    · exact hgap hread
    · exact ih hrest hp
  | case2 cs gap hread =>
    obtain rfl := Except.ok.inj h
    obtain rfl := List.mem_singleton.1 hp
    exact hgap hread
  | case3 => cases h

/-- A separator or a comment is counted once if it holds a line feed. -/
theorem IsFiller.lineBreaks {filler : List Char} (h : IsFiller filler rest) :
    (if filler == ['\n'] then 1 else 0) +
        (if filler.take 2 = ['/', '*'] && filler.contains '\n' then 1 else 0)
      = if filler.contains '\n' then 1 else 0 := by
  cases h with
  | @separator c =>
    by_cases hc : '\n' = c
    · subst hc
      rfl
    · simp [hc, Ne.symm hc]
  | lineComment hbody => simp [hbody]
  | @blockComment body => simp

/-- The line breaks of the gap of a text, counted with the gap in place. -/
theorem lineBreaks_skip (cs : List Char) :
    lineBreaks (skip cs).1 = (fillers cs).countP (List.contains · '\n') := by
  rw [lineBreaks, fillers_skip]
  fun_induction fillers cs with
  | case1 => rfl
  | case2 cs filler rest hfiller ih =>
    have hone := (filler?_eq_some.1 hfiller).2.lineBreaks
    simp only [List.count_cons, List.countP_cons]
    omega

end ServiceSyntax.Lexis

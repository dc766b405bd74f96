import Mathlib.Data.Prod.Lex
import ServiceSyntax.Proofs.Scan.Resync

/-!
# The order of a scan

Lines and columns are ordered as a reader comes to them. A scanner never moves back in this order
(`Follows.place_le`), whatever its source holds, so a token lies between the places of the scanner
in front of it and behind it (`Counted.next_token`). Behind an error and the rest of its line the
scanner stands in a later line, or the source is over (`Counted.next_error`).
-/

namespace ServiceSyntax.Scanner

open Scan Text

variable {s t u : Scanner} {c : Char} {rest : List Char}

/-- Line and column of the next character; at the end of the source they are those of the end of
the last line. -/
def place (s : Scanner) : Nat ×ₗ Nat :=
  toLex (s.line, if s.rest = [] ∧ s.unread ≠ [] then 0 else s.markToken.tokenColumn)

/-- Line and column of the last token. -/
def mark (s : Scanner) : Nat ×ₗ Nat := toLex (s.tokenLine, s.tokenColumn)

theorem place_of_rest (hrest : s.rest ≠ []) : s.place = toLex (s.line, s.column) := by
  simp [place, markToken, hrest]

theorem place_of_over (hrest : s.rest = []) (hunread : s.unread = []) :
    s.place = toLex (s.line, (withoutLineEnd s.currentLine).length) := by
  simp [place, markToken, hrest, hunread]

theorem place_of_unread (hrest : s.rest = []) (hunread : s.unread ≠ []) :
    s.place = toLex (s.line, 0) := by
  simp [place, hrest, hunread]

/-- A token begins at the place of the scanner, unless that has to take up a line first. -/
theorem Began.mark_eq (h : Began u t) (hu : u.rest ≠ [] ∨ u.unread = []) : t.mark = u.place := by
  have hmark : t.mark = toLex (u.line, u.markToken.tokenColumn) := by
    rw [mark, h.tokenLine_eq, h.tokenColumn_eq]
    rfl
  have hplace : ¬(u.rest = [] ∧ u.unread ≠ []) := by
    intro hnil
    exact hu.elim (fun hrest => hrest hnil.1) hnil.2
  rw [hmark, place, if_neg hplace]

/-! ## Moving on -/

theorem length_withoutLineEnd {text : String} {consumed : List Char}
    (htext : text.toList = consumed ++ [c]) (hc : c ≠ '\n') :
    (withoutLineEnd text).length = consumed.length + 1 := by
  have hlast : (c == '\n') = false := beq_false_of_ne hc
  simp [withoutLineEnd, dropTrailing, htext, hlast]

namespace Counted

/-- Where a line is over without a line feed the source is over. -/
theorem unread_eq_of_advance (h : Counted s) (hrest : s.rest = [c]) (hc : c ≠ '\n') :
    s.unread = [] := by
  apply Decidable.byContradiction
  intro hunread
  have hlast := h.rest_closed (by simp [hrest]) hunread
  rw [hrest] at hlast
  exact hc (Option.some.inj hlast)

theorem place_advance_le (h : Counted s) (hrest : s.rest = c :: rest) :
    s.place ≤ (s.advance c rest).place := by
  have hne : s.rest ≠ [] := by simp [hrest]
  rw [place_of_rest hne]
  by_cases hc : c = '\n'
  · have hline : (s.advance c rest).line = s.line + 1 := if_pos hc
    rw [place, hline, Prod.Lex.toLex_le_toLex]
    left
    show s.line < s.line + 1
    omega
  · have hline : (s.advance c rest).line = s.line := if_neg hc
    by_cases hnil : rest = []
    · -- the source is over behind its last character, which is no line feed
      subst hnil
      obtain ⟨consumed, htext, hlength⟩ := h.exists_consumed hne
      rw [hrest] at htext
      have hcurrent : (s.advance c []).currentLine = s.currentLine := rfl
      have hunread : (s.advance c []).unread = [] := h.unread_eq_of_advance hrest hc
      rw [place_of_over rfl hunread, hline, hcurrent, length_withoutLineEnd htext hc,
        Prod.Lex.toLex_le_toLex]
      exact Or.inr ⟨rfl, by omega⟩
    · rw [place_of_rest hnil, hline, Prod.Lex.toLex_le_toLex]
      exact Or.inr ⟨rfl, Nat.le_succ s.column⟩

end Counted

theorem place_load_le {line : SourceLine} {unread : Source} (hrest : s.rest = [])
    (hunread : s.unread = line :: unread) : s.place ≤ (s.load line unread).2.place := by
  have hmore : s.unread ≠ [] := by simp [hunread]
  obtain ⟨consumed, rest, -, -, hload⟩ := exists_load s line unread
  rw [place_of_unread hrest hmore, hload, place, Prod.Lex.toLex_le_toLex]
  exact Or.inr ⟨rfl, Nat.zero_le _⟩

/-- No step of a scan leads back behind a place that has been reached. -/
theorem steady_place (p : Nat ×ₗ Nat) : Steady fun s => Counted s ∧ p ≤ s.place where
  markToken _ h := ⟨h.1.markToken, h.2⟩
  note _ met h := ⟨h.1.note met, h.2⟩
  advance _ _ _ hrest h := ⟨h.1.advance hrest, h.2.trans (h.1.place_advance_le hrest)⟩
  load _ _ _ hrest hunread h := ⟨h.1.load hrest hunread, h.2.trans (place_load_le hrest hunread)⟩

theorem Follows.place_le (h : Follows s t) (hs : Counted s) : s.place ≤ t.place :=
  (h _ (steady_place s.place) ⟨hs, le_rfl⟩).2

/-! ## Tokens and errors -/

/-- A token begins where a scanner has stood that keeps what all steps keep. -/
theorem Over.exists_place {p : Nat ×ₗ Nat} {token : Token}
    (h : Over (fun s => Counted s ∧ p ≤ s.place) (.ok token) t) :
    ∃ u, (Counted u ∧ p ≤ u.place) ∧ Follows u t ∧ t.mark = u.place := by
  by_cases hkind : token.kind = .newline
  · obtain ⟨u, c, rest, hu, hrest, hbegan | ⟨hc, hbegan⟩⟩ := h.broke token rfl hkind
    · exact ⟨u, hu, hbegan.follows, hbegan.mark_eq (Or.inl (by simp [hrest]))⟩
    · -- behind a comment the line goes on, or it is the last one and has no line feed
      refine ⟨u.advance c rest, (steady_place p).advance u c rest hrest hu, hbegan.follows,
        hbegan.mark_eq ?_⟩
      by_cases hnil : rest = []
      · subst hnil
        exact Or.inr (hu.1.unread_eq_of_advance hrest hc)
      · exact Or.inl hnil
  · obtain ⟨u, hu, hbegan, hend⟩ := h.began token rfl hkind
    refine ⟨u, hu, hbegan.follows, hbegan.mark_eq ?_⟩
    by_cases hrest : u.rest = []
    · exact Or.inr (hend hrest).1
    · exact Or.inl hrest

namespace Counted

/-- A token lies between the places of the scanner in front of it and behind it. -/
theorem next_token {token : Token} (h : Counted s) (hnext : s.next = (.ok token, t)) :
    Counted t ∧ s.place ≤ t.mark ∧ t.mark ≤ t.place := by
  have hover := (steady_place s.place).next ⟨h, le_rfl⟩
  rw [hnext] at hover
  obtain ⟨u, ⟨hu, hplace⟩, hfollows, hmark⟩ := hover.exists_place
  -- the token begins at a place that lies between the two
  rw [hmark]
  exact ⟨hover.keeps.1, hplace, hfollows.place_le hu⟩

/-- The rest of the line of an error can be dropped. -/
theorem exists_skipLine {e : ScanError} (h : Counted s) (hnext : s.next = (.error e, t)) :
    ∃ skipped u, t.skipLine = (.ok skipped, u) := by
  obtain ⟨ht, hrest, -⟩ := steady_counted.next_error h hnext
  obtain ⟨skipped, u, hskip, -⟩ := ht.skipLine_of_rest hrest
  exact ⟨skipped, u, hskip⟩

/-- Behind the line of an error the scanner stands in a later line, or the source is over. -/
theorem next_error {e : ScanError} {skipped : Nat} (h : Counted s)
    (hnext : s.next = (.error e, t)) (hskip : t.skipLine = (.ok skipped, u)) :
    ∃ n : Nat, e.context.startLine = n ∧ s.line ≤ n ∧ Counted u ∧ s.place ≤ u.place ∧
      (u.rest = [] ∧ u.unread = [] ∨ toLex (n + 1, 0) ≤ u.place) := by
  obtain ⟨⟨ht, hplace⟩, hrest, fault, rfl⟩ :=
    (steady_place s.place).next_error ⟨h, le_rfl⟩ hnext
  have hskipped := ((steady_place s.place).skipLine ⟨ht, hplace⟩).1
  rw [hskip] at hskipped
  obtain ⟨hu, hplace'⟩ := hskipped
  refine ⟨t.line, rfl, Prod.Lex.monotone_fst _ _ hplace, hu, hplace', ?_⟩
  obtain ⟨skipped', u', hskip', hgrown, hnil, hunread⟩ := ht.skipLine_of_rest hrest
  obtain ⟨-, rfl⟩ := Prod.mk.inj (hskip'.symm.trans hskip)
  by_cases hover : u'.unread = []
  · exact Or.inl ⟨hnil, hover⟩
  · -- the line of the error is the last one retained, so the next one has a greater number
    right
    have hline : u'.line = t.line + 1 := by
      have hlater := (hu.line_eq_of_nil hnil).resolve_right fun hlast => hover hlast.1
      rw [hlater, hgrown.retained_eq_of_unread hunread, ht.line_eq hrest]
    rw [place_of_unread hnil hover, hline]

end Counted

end ServiceSyntax.Scanner

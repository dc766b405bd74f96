import Mathlib.Data.List.Forall2
import ServiceSyntax.Proofs.Scan.Beneath
import ServiceSyntax.Proofs.Scan.Counted

/-!
# Reading on behind an error

An error leaves the scanner in front of what is wrong in the last line retained, so dropping the
rest of that line takes up no other one (`Counted.skipLine_of_rest`). From there on the scanner
reads like a fresh one of the lines behind it, wherever in a token or a comment the error was met
(`resynchronizes`).
-/

namespace ServiceSyntax

open Scan Text

/-! ## Readings -/

/-- What a reading shows: a token with its place, or an error and what comes of dropping the rest of
its line. -/
inductive Reading where
  | token (token : Token) (line column : Nat) (metNewline : Bool)
  | fault (error : ScanError) (skipped : Except ScanError Nat)
deriving Repr

/-- The same reading that many lines further down. The end of the file may stand anywhere if there
are no lines. -/
inductive Reading.Below (n : Nat) (lines : Source) : Reading → Reading → Prop
  | token (token : Token) (line column : Nat) (met : Bool) :
      Below n lines (.token token line column met) (.token token (line + n) column met)
  | endOfFile {token : Token} (line line' column column' : Nat) (met : Bool) :
      lines = [] → token.kind = .endOfFile →
      Below n lines (.token token line column met) (.token token line' column' met)
  | fault (e : ScanError) (skipped : Except ScanError Nat) :
      Below n lines (.fault e skipped) (.fault (e.below n) (skipped.mapError (ScanError.below n)))

namespace Scanner

variable {n : Nat} {s s' t fresh : Scanner}

/-- Reads the next token; behind an error the rest of its line is dropped. -/
def reading (s : Scanner) : Reading × Scanner :=
  match s.next with
  | (.ok token, t) => (.token token t.tokenLine t.tokenColumn t.metNewline, t)
  | (.error e, t) => (.fault e t.skipLine.1, t.skipLine.2)

/-- The next readings, as many as are asked for. -/
def readings (s : Scanner) : Nat → List Reading
  | 0 => []
  | k + 1 => s.reading.1 :: s.reading.2.readings k

theorem Steady.reading {inv : Scanner → Prop} (h : Steady inv) (hs : inv s) :
    inv s.reading.2 := by
  have hover := h.next hs
  unfold Scanner.reading
  cases hnext : s.next with
  | mk result t =>
    rw [hnext] at hover
    cases result with
    | ok token => exact hover.keeps
    | error e => exact (h.skipLine hover.keeps).1

/-- A scanner beneath other lines reads what one reads that has the same lines in front of it. -/
theorem Beneath.reading (h : Beneath n s s') (hfresh : fresh.retained = #[])
    (hgrown : Grown fresh s) :
    s.reading.1.Below n fresh.unread s'.reading.1 ∧ Beneath n s.reading.2 s'.reading.2 := by
  have hlowered := next_below h
  have hover := (steady_grown fresh).next hgrown
  unfold Scanner.reading
  cases hnext : s.next with
  | mk result t =>
    rw [hnext] at hlowered hover
    generalize s'.next = next' at hlowered
    cases hlowered with
    | @token _ t' token hlevel =>
      refine ⟨?_, hlevel.toBeneath⟩
      dsimp only
      rw [hlevel.metNewline_eq]
      by_cases hmarked : token.kind ≠ .endOfFile ∨ t.retained ≠ #[]
      · rw [hlevel.tokenLine_eq hmarked, hlevel.tokenColumn_eq hmarked]
        exact .token token t.tokenLine t.tokenColumn t.metNewline
      · -- at its end the source has retained no line, so it has none
        have hfile : token.kind = .endOfFile :=
          Decidable.byContradiction fun hkind => hmarked (Or.inl hkind)
        have hempty : t.retained = #[] :=
          Decidable.byContradiction fun hne => hmarked (Or.inr hne)
        obtain ⟨read, hunread, hretained⟩ := hover.keeps.exists_read
        rw [hempty, hfresh] at hretained
        obtain rfl : read = [] := by simpa using hretained
        rw [(hover.ended token rfl hfile).2.2] at hunread
        exact .endOfFile _ _ _ _ _ hunread hfile
    | failed hbeneath =>
      obtain ⟨hskipped, hbeneath'⟩ := skipLine_below hbeneath
      refine ⟨?_, hbeneath'⟩
      dsimp only
      rw [hskipped]
      exact .fault _ _

theorem Beneath.readings (h : Beneath n s s') (hfresh : fresh.retained = #[])
    (hgrown : Grown fresh s) (k : Nat) :
    List.Forall₂ (Reading.Below n fresh.unread) (s.readings k) (s'.readings k) := by
  induction k generalizing s s' with
  | zero => exact .nil
  | succ k ih =>
    obtain ⟨hreading, hbeneath⟩ := h.reading hfresh hgrown
    exact .cons hreading (ih hbeneath ((steady_grown fresh).reading hgrown))

/-! ## Recovery -/

/-- Where a line feed ends the line it is dropped with it. -/
theorem skipChars_of_isLine {rest : List Char} (h : IsLine (· == '\n') rest) (hrest : s.rest = rest)
    (skipped : Nat) :
    (s.skipChars skipped rest).2.2.rest = [] ∧
      (rest.getLast? = some '\n' → (s.skipChars skipped rest).2.1 = true) := by
  induction rest generalizing s skipped with
  | nil => exact ⟨hrest, nofun⟩
  | cons c rest ih =>
    rw [skipChars]
    by_cases hc : c = '\n'
    · rw [if_pos hc]
      exact ⟨h.1 (by simp [hc]), fun _ => rfl⟩
    · rw [if_neg hc]
      obtain ⟨hover, hmet⟩ := ih (s := s.advance c rest) h.2 rfl (skipped + 1)
      refine ⟨hover, fun hlast => hmet ?_⟩
      cases rest with
      | nil => exact absurd (Option.some.inj hlast) hc
      | cons d rest => rwa [List.getLast?_cons_cons] at hlast

/-- In front of a character the rest of the line is dropped and no other line is taken up: where no
line feed ends it, the source is over. -/
theorem Counted.skipLine_of_rest (h : Counted s) (hrest : s.rest ≠ []) :
    ∃ skipped t, s.skipLine = (.ok skipped, t) ∧ Grown s t ∧ t.rest = [] ∧
      t.unread = s.unread := by
  have hgrown := (steady_grown s).skipChars (.refl s) 0 rfl
  have hunread := (skipChars_rest s 0 rfl).1
  obtain ⟨hover, hmet⟩ := skipChars_of_isLine h.rest_isLine rfl 0
  cases hchars : s.skipChars 0 s.rest with
  | mk skipped found =>
    obtain ⟨met, t⟩ := found
    rw [hchars] at hgrown hunread hover hmet
    refine ⟨skipped, t, ?_, hgrown, hover, hunread⟩
    unfold skipLine
    cases met with
    | true => cases s.unread <;> rw [skipLines, hchars]
    | false =>
      have hlast : s.unread = [] := Decidable.byContradiction fun hne =>
        Bool.false_ne_true (hmet (h.rest_closed hrest hne))
      rw [hlast, skipLines, hchars]

/-- Behind the end of its line a scanner stands beneath all lines that it has retained. -/
theorem Counted.beneath (h : Counted s) (hrest : s.rest = []) :
    Beneath s.retained.size { source := s.source, layout := s.layout, unread := s.unread } s where
  source_eq := rfl
  layout_eq := rfl
  unread_eq := rfl
  rest_eq := hrest
  exists_above := ⟨s.retained.toList, Array.length_toList, (List.append_nil _).symm⟩
  retained_ne := absurd rfl
  column_eq := absurd rfl
  line_eq hlines := by
    have hunread : s.unread ≠ [] := hlines.resolve_left (absurd rfl)
    have hline := (h.line_eq_of_nil hrest).resolve_right fun hover => hunread hover.1
    rw [hline]
    exact Nat.add_comm _ _

/-! ## Runs -/

/-- The second scanner comes from the first one by calls of `next` and of `skipLine`. -/
inductive Reaches (s : Scanner) : Scanner → Prop
  | refl : Reaches s s
  | next {t : Scanner} : Reaches s t → Reaches s t.next.2
  | skipLine {t : Scanner} : Reaches s t → Reaches s t.skipLine.2

theorem Steady.reaches {inv : Scanner → Prop} (h : Steady inv) (hs : inv s) (hreach : s.Reaches t) :
    inv t := by
  induction hreach with
  | refl => exact hs
  | next _ ih => exact (h.next ih).keeps
  | skipLine _ ih => exact (h.skipLine ih).1

theorem steady_mode (name : String) (layout : Bool) :
    Steady fun s => s.source = name ∧ s.layout = layout where
  markToken _ h := h
  note _ _ h := h
  advance _ _ _ _ h := h
  load _ line _ _ _ h := by cases line <;> exact h

/-- An error stands in the last line retained, and dropping the rest of that line takes up no other
one. From there on the scanner gives, reading by reading, what a fresh one gives of the lines behind
that line, with all line numbers moved on. -/
theorem resynchronizes (input : Input) (name : String) (layout : Bool) {s t : Scanner}
    {e : ScanError} (hreach : (input.scanner name layout).Reaches s)
    (hnext : s.next = (.error e, t)) :
    ∃ (n skipped : Nat) (u : Scanner), e.context.startLine = n ∧ e.context.endLine = n ∧
      t.skipLine = (.ok skipped, u) ∧ u.retained = t.retained ∧ u.retained.size = n ∧
      u.unread = input.source.drop n ∧
      ∀ k, List.Forall₂ (Reading.Below n (input.source.drop n))
        (((input.behind n).scanner name layout).readings k) (u.readings k) := by
  have heq := input.scanner_eq name layout
  -- one invariant for the whole run: counters, lines read, and the mode of the scanner
  have hsteady := (steady_counted.and (steady_grown (input.scanner name layout))).and
    (steady_mode name layout)
  have hstart := hsteady.reaches ⟨⟨input.counted name layout, .refl _⟩, heq ▸ ⟨rfl, rfl⟩⟩ hreach
  obtain ⟨hkeeps, hrest, fault, rfl⟩ := hsteady.next_error hstart hnext
  have hline : t.line = t.retained.size := hkeeps.1.1.line_eq hrest
  obtain ⟨skipped, u, hskip, hgrown, hnil, hsame⟩ := hkeeps.1.1.skipLine_of_rest hrest
  have hretained := hgrown.retained_eq_of_unread hsame
  obtain ⟨⟨hcounted, hread⟩, hsource, hlayout⟩ : (u.Counted ∧ _) ∧ u.source = name ∧
      u.layout = layout := by
    have hskipped := (hsteady.skipLine hkeeps).1
    rwa [hskip] at hskipped
  have hdrop : u.unread = input.source.drop u.retained.size := by
    rw [hread.unread_eq (by rw [heq]), heq]
  refine ⟨u.retained.size, skipped, u, ?_, ?_, hskip, hretained, rfl, hdrop, fun k => ?_⟩
  · rw [hretained, ← hline]
    rfl
  · rw [hretained, ← hline]
    rfl
  · -- what is left in front of the scanner is what a fresh one has of the lines behind
    have hbeneath := hcounted.beneath hnil
    rw [hsource, hlayout, hdrop, ← Input.source_behind, ← Input.scanner_eq] at hbeneath
    have hreadings := hbeneath.readings (by rw [Input.scanner_eq]) (.refl _) k
    have hunread : ((input.behind u.retained.size).scanner name layout).unread
        = input.source.drop u.retained.size := by
      rw [Input.scanner_eq, Input.source_behind]
    rwa [hunread] at hreadings

/-- A string that begins in the first line is broken off in the second one. -/
theorem resynchronizes_inside_string :
    let input : Input := .text "a \"b\n\\q\" c\nd"
    let s := (input.scanner "text" true).next.2
    let e : ScanError := ⟨.malformedEscape, ⟨"text", 2, 2, 1, ["\\q\" c\n"]⟩⟩
    (input.scanner "text" true).Reaches s ∧ s.next = (.error e, s.next.2) ∧
      input.behind 2 = .text "d" ∧
      ∃ (skipped : Nat) (u : Scanner), s.next.2.skipLine = (.ok skipped, u) ∧
        u.retained = s.next.2.retained ∧ u.retained.size = 2 ∧ u.unread = [.sound ['d']] ∧
        ∀ k, List.Forall₂ (Reading.Below 2 [.sound ['d']])
          (((Input.text "d").scanner "text" true).readings k) (u.readings k) := by
  intro input s e
  have hreach : (input.scanner "text" true).Reaches s := .next .refl
  have hnext : s.next = (.error e, s.next.2) := rfl
  obtain ⟨n, skipped, u, hstart, -, hskip, hretained, hsize, hunread, hreadings⟩ :=
    resynchronizes input "text" true hreach hnext
  obtain rfl : n = 2 := (Int.ofNat.inj hstart).symm
  exact ⟨hreach, hnext, rfl, skipped, u, hskip, hretained, hsize, hunread, hreadings⟩

end Scanner

end ServiceSyntax

import ServiceSyntax.Proofs.Parse.Advance
import ServiceSyntax.Proofs.Scan.Layout

/-!
# Reading with and without layout

A cursor reads over the line breaks that a scanner in layout mode gives as tokens. One call on a
cursor outside layout mode is one scan, and in layout mode it takes one more scan for every line
break on the way; both give the same token, position and line break or the same error, call by call
(`layout_invisible`).
-/

namespace ServiceSyntax.Cursor

open Scanner Scan

variable {c c' : Cursor} {s s' : Scanner}

/-! ## Reading on -/

/-- A scan and a cursor in layout mode come to the same token, with the same position and the same
line break in front of it, or to the same error. -/
inductive Alike (c : Cursor) : Except ScanError Token × Scanner →
    Except ScanError Entry × Cursor → Prop
  | token {t t' : Scanner} {token : Token} {met : Bool} :
      token.kind ≠ .newline → Abreast met true t t' →
      Alike c (.ok token, t)
        (.ok (scanned t' token), { c with scanner := t', metNewline := t.metNewline })
  | failed {t t' : Scanner} {e : ScanError} {met : Bool} : Twin t t' →
      Alike c (.error e, t) (.error e, { c with scanner := t', metNewline := met })

/-- One scan against all scans of a cursor in layout mode. What the first one has noted is what the
cursor has read over. -/
theorem scan_alike (h : Twin s s') (c : Cursor) (hscanner : c.scanner = s')
    (hmet : c.metNewline = s.metNewline) : Alike c (s.resume .start "") c.scan := by
  induction hpending : s'.pending using Nat.strongRecOn generalizing s s' c with
  | _ n ih =>
    subst hscanner
    have hmatched : Matched s.metNewline (s.resume .start "")
        ({ c.scanner with metNewline := false }.resume .start "") := resume_matched h.abreast ""
    rw [← next_eq_resume] at hmatched
    cases hnext : c.scanner.next with
    | mk result t' =>
      rw [hnext] at hmatched
      generalize s.resume .start "" = plain at hmatched
      cases hmatched with
      | @lineBreak t _ htwin hmet' =>
        -- the scan goes on behind the line break, and so does the cursor
        have hlt : t'.pending < n := by
          rw [← hpending]
          exact Scanner.pending_next_lt hnext (by simp)
        have hrest := ih t'.pending hlt htwin { c with scanner := t', metNewline := true } rfl
          hmet'.symm rfl
        rw [scan_of_newline hnext rfl]
        generalize t.resume .start "" = plain at hrest
        generalize ({ c with scanner := t', metNewline := true } : Cursor).scan = read at hrest
        cases hrest with
        | token hkind habreast => exact .token hkind habreast
        | failed htwin => exact .failed htwin
      | token hkind habreast =>
        rw [scan_of_token hnext hkind, hmet, ← habreast.metNewline_eq]
        exact .token hkind habreast
      | failed htwin =>
        rw [scan_of_error hnext]
        exact .failed htwin

/-! ## Calls -/

/-- A call on a cursor that reads its source: for the next token, or for the next line. -/
inductive Move where
  | advance
  | skipLine
deriving Repr, DecidableEq

/-- What a call shows: the token with its position and with the line break that the cursor has met
in front of it, nothing behind a line that is dropped, or the error. -/
def move (c : Cursor) : Move → Except ScanError (Option Entry) × Cursor
  | .advance =>
    (c.advance.1.map fun entry => some { entry with metNewline := c.advance.2.metNewline },
      c.advance.2)
  | .skipLine => (c.skipLine.1.map fun _ => none, c.skipLine.2)

/-- What successive calls show, those behind an error included. -/
def moves (c : Cursor) : List Move → List (Except ScanError (Option Entry))
  | [] => []
  | m :: ms => (c.move m).1 :: (c.move m).2.moves ms

/-- Two cursors that read the same source at the same place, the second one in layout mode, and have
nothing queued. -/
structure Twins (c c' : Cursor) : Prop where
  twin : Twin c.scanner c'.scanner
  queue_eq : c.queue = []
  queue_eq' : c'.queue = []

private theorem advance_twins (h : Twins c c') : (c.move .advance).1 = (c'.move .advance).1 ∧
    Twins (c.move .advance).2 (c'.move .advance).2 := by
  have halike := scan_alike (h.twin.note false c'.scanner.metNewline)
    { c' with metNewline := false } rfl rfl
  cases hscan : ({ c' with metNewline := false } : Cursor).scan with
  | mk result' last' =>
    rw [hscan, ← next_eq_resume] at halike
    cases hnext : c.scanner.next with
    | mk result t =>
      rw [hnext] at halike
      cases halike with
      | token hkind habreast =>
        have hadvance := advance_of_token h.queue_eq hnext hkind
        have hadvance' := (advance_of_scan h.queue_eq').1 _ _ hscan
        simp only [move, hadvance, hadvance']
        refine ⟨?_, habreast.toTwin, h.queue_eq, h.queue_eq'⟩
        simp [Except.map, arrive, scanned, habreast.tokenLine_eq, habreast.tokenColumn_eq]
      | failed htwin =>
        have hadvance := advance_of_error h.queue_eq hnext
        have hadvance' := (advance_of_scan h.queue_eq').2 _ _ hscan
        simp only [move, hadvance, hadvance']
        exact ⟨rfl, htwin, h.queue_eq, h.queue_eq'⟩

private theorem skipLine_twins (h : Twins c c') : (c.move .skipLine).1 = (c'.move .skipLine).1 ∧
    Twins (c.move .skipLine).2 (c'.move .skipLine).2 := by
  obtain ⟨result, t, t', heq, heq', htwin⟩ := skipLine_twin h.twin
  simp only [move, skipLine, heq, heq']
  cases result <;> exact ⟨rfl, htwin, h.queue_eq, h.queue_eq'⟩

theorem move_twins (h : Twins c c') (m : Move) :
    (c.move m).1 = (c'.move m).1 ∧ Twins (c.move m).2 (c'.move m).2 := by
  cases m with
  | advance => exact advance_twins h
  | skipLine => exact skipLine_twins h

theorem moves_twins (h : Twins c c') (ms : List Move) : c.moves ms = c'.moves ms := by
  induction ms generalizing c c' with
  | nil => rfl
  | cons m ms ih =>
    obtain ⟨hresult, htwins⟩ := move_twins h m
    rw [moves, moves, hresult, ih htwins]

/-- Layout mode cannot be told from what a cursor shows, whatever the source is, also behind errors
and with lines dropped anywhere. -/
theorem layout_invisible (source : String) (ms : List Move) :
    (∀ text, moves { scanner := .ofText text source true } ms
      = moves { scanner := .ofText text source false } ms) ∧
    ∀ bytes, moves { scanner := .ofBytes bytes source true } ms
      = moves { scanner := .ofBytes bytes source false } ms := by
  refine ⟨fun text => ?_, fun bytes => ?_⟩
  · exact (moves_twins ⟨twin_fresh source (.ofText text), rfl, rfl⟩ ms).symm
  · exact (moves_twins ⟨twin_fresh source (.ofBytes bytes), rfl, rfl⟩ ms).symm

end ServiceSyntax.Cursor

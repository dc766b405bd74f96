import ServiceSyntax.Proofs.Diagnostic.Excerpt
import ServiceSyntax.Proofs.Parse.Holding

/-!
# Places of entries

An entry that is read carries the place of its scanner. So every entry that a cursor holds stands at
a place that fits its line (`Placed`), and the cursor keeps this through every operation.
-/

namespace ServiceSyntax.Cursor

open Scanner

variable {c c' : Cursor}

/-- The entry stands at a place that fits its line. -/
def Houses (s : Scanner) (entry : Entry) : Prop := s.Fits entry.line entry.column

/-- The counters of the scanner agree with its lines, and so do the places of all entries. -/
structure Placed (c : Cursor) : Prop where
  counted : c.scanner.Counted
  current : ∀ entry, c.current = some entry → Houses c.scanner entry
  queue : ∀ entry ∈ c.queue, Houses c.scanner entry
  backup : ∀ b, c.backup = some b → ∀ entry ∈ b.entries, Houses c.scanner entry

/-- The error quotes the source, and its column lies within the code. -/
def Quoted (s : Scanner) (e : ScanError) : Prop := s.Quotes e.context ∧ e.context.Within

/-- The place of an entry was marked where its token began, and the scanner has only read on
since. -/
theorem lasting_houses : Lasting Counted Houses where
  steady := steady_counted
  scanned {s t entry} hs hscans := by
    obtain ⟨u, hu, hgrown, hover, hline, hcolumn⟩ :=
      (hscans.landed steady_counted hs).began entry rfl
    show t.Fits entry.line entry.column
    rw [hline, hcolumn]
    exact (hu.fits_markToken hover).grown hgrown
  grown h hgrown := Fits.grown h hgrown

theorem placed_iff : Placed c ↔ Holds Counted Houses c :=
  ⟨fun h => ⟨h.counted, h.current, h.queue, h.backup⟩,
    fun h => ⟨h.scanner, h.current, h.queue, h.backup⟩⟩

namespace Placed

theorem inject (h : Placed c) {entries : List Entry}
    (hentries : ∀ entry ∈ entries, Houses c.scanner entry) : Placed (c.inject entries) :=
  placed_iff.2 ((placed_iff.1 h).inject hentries)

/-- Reading on keeps all places, and an error on the way quotes the source. -/
theorem advance (h : Placed c) : Placed c.advance.2 ∧ Grown c.scanner c.advance.2.scanner ∧
    ∀ e, c.advance.1 = .error e → Quoted c.advance.2.scanner e := by
  have hplaced : Placed c.advance.2 := placed_iff.2 ((placed_iff.1 h).advance lasting_houses)
  refine ⟨hplaced, grown_advance c, fun e heq => ?_⟩
  obtain ⟨hrest, fault, rfl⟩ := advance_error heq
  exact quotes_errorAt hplaced.counted hrest fault

theorem skipLine (h : Placed c) : Placed c.skipLine.2 ∧ Grown c.scanner c.skipLine.2.scanner ∧
    ∀ e, c.skipLine.1 = .error e → Quoted c.skipLine.2.scanner e := by
  have hplaced : Placed c.skipLine.2 := placed_iff.2 ((placed_iff.1 h).skipLine lasting_houses)
  refine ⟨hplaced, grown_skipLine c, fun e heq => ?_⟩
  obtain ⟨hrest, fault, rfl⟩ := skipLine_error heq
  exact quotes_errorAt hplaced.counted hrest fault

theorem closed (h : Placed c) : Placed { c with backup := none } :=
  placed_iff.2 ((placed_iff.1 h).withBackup nofun)

theorem startBackup (h : Placed c) {guarded : Bool} (hstart : c.startBackup guarded = .ok c') :
    Placed c' ∧ Grown c.scanner c'.scanner := by
  refine ⟨placed_iff.2 ((placed_iff.1 h).startBackup hstart), ?_⟩
  obtain ⟨-, rfl⟩ := of_startBackup hstart
  exact .refl _

theorem discardBackup (h : Placed c) (hdiscard : c.discardBackup = .ok c') :
    Placed c' ∧ Grown c.scanner c'.scanner := by
  obtain rfl := of_discardBackup hdiscard
  exact ⟨h.closed, .refl _⟩

/-- Going back reads what has been recorded. -/
theorem recoverBackup (h : Placed c) {result : Except ScanError Unit}
    (hrecover : c.recoverBackup = .ok (result, c')) :
    Placed c' ∧ Grown c.scanner c'.scanner ∧ ∀ e, result = .error e → Quoted c'.scanner e := by
  have hplaced := placed_iff.2 ((placed_iff.1 h).recoverBackup lasting_houses hrecover)
  refine ⟨hplaced, grown_recoverBackup hrecover, fun e heq => ?_⟩
  obtain ⟨hrest, fault, rfl⟩ := recoverBackup_error (heq ▸ hrecover)
  exact quotes_errorAt hplaced.counted hrest fault

end Placed

end ServiceSyntax.Cursor

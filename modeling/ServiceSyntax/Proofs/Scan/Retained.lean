import ServiceSyntax.Proofs.Scan.Counted

/-!
# Lines that have been read

Outside layout mode a scan gives no line break, and the line of its token is retained, unless the
source is over (`next_scanned`); this holds of any source, broken lines included.
-/

namespace ServiceSyntax.Scanner

variable {s t : Scanner}

/-- A scanner outside layout mode whose counters agree with its lines. -/
structure Lined (s : Scanner) : Prop extends Counted s where
  layout_eq : s.layout = false

/-- The line of the token is retained. -/
structure Shown (s : Scanner) : Prop where
  line_pos : 1 ≤ s.tokenLine
  line_le : s.tokenLine ≤ s.retained.size

theorem lined_ofText (text source : String) : Lined (ofText text source) :=
  ⟨counted_ofText text source false, rfl⟩

theorem lined_ofBytes (bytes : List UInt8) (source : String) : Lined (ofBytes bytes source) :=
  ⟨counted_ofBytes bytes source false, rfl⟩

theorem steady_lined : Steady Lined where
  markToken _ h := ⟨h.toCounted.markToken, h.layout_eq⟩
  note _ met h := ⟨h.toCounted.note met, h.layout_eq⟩
  advance _ _ _ hrest h := ⟨h.toCounted.advance hrest, h.layout_eq⟩
  load s line unread hrest hunread h := by
    refine ⟨h.toCounted.load hrest hunread, ?_⟩
    obtain ⟨consumed, rest, -, -, hload⟩ := exists_load s line unread
    rw [hload]
    exact h.layout_eq

/-! ## Scans -/

/-- A token is complete: it is no line break, and the end of the file only at the end of the source;
otherwise its line is retained. -/
structure Complete (t : Scanner) (token : Token) : Prop where
  kind_ne : token.kind ≠ .newline
  shown : token.kind ≠ .endOfFile → Shown t
  unread_eq : token.kind = .endOfFile → t.unread = []

/-- How a scan from the first scanner ends. -/
structure Scanned (s : Scanner) (result : Except ScanError Token) (t : Scanner) : Prop
    extends Grown s t where
  lined : Lined t
  complete : ∀ token, result = .ok token → Complete t token

/-- In front of a character the line is retained, and it stays so. -/
theorem Lined.shown_of_began (h : Lined s) (hbegan : Began s t) (hrest : s.rest ≠ []) :
    Shown t := by
  have hle := h.line_eq hrest
  have hsize := hbegan.size_le
  have hline : t.tokenLine = s.line := hbegan.tokenLine_eq
  exact ⟨hline ▸ h.line_pos, by omega⟩

/-- A scan moves lines only, and it ends with an error or with a complete token. -/
theorem next_scanned (h : Lined s) : Scanned s s.next.1 s.next.2 := by
  have hover := (steady_lined.and (steady_grown s)).next ⟨h, .refl s⟩
  refine ⟨hover.keeps.2, hover.keeps.1, fun token htoken => ?_⟩
  have hkind : token.kind ≠ .newline := by
    intro hnewline
    have hlayout := hover.layout_eq token htoken hnewline
    rw [hover.keeps.1.layout_eq] at hlayout
    cases hlayout
  refine ⟨hkind, fun hne => ?_, fun hfile => (hover.ended token htoken hfile).2.2⟩
  obtain ⟨u, hu, hbegan, hend⟩ := hover.began token htoken hkind
  exact hu.1.shown_of_began hbegan fun hnil => hne (hend hnil).2

end ServiceSyntax.Scanner

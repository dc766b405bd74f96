import ServiceSyntax.Scan.Tokens
import ServiceSyntax.Proofs.Lexis.Pieces
import ServiceSyntax.Proofs.Scan.Next

/-!
# All tokens of a text

Reading a text line by line to its end gives the tokens of the grammar on the whole text, each with
the position of the place behind its gap (`tokens_eq_pieces`), and it fails with the grammar, at the
character that a backslash does not escape.
-/

namespace ServiceSyntax

open Scan Text Lexis

/-- The error at the beginning of `rest`, a part of a text, with the position of that place and the
line that it stands in. -/
def Lexis.escapeError (source : String) (text rest : List Char) : ScanError :=
  let before := text.take (text.length - rest.length)
  let line := (sourceLines text)[before.count '\n']?.getD []
  { fault := .malformedEscape
    context :=
      { source, startLine := lineAfter before, endLine := lineAfter before
        column := columnAfter before, code := [String.ofList line] } }

namespace Lexis

/-- The column of the end of a text, which is the length of its last line. -/
def endColumn (text : List Char) : Nat :=
  (withoutLineEnd (String.ofList ((sourceLines text).getLast?.getD []))).length

/-- The token of a piece with the position of the place behind the gap, where `before` stands in
front of the piece. -/
def Piece.locate (before : List Char) (p : Piece) : Located where
  token := p.token
  line := lineAfter (before ++ p.gap)
  column := if p.token = ⟨.endOfFile, ""⟩ then endColumn (before ++ p.gap)
            else columnAfter (before ++ p.gap)

/-- The tokens of successive pieces with their positions. -/
def locateAll (before : List Char) : List Piece → List Located
  | [] => []
  | p :: ps => p.locate before :: locateAll (before ++ p.chars) ps

theorem map_token_locateAll (before : List Char) (ps : List Piece) :
    (locateAll before ps).map Located.token = ps.map Piece.token := by
  induction ps generalizing before with
  | nil => rfl
  | cons p ps ih => rw [locateAll, List.map_cons, List.map_cons, ih]; rfl

end Lexis

namespace Scanner

variable {s s' : Scanner} {before cs rest : List Char}

/-- The error at the place of a scanner. -/
theorem errorAt_eq (h : Stands s before rest) (hs : s.rest ≠ []) :
    s.errorAt .malformedEscape = Lexis.escapeError s.source (before ++ rest) rest := by
  have hbefore : (before ++ rest).take ((before ++ rest).length - rest.length) = before := by
    rw [List.length_append, Nat.add_sub_cancel]
    exact List.take_left
  have hrest : rest ≠ [] := by
    rw [h.after_eq]
    exact List.append_ne_nil_of_left_ne_nil hs _
  have hcol := h.column_eq hrest
  rw [if_neg hs] at hcol
  have hline := h.currentLine_eq hs
  -- the line holds the character at fault, so the diagnostic shows it
  have hshown : s.currentLine.isEmpty = false := by
    obtain ⟨c, tail, rfl⟩ := List.exists_cons_of_ne_nil hrest
    obtain ⟨line, hat, hchar⟩ := exists_line_of_place before c tail
    obtain rfl := Option.some.inj (hline.symm.trans hat)
    rw [Bool.eq_false_iff]
    intro hempty
    rw [String.isEmpty_iff.1 hempty] at hchar
    simp at hchar
  rw [errorAt, Lexis.escapeError, hbefore]
  simp [hline, hshown, h.line_eq, hcol]

/-! ## Tokens one after the other -/

theorem tokens_of_error {e : ScanError} (h : s.next = (.error e, s')) :
    s.tokens = (.error e, s') := by
  rw [tokens]
  split <;> simp_all

theorem tokens_of_endOfFile (h : s.next = (.ok ⟨.endOfFile, ""⟩, s')) :
    s.tokens = (.ok [s'.locate ⟨.endOfFile, ""⟩], s') := by
  rw [tokens]
  split <;> simp_all

theorem tokens_of_token {t : Token} (h : s.next = (.ok t, s')) (ht : t ≠ ⟨.endOfFile, ""⟩) :
    s.tokens.1 = s'.tokens.1.map (s'.locate t :: ·) := by
  rw [tokens]
  split
  · simp_all
  · rename_i token s'' hnext
    obtain ⟨heq, rfl⟩ := Prod.mk.inj (hnext.symm.trans h)
    obtain rfl := Except.ok.inj heq
    rw [dif_neg ht]
    cases s''.tokens with
    | mk result last => cases result <;> rfl

/-- At the end of a text the scanner stands in its last line. -/
theorem Stands.currentLine_of_nil (h : Stands s before []) :
    s.currentLine = String.ofList ((sourceLines before).getLast?.getD []) := by
  have hlines := h.lines_eq
  rw [h.unread_eq_nil.2, List.append_nil, List.map_nil, List.append_nil] at hlines
  rw [hlines, List.getLast?_map, Array.getLast?_toList, currentLine]
  cases s.retained.back? <;> simp

/-- A token that has been read is located as its piece. -/
theorem Ends.locate_eq {gap written : List Char} {t : Token} {result : Except ScanError Token}
    (h : Ends (before ++ gap) s (.token written t rest) result) (ht : t ≠ ⟨.endOfFile, ""⟩) :
    s.locate t = Piece.locate before ⟨gap, written, t⟩ := by
  obtain ⟨-, hmark, -⟩ := h
  rw [locate, Piece.locate, if_neg ht, hmark.1, hmark.2]

/-- The end of a text is located as its last piece. -/
theorem Ends.locate_last {gap : List Char} {result : Except ScanError Token}
    (h : Ends (before ++ gap) s .endOfText result) :
    s.locate ⟨.endOfFile, ""⟩ = Piece.locate before (.last gap) := by
  obtain ⟨hs, hline, hcolumn, -⟩ := h
  rw [locate, hline, hs.line_eq, hcolumn, hs.currentLine_of_nil, Piece.locate, Piece.last,
    if_pos rfl, endColumn]

/-- From its place on the scanner gives the tokens of the pieces. -/
theorem tokens_eq_pieces (h : Stands s before cs) (hlayout : s.layout = false) :
    s.tokens.1
      = ((pieces cs).map (locateAll before)).mapError (Lexis.escapeError s.source (before ++ cs)) := by
  fun_induction pieces cs generalizing s before with
  | case1 cs gap written t rest hread ih =>
    obtain ⟨hon, hends⟩ := next_ends h hlayout
    rw [hread] at hends
    obtain ⟨hcs, hlexeme⟩ := append_of_read hread
    have hne : t ≠ ⟨.endOfFile, ""⟩ := fun heq => hlexeme.kind_ne.1 (congrArg Token.kind heq)
    have hlocate := hends.locate_eq hne
    obtain ⟨hs', -, hresult⟩ := hends
    -- the rest is read as part of the same text, which an error would show
    have hrest := ih hs' (hon.layout_eq.trans hlayout)
    have htext : before ++ gap ++ written ++ rest = before ++ cs := by
      rw [hcs, List.append_assoc, List.append_assoc]
    rw [hon.source_eq, htext, List.append_assoc] at hrest
    rw [tokens_of_token (Prod.ext hresult rfl) hne, hrest, hlocate]
    cases pieces rest <;> rfl
  | case2 cs gap hread =>
    obtain ⟨-, hends⟩ := next_ends h hlayout
    rw [hread] at hends
    have hlocate := hends.locate_last
    obtain ⟨-, -, -, hresult⟩ := hends
    rw [tokens_of_endOfFile (Prod.ext hresult rfl), hlocate]
    rfl
  | case3 cs gap written rest hread =>
    obtain ⟨hon, hends⟩ := next_ends h hlayout
    rw [hread] at hends
    obtain ⟨hs', -, hne, hresult⟩ := hends
    have hcs := append_of_read_malformed hread
    rw [tokens_of_error (Prod.ext hresult rfl), errorAt_eq hs' hne, hon.source_eq,
      List.append_assoc, List.append_assoc, ← hcs]
    rfl

/-- From its place on the scanner gives the tokens of the grammar. -/
theorem tokens_eq (h : Stands s before cs) (hlayout : s.layout = false) :
    s.tokens.1.map (List.map Located.token)
      = (Lexis.tokens cs).mapError (Lexis.escapeError s.source (before ++ cs)) := by
  rw [tokens_eq_pieces h hlayout, tokens_eq_map_pieces]
  cases pieces cs with
  | ok ps => exact congrArg Except.ok (map_token_locateAll before ps)
  | error rest => rfl

/-! ## Whole texts -/

/-- A text is scanned to its pieces. -/
theorem tokens_ofText (text source : String) :
    (ofText text source).tokens.1 = ((pieces text.toList).map (locateAll [])).mapError
      (Lexis.escapeError source text.toList) := by
  have h := tokens_eq_pieces (stands_ofText text source false) rfl
  rw [List.nil_append] at h
  exact h

theorem exists_pieces_of_tokens {text source : String} {ts : List Located}
    (h : (ofText text source).tokens.1 = .ok ts) :
    ∃ ps, pieces text.toList = .ok ps ∧ locateAll [] ps = ts := by
  rw [tokens_ofText] at h
  cases hpieces : pieces text.toList with
  | error rest => rw [hpieces] at h; cases h
  | ok ps =>
    rw [hpieces] at h
    exact ⟨ps, rfl, Except.ok.inj h⟩

end Scanner

/-- The tokens of a text are those of the grammar. -/
theorem tokenize_eq_mapError (text source : String) :
    tokenize text source
      = (Lexis.tokens text.toList).mapError (Lexis.escapeError source text.toList) := by
  have h := Scanner.tokens_eq (Scanner.stands_ofText text source false) rfl
  rw [List.nil_append] at h
  exact h

theorem tokenize_eq_ok {text source : String} {ts : List Token} :
    tokenize text source = .ok ts ↔ Lexis.tokens text.toList = .ok ts := by
  rw [tokenize_eq_mapError]
  cases Lexis.tokens text.toList with
  | ok ts' => exact ⟨fun h => congrArg _ (Except.ok.inj h), fun h => congrArg _ (Except.ok.inj h)⟩
  | error rest =>
    constructor
    · intro h
      cases h
    · intro h
      cases h

theorem exists_tokenize_eq_error {text source : String} :
    (∃ e, tokenize text source = .error e) ↔ ∃ rest, Lexis.tokens text.toList = .error rest := by
  rw [tokenize_eq_mapError]
  cases Lexis.tokens text.toList with
  | ok ts =>
    constructor
    · intro h
      obtain ⟨e, he⟩ := h
      cases he
    · intro h
      obtain ⟨rest, hrest⟩ := h
      cases hrest
  | error rest => exact ⟨fun _ => ⟨rest, rfl⟩, fun _ => ⟨_, rfl⟩⟩

/-- A text is scanned as the grammar reads it. The last token, and no other, is the end of the
file. Scanning fails exactly where the tokens lead, behind a gap, to a literal in which a backslash
stands in front of a character that it does not escape. -/
theorem tokenize_eq_tokens (text source : String) :
    tokenize text source
        = (Lexis.tokens text.toList).mapError (Lexis.escapeError source text.toList) ∧
      (∀ ts, tokenize text source = .ok ts →
        ∃ others, ts = others ++ [⟨.endOfFile, ""⟩] ∧ ∀ t ∈ others, t.kind ≠ .endOfFile) ∧
      ((∃ e, tokenize text source = .error e) ↔
        ∃ ts gap body content c rest,
          Leads text.toList ts (gap ++ '"' :: body ++ '\\' :: c :: rest) ∧
            IsGap gap ∧ Spells body content ∧ escapes.lookup c = none) := by
  refine ⟨tokenize_eq_mapError text source, ?_, ?_⟩
  · intro ts hts
    exact exists_of_tokens_ok (tokenize_eq_ok.1 hts)
  · rw [exists_tokenize_eq_error]
    constructor
    · intro herror
      obtain ⟨rest, htokens⟩ := herror
      obtain ⟨ts, gap, body, content, c, tail, hleads, hgap, hspells, hc, -⟩ :=
        tokens_eq_error.1 htokens
      exact ⟨ts, gap, body, content, c, tail, hleads, hgap, hspells, hc⟩
    · intro hmalformed
      obtain ⟨ts, gap, body, content, c, tail, hleads, hgap, hspells, hc⟩ := hmalformed
      exact ⟨c :: tail, tokens_eq_error.2
        ⟨ts, gap, body, content, c, tail, hleads, hgap, hspells, hc, rfl⟩⟩

/-- A word, and behind a space a literal that escapes a letter. -/
theorem tokenize_eq_tokens_malformed :
    Leads "a \"\\q".toList [⟨.identifier, "a"⟩] [' ', '"', '\\', 'q'] ∧
      ∃ e, tokenize "a \"\\q" "text" = .error e := by
  have hread : Lexis.read "a \"\\q".toList
      = ⟨[], .token ['a'] ⟨.identifier, "a"⟩ [' ', '"', '\\', 'q']⟩ := read_append .nil rfl
  have hleads := Leads.step hread (.refl _)
  exact ⟨hleads, (tokenize_eq_tokens "a \"\\q" "text").2.2.2
    ⟨_, [' '], [], [], 'q', [], hleads, .separator rfl .nil, .nil, rfl⟩⟩

end ServiceSyntax

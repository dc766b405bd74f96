import ServiceSyntax.Proofs.Diagnostic.Further
import ServiceSyntax.Proofs.Parse.Advance
import ServiceSyntax.Proofs.Parse.Run
import ServiceSyntax.Proofs.Scan.Retained

/-!
# Reading ahead

A parser that has read ahead has its next tokens in the queue and its scanner stands behind them
(`Feeds`). What it shows is what a parser shows that has read none of them (`Ahead`): positions
travel with the tokens, the line of the current token has been retained by both, and at the end of
the file there is nothing left to be retained.
-/

namespace ServiceSyntax

open Scanner

/-! ## Tokens read ahead -/

/-- Reading these entries, one after the other, leads from one scanner to the other. -/
inductive Feeds : Scanner → List Entry → Scanner → Prop
  | nil (s : Scanner) : Feeds s [] s
  | cons {s t u : Scanner} {token : Token} {queue : List Entry} : s.next = (.ok token, t) →
      Feeds t queue u → Feeds s (Cursor.scanned t token :: queue) u

namespace Feeds

variable {s t u : Scanner} {token : Token} {queue : List Entry}

theorem eq_of_nil (h : Feeds s [] t) : t = s := by
  cases h
  rfl

theorem eq_nil_of_error {e : ScanError} (h : Feeds s queue u) (hnext : s.next = (.error e, t)) :
    queue = [] := by
  cases h with
  | nil => rfl
  | cons hfirst _ =>
    rw [hnext] at hfirst
    cases (Prod.mk.inj hfirst).1

theorem of_next (h : Feeds s queue u) (hnext : s.next = (.ok token, t)) :
    queue = [] ∨ ∃ others, queue = Cursor.scanned t token :: others ∧ Feeds t others u := by
  cases h with
  | nil => exact Or.inl rfl
  | cons hfirst hothers =>
    rw [hnext] at hfirst
    obtain ⟨htoken, rfl⟩ := Prod.mk.inj hfirst
    obtain rfl := Except.ok.inj htoken
    exact Or.inr ⟨_, rfl, hothers⟩

theorem concat (h : Feeds s queue t) (hnext : t.next = (.ok token, u)) :
    Feeds s (queue ++ [Cursor.scanned u token]) u := by
  induction h with
  | nil s => exact .cons hnext (.nil u)
  | cons hfirst _ ih => exact .cons hfirst (ih hnext)

/-- Reading ahead takes up lines only, and no entry is a line break. -/
theorem scanned (h : Feeds s queue t) (hlined : Lined s) :
    Grown s t ∧ Lined t ∧ ∀ entry ∈ queue, entry.token.kind ≠ .newline := by
  induction h with
  | nil s => exact ⟨.refl s, hlined, List.forall_mem_nil _⟩
  | @cons s t u token queue hnext _ ih =>
    have hscanned := next_scanned hlined
    rw [hnext] at hscanned
    obtain ⟨hgrown, hlined', hproper⟩ := ih hscanned.lined
    exact ⟨hscanned.toGrown.trans hgrown, hlined',
      List.forall_mem_cons.2 ⟨(hscanned.complete token rfl).kind_ne, hproper⟩⟩

end Feeds

/-! ## Parsers that have read ahead -/

/-- The entry can be shown: its line is retained, or else the file is at its end. -/
structure Parser.Shows (p : Parser) (entry : Entry) : Prop where
  kind_ne : entry.token.kind ≠ .newline
  unread_eq : entry.token.kind = .endOfFile → p.scanner.unread = []
  line_pos : entry.token.kind ≠ .endOfFile → 1 ≤ entry.line
  line_le : entry.token.kind ≠ .endOfFile → entry.line ≤ p.scanner.retained.size

/-- The second parser is where the first one is but for the tokens that it has read ahead. -/
structure Ahead (p q : Parser) : Prop where
  eq : q = { p with
    cursor := { p.cursor with queue := q.cursor.queue, scanner := q.cursor.scanner } }
  feeds : Feeds p.cursor.scanner q.cursor.queue q.cursor.scanner
  queue_eq : p.cursor.queue = []
  backup_eq : p.cursor.backup = none
  lines_eq : p.firstLine = none ∧ p.lastLine = none
  lined : p.cursor.scanner.Lined
  shows : ∀ entry, p.cursor.current = some entry → p.Shows entry
  /-- In front of the first token nothing has been read ahead. -/
  fresh : p.cursor.current = none → q = p

namespace Ahead

variable {p q : Parser}

theorem token?_eq (h : Ahead p q) : q.token? = p.token? := by
  rw [h.eq]
  rfl

theorem metNewline_eq (h : Ahead p q) : q.cursor.metNewline = p.cursor.metNewline := by
  rw [h.eq]

theorem vocabulary_eq (h : Ahead p q) : q.vocabulary = p.vocabulary := by
  rw [h.eq]

theorem backup_eq' (h : Ahead p q) : q.cursor.backup = none := by
  rw [h.eq]
  exact h.backup_eq

theorem position_eq (h : Ahead p q) : q.position = p.position := by
  have hcurrent : q.cursor.current = p.cursor.current := by rw [h.eq]
  unfold Parser.position
  rw [hcurrent]
  cases hnone : p.cursor.current with
  | none => rw [h.fresh hnone]
  | some entry => rfl

theorem further (h : Ahead p q) : Parser.Further p q :=
  ⟨h.token?_eq, h.position_eq, by rw [h.vocabulary_eq], (h.feeds.scanned h.lined).1⟩

/-- No line has been read ahead, or the one to be shown has been read by the first parser too. -/
theorem ready (h : Ahead p q) : q.scanner.retained = p.scanner.retained ∨
    p.token?.any Token.isEndOfFile = false ∧ 0 ≤ p.position.1 ∧
      p.position.1 ≤ p.scanner.retained.size := by
  cases hcurrent : p.cursor.current with
  | none => exact Or.inl (by rw [h.fresh hcurrent])
  | some entry =>
    have hshows := h.shows entry hcurrent
    by_cases hkind : entry.token.kind = .endOfFile
    · exact Or.inl (h.further.grown.retained_eq (hshows.unread_eq hkind))
    · have hpos := hshows.line_pos hkind
      have hle := hshows.line_le hkind
      refine Or.inr ⟨?_, ?_, ?_⟩
      · simp [Parser.token?, hcurrent, Token.isEndOfFile, hkind]
      · simp only [Parser.position, hcurrent]
        omega
      · simpa [Parser.position, hcurrent] using hle

/-- Both show the current token at the same place with the same line. -/
theorem context_eq (h : Ahead p q) : q.context = p.context :=
  h.further.context_eq (h.ready.imp_right fun hline => ⟨hline.1, hline.2.2⟩)

theorem unexpected_eq (h : Ahead p q) (message : String) (expected : List String) :
    q.unexpected message expected = p.unexpected message expected :=
  h.further.unexpected_eq (h.ready.imp_right fun hline => ⟨hline.1, hline.2.2⟩) message expected

theorem unexpectedIn_eq (h : Ahead p q) (r : Registry) (message : String) (name : Option String)
    (scope : String) :
    q.unexpectedIn r message name scope = p.unexpectedIn r message name scope := by
  have hfirst : q.firstLine = p.firstLine := by rw [h.eq]
  have hlast : q.lastLine = p.lastLine := by rw [h.eq]
  have hend : p.endLine = p.position.1 := by rw [Parser.endLine, h.lines_eq.2, Option.getD_none]
  refine h.further.unexpectedIn_eq (h.ready.imp_right fun hline => ⟨hline.1, hline.2.2⟩)
    (h.further.startLine_eq hfirst) (h.further.endLine_eq hlast) ?_ r message name scope
  rw [hend]
  exact h.ready.imp_right And.right

/-- Both may take over the same vocabulary. -/
theorem withVocabulary (h : Ahead p q) (vocabulary : Vocabulary) :
    Ahead { p with vocabulary } { q with vocabulary } where
  eq := by rw [h.eq]
  feeds := h.feeds
  queue_eq := h.queue_eq
  backup_eq := h.backup_eq
  lines_eq := h.lines_eq
  lined := h.lined
  shows entry hentry :=
    have hshows := h.shows entry hentry
    ⟨hshows.kind_ne, hshows.unread_eq, hshows.line_pos, hshows.line_le⟩
  fresh hnone := by rw [h.fresh hnone]

/-! ## The next token -/

theorem eq_of_queue (h : Ahead p q) (hqueue : q.cursor.queue = []) : q = p := by
  have hfeeds := h.feeds
  rw [hqueue] at hfeeds
  have heq := h.eq
  rw [hqueue, hfeeds.eq_of_nil, ← h.queue_eq] at heq
  exact heq

end Ahead

/-- The line break that the cursor shows is the one in front of the current token. -/
def Parser.Settled (p : Parser) : Prop :=
  ∃ entry, p.cursor.current = some entry ∧ p.cursor.metNewline = entry.metNewline

theorem Parser.Settled.of_cursor_eq {p p' : Parser} (h : p.Settled)
    (hcursor : p'.cursor = p.cursor) : p'.Settled := by
  rwa [Settled, hcursor]

theorem Parser.Shows.mono {p p' : Parser} {entry : Entry} (h : p.Shows entry)
    (hgrown : Grown p.scanner p'.scanner) : p'.Shows entry := by
  obtain ⟨read, hunread, hretained⟩ := hgrown.exists_read
  have hsize := congrArg List.length hretained
  rw [List.length_append, Array.length_toList, Array.length_toList] at hsize
  refine ⟨h.kind_ne, fun hkind => ?_, h.line_pos, fun hkind => ?_⟩
  · rw [h.unread_eq hkind] at hunread
    exact (List.append_eq_nil_iff.1 hunread.symm).2
  · have hle := h.line_le hkind
    omega

theorem Scanner.Complete.shows {p : Parser} {t : Scanner} {token : Token} (h : Complete t token)
    (hscanner : p.cursor.scanner = t) : p.Shows (Cursor.scanned t token) := by
  subst hscanner
  refine ⟨h.kind_ne, h.unread_eq, fun hkind => ?_, fun hkind => ?_⟩
  · have hpos := (h.shown hkind).line_pos
    show (1 : Int) ≤ (p.cursor.scanner.tokenLine : Int)
    omega
  · have hle := (h.shown hkind).line_le
    show (p.cursor.scanner.tokenLine : Int) ≤ (p.cursor.scanner.retained.size : Int)
    omega

theorem Parser.closeUnguarded_eq {p : Parser} (hbackup : p.cursor.backup = none) :
    p.closeUnguarded = p := by
  unfold closeUnguarded
  split
  · rfl
  · rw [← hbackup]

namespace Parse

variable {p q : Parser} {t u : Scanner} {token : Token} {queue : List Entry}

/-- Both are behind the token, wherever the second one stands. -/
theorem Ahead.arrived (h : Ahead p q) (hnext : p.cursor.scanner.next = (.ok token, t))
    (hfeeds : Feeds t queue u) :
    Ahead (arrived p t token)
      { arrived p t token with
        cursor := { (arrived p t token).cursor with queue := queue, scanner := u } } := by
  have hscanned := next_scanned h.lined
  rw [hnext] at hscanned
  refine ⟨rfl, hfeeds, h.queue_eq, ?_, h.lines_eq, hscanned.lined, ?_, nofun⟩
  · simp [Parse.arrived, Cursor.arrive, h.backup_eq]
  · intro entry hentry
    obtain rfl := Option.some.inj hentry
    exact (hscanned.complete token rfl).shows rfl

/-- The next token is the same, read ahead or not, and so is the error in its place. -/
theorem nextToken_ahead (h : Ahead p q) :
    (nextToken.runOn q).1 = (nextToken.runOn p).1 ∧
      Ahead (nextToken.runOn p).2 (nextToken.runOn q).2 ∧
      ((∃ token, (nextToken.runOn p).1 = .ok token ∧ (nextToken.runOn p).2.Settled) ∨
        ∃ e, (nextToken.runOn p).1 = .error (.scan e)) := by
  have hscanned := next_scanned h.lined
  cases hnext : p.cursor.scanner.next with
  | mk result t =>
    rw [hnext] at hscanned
    cases result with
    | error e =>
      -- nothing has been read ahead
      obtain rfl := h.eq_of_queue (h.feeds.eq_nil_of_error hnext)
      have hrun : nextToken.runOn q = (.error (.scan e),
          { q with cursor := { q.cursor with scanner := t, metNewline := false } }) := by
        rw [runOn_nextToken, Cursor.advance_of_error h.queue_eq hnext]
        exact congrArg (Prod.mk _) (Parser.closeUnguarded_eq h.backup_eq)
      rw [hrun]
      refine ⟨rfl, ⟨rfl, ?_, h.queue_eq, h.backup_eq, h.lines_eq, hscanned.lined, ?_, fun _ => rfl⟩,
        Or.inr ⟨e, rfl⟩⟩
      · rw [h.queue_eq]
        exact .nil t
      · intro entry hentry
        exact (h.shows entry hentry).mono hscanned.toGrown
    | ok token =>
      have hkind := (hscanned.complete token rfl).kind_ne
      have hrun := runOn_nextToken_of_token h.queue_eq hnext hkind
      have hsettled : (arrived p t token).Settled := ⟨_, rfl, rfl⟩
      rcases h.feeds.of_next hnext with hqueue | ⟨others, hqueue, hothers⟩
      · obtain rfl := h.eq_of_queue hqueue
        rw [hrun]
        refine ⟨rfl, ?_, Or.inl ⟨token, rfl, hsettled⟩⟩
        have hnothing : (arrived q t token).cursor.queue = [] := h.queue_eq
        have harrived := Ahead.arrived h hnext (.nil t)
        rw [← hnothing] at harrived
        exact harrived
      · have hrun' : nextToken.runOn q = (.ok token, { arrived p t token with
            cursor := { (arrived p t token).cursor with
              queue := others, scanner := q.cursor.scanner } }) := by
          rw [runOn_nextToken, Cursor.advance_cons hqueue hkind, h.eq]
          rfl
        rw [hrun, hrun']
        exact ⟨rfl, Ahead.arrived h hnext hothers, Or.inl ⟨token, rfl, hsettled⟩⟩

end Parse

end ServiceSyntax

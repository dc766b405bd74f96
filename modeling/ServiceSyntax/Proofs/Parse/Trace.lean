import ServiceSyntax.Proofs.Diagnostic.Further
import ServiceSyntax.Proofs.Parse.Attempt
import ServiceSyntax.Proofs.Parse.Placed

/-!
# Diagnostics behind a failed attempt

A production only reads on in its source, so a failed attempt is back at its token in a source that
may have been read further (`FailedAttempt.further`). What is shown then is what would have been
shown before, as far as it had been read and the production has left the lines of the construct
alone (`attempt_keeps_diagnostics`). Neither these lines nor those that have been read are undone
(`attempt_leaves_traces`).
-/

namespace ServiceSyntax.Parse

open Scanner Cursor

variable {α : Type} {p q : Parser} {entry : Entry} {sessions : Prop}

/-! ## What productions keep -/

/-- What every step of a scan keeps is kept by every production, and so is the registry that the
parser is given when it asks for one. -/
theorem source_invariant {inv : Scanner → Prop} (h : Steady inv)
    (given : Except LoadError Registry) :
    Invariant sessions fun p => inv p.scanner ∧ p.vocabulary.ask.1 = given := by
  have hstart (guarded : Bool) :
      Keeps (fun p => inv p.scanner ∧ p.vocabulary.ask.1 = given) (startBackup guarded) := by
    refine .startBackup fun p cursor hp hopen => ?_
    obtain ⟨-, rfl⟩ := of_startBackup hopen
    exact hp
  have hdiscard : Keeps (fun p => inv p.scanner ∧ p.vocabulary.ask.1 = given) discardBackup := by
    refine .discardBackup fun p cursor hp hclosed => ?_
    obtain rfl := of_discardBackup hclosed
    exact hp
  have hrecover : Keeps (fun p => inv p.scanner ∧ p.vocabulary.ask.1 = given) recoverBackup :=
    .recoverBackup fun p result cursor hp hback => ⟨steady_recoverBackup h hp.1 hback, hp.2⟩
  exact {
    advance := fun p hp => ⟨steady_advance h hp.1, hp.2⟩
    dropLine := fun p hp => ⟨steady_skipLine h hp.1, hp.2⟩
    inject := fun _ _ hp => hp
    setLines := fun _ _ _ hp => hp
    ask := fun p hp => ⟨hp.1, (congrArg Prod.fst p.vocabulary.ask_ask).trans hp.2⟩
    closeUnguarded := fun p hp => by
      unfold Parser.closeUnguarded
      split <;> exact hp
    attempt := fun m hm => hm.attempt (hstart true) hdiscard hrecover
    startBackup := fun _ => hstart false
    discardBackup := fun _ => hdiscard
    recoverBackup := fun _ => hrecover }

theorem isGuarded_advance (c : Cursor) : c.advance.2.isGuarded = c.isGuarded := by
  obtain ⟨s', queue', met, ⟨e, hadvance⟩ | ⟨entry, -, hadvance⟩⟩ :=
    exists_advance c.scanner c.queue
  · rw [hadvance c rfl rfl]
    rfl
  · rw [hadvance c rfl rfl]
    simp [isGuarded, arrive, Option.any_map]

theorem isGuarded_of_closed (h : Closed p) : p.cursor.isGuarded = false := by
  rw [isGuarded, h]
  rfl

/-- Whatever is done to backups, one that is open and belongs to an attempt is that of the attempt
that was begun. -/
theorem guarded_invariant (first : Option Entry) :
    Invariant True fun p => p.cursor.isGuarded = true → Held first p := by
  have hclosed {p : Parser} (h : Closed p) : p.cursor.isGuarded = true → Held first p := by
    intro hguarded
    rw [isGuarded_of_closed h] at hguarded
    cases hguarded
  exact {
    advance := fun p hp hguarded =>
      (held_invariant first).advance p (hp (isGuarded_advance p.cursor ▸ hguarded))
    dropLine := fun p hp hguarded => by
      refine (held_invariant first).dropLine p (hp ?_)
      rw [skipLine_eq] at hguarded
      exact hguarded
    inject := fun p entries hp hguarded => (held_invariant first).inject p entries (hp hguarded)
    setLines := fun p _ _ hp => hp
    ask := fun p hp hguarded => (held_invariant first).ask p (hp hguarded)
    closeUnguarded := fun p hp => by
      unfold Parser.closeUnguarded
      split
      · exact hp
      · exact hclosed rfl
    attempt := fun m _ p hp => by
      cases hbackup : p.cursor.backup with
      | none => exact hclosed (closed_attempt m hbackup)
      | some b =>
        rw [runOn_attempt_open m hbackup]
        exact hp
    startBackup := fun _ p hp => by
      rw [runOn_startBackup, Cursor.startBackup]
      cases hbackup : p.cursor.backup with
      | none =>
        intro hguarded
        cases hguarded
      | some b => exact hp
    discardBackup := fun _ p _ => hclosed (closed_discardBackup p)
    recoverBackup := fun _ p _ => hclosed (closed_recoverBackup p) }

/-! ## Failed attempts -/

/-- A production is attempted at a current token while no backup is open, and the attempt gives
nothing. -/
structure FailedAttempt (production : Parse α) (p q : Parser) : Prop where
  reachable : p.Reachable
  current : p.cursor.current ≠ none
  backup_eq : p.cursor.backup = none
  admitted : Production True production
  runs : (attempt production).runOn p = (.ok none, q)

/-- The backup that is open where the production ends is that of its attempt. -/
def LeavesBackup (production : Parse α) (p : Parser) : Prop :=
  (production.runOn p.guarded).2.cursor.isGuarded = true

/-- A production that fails under the backup of its attempt is taken back to the token that was
current, in a source that it may have read further. -/
theorem FailedAttempt.further {production : Parse α} (h : FailedAttempt production p q)
    (hleaves : LeavesBackup production p) :
    Parser.Further p q ∧ q.firstLine = (production.runOn p.guarded).2.firstLine ∧
      q.lastLine = (production.runOn p.guarded).2.lastLine := by
  obtain ⟨entry, hcurrent⟩ := Option.ne_none_iff_exists'.1 h.current
  obtain ⟨failure, r, hfailed, -, hrecover⟩ := exists_of_attempt_none h.backup_eq h.runs
  have hheld := h.admitted.keeps (guarded_invariant (some entry)) p.guarded
    (fun _ => hcurrent ▸ held_guarded h.reachable.cursor.proper) hleaves
  have hsource := h.admitted.keeps (source_invariant (steady_grown p.scanner)
    p.vocabulary.ask.1) p.guarded ⟨.refl _, rfl⟩
  rw [hfailed] at hheld hsource ⊢
  -- the backup holds the entry that was current first, so that is where the cursor is taken
  obtain ⟨passed, hrecorded⟩ := hheld
  rw [runOn_recoverBackup, recoverBackup_recorded hrecorded] at hrecover
  obtain rfl := (Prod.mk.inj hrecover).2
  refine ⟨⟨?_, ?_, hsource.2, hsource.1⟩, rfl, rfl⟩
  · rw [Parser.token?, Parser.token?, hcurrent]
    rfl
  · rw [Parser.position, Parser.position, hcurrent]
    rfl

/-- A production that fails under a backup is taken back to what the backup holds first. -/
theorem FailedAttempt.of_recorded {production : Parse α} {failure : Failure} {guarded : Bool}
    {first : Entry} {passed : List Entry} (hreachable : p.Reachable)
    (hcurrent : p.cursor.current ≠ none) (hbackup : p.cursor.backup = none)
    (hadmitted : Production True production)
    (hrun : production.runOn p.guarded = (.error failure, q))
    (hfailure : failure.isSyntactic = true)
    (hrecorded : q.cursor.Recorded guarded (first :: passed)) :
    FailedAttempt production p { q with cursor := q.cursor.rewound first passed } := by
  refine ⟨hreachable, hcurrent, hbackup, hadmitted, ?_⟩
  have hrecover : recoverBackup.runOn q
      = (.ok (), { q with cursor := q.cursor.rewound first passed }) := by
    rw [runOn_recoverBackup, recoverBackup_recorded hrecorded]
  rw [runOn_attempt production hbackup, hrun]
  dsimp only
  rw [if_pos hfailure]
  exact runOn_bind_ok hrecover

/-! ## An attempt at a token of another line -/

/-- A production that reads a token and does not want it. -/
private def stray : Parse Token := do let _ ← nextToken; mismatch "no"

private theorem production_stray : Production True stray :=
  .bind .nextToken fun _ => Production.composes.mismatch _ _

private theorem runOn_stray {s : Scanner} {token : Token} (hqueue : p.cursor.queue = [])
    (hnext : p.cursor.scanner.next = (.ok token, s)) (hkind : token.kind ≠ .newline) :
    stray.runOn p = (.error (.mismatch ((arrived p s token).unexpected "no" [])),
      (arrived p s token).closeUnguarded) :=
  runOn_bind_ok (runOn_nextToken_of_token hqueue hnext hkind)

/-- Behind an attempt at a stray token that is queued, and its line is retained. -/
private theorem failedAttempt_stray {s : Scanner} {token : Token} (hreachable : p.Reachable)
    (hcurrent : p.cursor.current = some entry) (hbackup : p.cursor.backup = none)
    (hqueue : p.cursor.queue = []) (hnext : p.cursor.scanner.next = (.ok token, s))
    (hkind : token.kind ≠ .newline) :
    FailedAttempt stray p
        { p with cursor := { p.cursor with scanner := s }.rewound entry [scanned s token] } ∧
      LeavesBackup stray p := by
  have hadvance := advance_of_token (c := p.guarded.cursor) hqueue hnext hkind
  have hrecorded := (recorded_guarded hreachable.cursor.proper).advance.1 _ _ hadvance
  rw [hcurrent] at hrecorded
  let r : Parser := arrived p.guarded s token
  have hstray : stray.runOn p.guarded = (.error (.mismatch (r.unexpected "no" [])), r) :=
    runOn_stray hqueue hnext hkind
  have hrewound : r.cursor.rewound entry [scanned s token]
      = { p.cursor with scanner := s }.rewound entry [scanned s token] := rfl
  refine ⟨?_, ?_⟩
  · rw [← hrewound]
    exact .of_recorded hreachable (by simp [hcurrent]) hbackup production_stray hstray rfl hrecorded
  · rw [LeavesBackup, hstray]
    rfl

/-- A text of three lines, the first one blank and the others with one token each. -/
private def threeLines : Scanner := .ofText "\na\nb" "text"

/-- The parser at the first token, with some lines for the construct. -/
private def atFirst (first last : Option Int) : Parser where
  cursor :=
    { scanner := threeLines.next.2, current := some ⟨⟨.identifier, "a"⟩, 2, 0, true⟩
      metNewline := true }
  vocabulary := .own {}
  firstLine := first
  lastLine := last

private theorem next_threeLines :
    threeLines.next = (.ok ⟨.identifier, "a"⟩, (atFirst none none).scanner) := rfl

private theorem next_atFirst (first last : Option Int) : (atFirst first last).cursor.scanner.next
    = (.ok ⟨.identifier, "b"⟩, threeLines.next.2.next.2) := rfl

private theorem reachable_atFirst (first last : Option Int) : (atFirst first last).Reachable := by
  have hrun : nextToken.runOn (.ofScanner threeLines (.own {}))
      = (.ok ⟨.identifier, "a"⟩, atFirst none none) :=
    runOn_nextToken_of_token rfl next_threeLines (by decide)
  have hreached := Parser.Reachable.run (.start threeLines (.own {})) .nextToken
  rw [hrun] at hreached
  exact .run hreached (.setLines first last)

private theorem ready_atFirst (first last : Option Int) (q : Parser) :
    (atFirst first last).Ready q :=
  Or.inr ⟨rfl, Int.le_refl 2⟩

/-- Behind an attempt at the token of the third line. -/
private def afterStray (first last : Option Int) : Parser :=
  { atFirst first last with
    cursor :=
      { scanner := threeLines.next.2.next.2, current := some ⟨⟨.identifier, "a"⟩, 2, 0, true⟩
        metNewline := true, queue := [⟨⟨.identifier, "b"⟩, 3, 0, true⟩] } }

private theorem failedAttempt_atFirst (first last : Option Int) :
    FailedAttempt stray (atFirst first last) (afterStray first last) ∧
      LeavesBackup stray (atFirst first last) :=
  failedAttempt_stray (reachable_atFirst first last) rfl rfl rfl (next_atFirst _ _) (by decide)

/-- A production closes the backup of the attempt, reads the token of the next line and fails with
a backup of its own. -/
private theorem failedAttempt_own_backup :
    ∃ (production : Parse Token) (q : Parser), FailedAttempt production (atFirst none none) q ∧
      ¬ LeavesBackup production (atFirst none none) ∧
      q.startLine ≠ (atFirst none none).startLine ∧ q.context ≠ (atFirst none none).context := by
  let production : Parse Token := do
    discardBackup
    let _ ← nextToken
    startBackup
    throw (.mismatch ((← get).unexpected "no" []))
  let b : Entry := ⟨⟨.identifier, "b"⟩, 3, 0, true⟩
  let r : Parser :=
    { cursor :=
        { scanner := threeLines.next.2.next.2, current := some b, metNewline := true
          backup := some ⟨#[b], false⟩ }
      vocabulary := .own {} }
  have hproduction : Production True production :=
    .bind (.discardBackup trivial) fun _ => .bind .nextToken fun _ =>
      .bind (.startBackup trivial) fun _ => .bind .get fun _ => .throw _
  have hnext : nextToken.runOn (atFirst none none) = (.ok b.token, r.closed) :=
    runOn_nextToken_of_token rfl (next_atFirst none none) (by decide)
  have hrun : production.runOn (atFirst none none).guarded
      = (.error (.mismatch (r.unexpected "no" [])), r) := by
    rw [runOn_bind_ok (runOn_discardBackup_open rfl)]
    exact runOn_bind_ok hnext
  have hrecorded : r.cursor.Recorded false [b] :=
    ⟨rfl, rfl, List.forall_mem_singleton.2 (by decide)⟩
  have hfailed := FailedAttempt.of_recorded (reachable_atFirst none none) nofun rfl hproduction hrun
    rfl hrecorded
  have hleaves : ¬ LeavesBackup production (atFirst none none) := by
    rw [LeavesBackup, hrun]
    decide
  exact ⟨production, _, hfailed, hleaves, by decide, by decide⟩

/-! ## Diagnostics -/

private theorem mismatchIn_ne {r : Registry} {message : String} {name : Option String}
    {scope : String} (hp : p.vocabulary.ask.1 = .ok r) (hq : q.vocabulary.ask.1 = .ok r)
    (h : q.unexpectedIn r message name scope ≠ p.unexpectedIn r message name scope) :
    ((mismatchIn message name scope : Parse α).runOn q).1
      ≠ ((mismatchIn message name scope : Parse α).runOn p).1 := by
  rw [runOn_mismatchIn_of_ok hq, runOn_mismatchIn_of_ok hp]
  intro hsame
  exact h (Failure.mismatch.inj (Except.error.inj hsame))

/-- A failed attempt does not change what is shown, as far as it had been read. Lines of the
construct that the production has left alone are the same as before. The context of the current
token is the same if its line had been read, or if no more lines have been read since. Then so is
the message for a construct, whatever it is, if its lines are the same and the last one of them had
been read as well. -/
theorem attempt_keeps_diagnostics {production : Parse α} (h : FailedAttempt production p q)
    (hleaves : LeavesBackup production p) :
    ((production.runOn p.guarded).2.firstLine = p.firstLine → q.startLine = p.startLine) ∧
    ((production.runOn p.guarded).2.lastLine = p.lastLine → q.endLine = p.endLine) ∧
    (p.Ready q → q.context = p.context ∧
      (q.startLine = p.startLine → q.endLine = p.endLine →
        q.scanner.retained = p.scanner.retained ∨
          0 ≤ p.endLine ∧ p.endLine ≤ p.scanner.retained.size →
        ∀ message name scope, ((mismatchIn message name scope : Parse α).runOn q).1
          = ((mismatchIn message name scope : Parse α).runOn p).1)) := by
  obtain ⟨hfurther, hfirst, hlast⟩ := h.further hleaves
  refine ⟨?_, ?_, fun hready => ⟨hfurther.context_eq hready, ?_⟩⟩
  · intro hsame
    exact hfurther.startLine_eq (hfirst.trans hsame)
  · intro hsame
    exact hfurther.endLine_eq (hlast.trans hsame)
  · intro hstart hend hlines message name scope
    cases hask : p.vocabulary.ask.1 with
    | ok r =>
      rw [runOn_mismatchIn_of_ok hask, runOn_mismatchIn_of_ok (hfurther.ask_eq.trans hask)]
      have hsame := hfurther.unexpectedIn_eq hready hstart hend hlines r message name scope
      exact congrArg (fun message => Except.error (Failure.mismatch message)) hsame
    | error e =>
      rw [runOn_mismatchIn_of_error hask, runOn_mismatchIn_of_error (hfurther.ask_eq.trans hask)]

/-- A production reads the token of the next line and fails. The context of the token in front of it
and the message for an execution block are what they were. -/
theorem attempt_keeps_diagnostics_next_line :
    ∃ (production : Parse Token) (p q : Parser), FailedAttempt production p q ∧
      LeavesBackup production p ∧ p.Ready q ∧ q.scanner.retained ≠ p.scanner.retained ∧
      p.token? = some ⟨.identifier, "a"⟩ ∧ q.startLine = p.startLine ∧ q.endLine = p.endLine ∧
      q.context = p.context ∧
      ((mismatchIn "no" none "execution" : Parse Token).runOn q).1
        = ((mismatchIn "no" none "execution" : Parse Token).runOn p).1 := by
  obtain ⟨hfailed, hleaves⟩ := failedAttempt_atFirst none none
  obtain ⟨hstart, hend, hshows⟩ := attempt_keeps_diagnostics hfailed hleaves
  have hrun := runOn_stray (p := (atFirst none none).guarded) rfl (next_atFirst none none)
    (by decide)
  have hstart := hstart (congrArg (fun run => run.2.firstLine) hrun)
  have hend := hend (congrArg (fun run => run.2.lastLine) hrun)
  obtain ⟨hcontext, hmessage⟩ := hshows (ready_atFirst none none _)
  have hmessage := hmessage hstart hend (Or.inr ⟨by decide, by decide⟩) "no" none "execution"
  exact ⟨stray, _, _, hfailed, hleaves, ready_atFirst none none _, by decide, rfl, hstart, hend,
    hcontext, hmessage⟩

/-- What a failed attempt can leave behind. The lines that its production has set stay. A construct
that ends behind the lines read, or is counted from their end, is shown with more of them; so is a
token that was injected in front of its line, and an end of the file in front of that of the source
is shown at another place. A production that has put a backup of its own in place of that of the
attempt is taken back to another token. -/
theorem attempt_leaves_traces :
    (∃ (production : Parse Token) (p q : Parser), FailedAttempt production p q ∧
      LeavesBackup production p ∧ p.Ready q ∧
      q.startLine ≠ p.startLine ∧ q.endLine ≠ p.endLine) ∧
    (∃ (production : Parse Token) (p q : Parser), FailedAttempt production p q ∧
      LeavesBackup production p ∧ p.Ready q ∧
      q.startLine = p.startLine ∧ q.endLine = p.endLine ∧ p.scanner.retained.size < p.endLine ∧
      ((mismatchIn "no" none "execution" : Parse Token).runOn q).1
        ≠ ((mismatchIn "no" none "execution" : Parse Token).runOn p).1) ∧
    (∃ (production : Parse Token) (p q : Parser), FailedAttempt production p q ∧
      LeavesBackup production p ∧ p.Ready q ∧
      q.startLine = p.startLine ∧ q.endLine = p.endLine ∧ p.endLine < 0 ∧
      ((mismatchIn "no" none "execution" : Parse Token).runOn q).1
        ≠ ((mismatchIn "no" none "execution" : Parse Token).runOn p).1) ∧
    (∃ (production : Parse Token) (p q : Parser), FailedAttempt production p q ∧
      LeavesBackup production p ∧ p.scanner.retained.size < p.position.1 ∧
      q.context ≠ p.context) ∧
    (∃ (production : Parse Token) (p q : Parser), FailedAttempt production p q ∧
      LeavesBackup production p ∧ p.token?.any Token.isEndOfFile = true ∧
      p.position.1 ≤ p.scanner.retained.size ∧ q.context ≠ p.context) ∧
    (∃ (production : Parse Token) (p q : Parser), FailedAttempt production p q ∧
      ¬ LeavesBackup production p ∧ p.Ready q ∧
      q.startLine ≠ p.startLine ∧ q.context ≠ p.context) := by
  have hreachable := reachable_atFirst none none
  refine ⟨?lines, ?behind, ?fromEnd, ?injected, ?endOfFile, ?backup⟩
  case lines =>
    let production : Parse Token := do
      modify fun p => { p with firstLine := some 1, lastLine := some 1 }
      mismatch "no"
    have hproduction : Production True production :=
      .bind (.setLines _ _) fun _ => Production.composes.mismatch _ _
    have hfailed := FailedAttempt.of_recorded hreachable nofun rfl hproduction rfl rfl
      (recorded_guarded hreachable.cursor.proper)
    have hleaves : LeavesBackup production (atFirst none none) := rfl
    exact ⟨production, _, _, hfailed, hleaves, ready_atFirst _ _ _, by decide, by decide⟩
  case behind =>
    obtain ⟨hfailed, hleaves⟩ := failedAttempt_atFirst (some 1) (some 3)
    have hmessage : (afterStray (some 1) (some 3)).unexpectedIn {} "no" none "execution"
        ≠ (atFirst (some 1) (some 3)).unexpectedIn {} "no" none "execution" := by decide
    exact ⟨stray, _, _, hfailed, hleaves, ready_atFirst _ _ _, by decide, by decide, by decide,
      mismatchIn_ne rfl rfl hmessage⟩
  case fromEnd =>
    obtain ⟨hfailed, hleaves⟩ := failedAttempt_atFirst (some 1) (some (-1))
    have hmessage : (afterStray (some 1) (some (-1))).unexpectedIn {} "no" none "execution"
        ≠ (atFirst (some 1) (some (-1))).unexpectedIn {} "no" none "execution" := by decide
    exact ⟨stray, _, _, hfailed, hleaves, ready_atFirst _ _ _, by decide, by decide, by decide,
      mismatchIn_ne rfl rfl hmessage⟩
  case injected =>
    let x : Entry := ⟨⟨.identifier, "x"⟩, 1, 0, false⟩
    let p : Parser :=
      { cursor := { scanner := threeLines, current := some x }, vocabulary := .own {} }
    have hreached : p.Reachable :=
      .run (.run (.start threeLines (.own {})) (.addTokens [x.token])) .nextToken
    obtain ⟨hfailed, hleaves⟩ := failedAttempt_stray hreached rfl rfl rfl next_threeLines
      (by decide)
    exact ⟨stray, p, _, hfailed, hleaves, by decide, by decide⟩
  case endOfFile =>
    let x : Entry := ⟨⟨.endOfFile, ""⟩, 2, 0, false⟩
    let p : Parser :=
      { cursor := { scanner := threeLines.next.2, current := some x }, vocabulary := .own {} }
    have hreached : p.Reachable :=
      .run (.run hreachable (.addTokens [x.token])) .nextToken
    obtain ⟨hfailed, hleaves⟩ := failedAttempt_stray hreached rfl rfl rfl (next_atFirst none none)
      (by decide)
    exact ⟨stray, p, _, hfailed, hleaves, rfl, by decide, by decide⟩
  case backup =>
    obtain ⟨production, q, hfailed, hleaves, hline, hcontext⟩ := failedAttempt_own_backup
    exact ⟨production, _, q, hfailed, hleaves, ready_atFirst _ _ q, hline, hcontext⟩

end ServiceSyntax.Parse

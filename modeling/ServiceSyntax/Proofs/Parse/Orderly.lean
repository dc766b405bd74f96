import ServiceSyntax.Proofs.Parse.Compose
import ServiceSyntax.Proofs.Parse.Placed
import ServiceSyntax.Proofs.Parse.Run

/-!
# Diagnostics of a parse

A parse runs actions that are put together from the operations on a parser and fail through these
or for a reason of their own (`Orderly`). All parsers that it comes to are sound: every entry stands
at a place that fits its line, and no construct begins in front of the first line. So whatever
diagnostic is raised on the way quotes the source (`quotes_of_visited`).
-/

namespace ServiceSyntax

open Scanner Scan

/-- The context of a failure that is a diagnostic. -/
def Failure.context? : Failure → Option Context
  | scan e => some e.context
  | mismatch message | endOfFile message => some message.context
  | backup _ | vocabulary _ | foreign _ => none

namespace Parse

variable {α β : Type} {m : Parse α} {f : α → Parse β} {p q : Parser} {tailored tailored' : Prop}

/-- Runs an action and, where it fails, a handler, which may give a result in its place; otherwise
the failure is raised again. -/
def rescue (m : Parse α) (handler : Failure → Parse (Option α)) : Parse α := do
  match ← outcome m with
  | .ok a => return a
  | .error failure =>
    match ← handler failure with
    | some a => return a
    | none => throw failure

/-- Actions that are put together from operations on a parser, including all operations on backups
and the setting of the lines of a construct, with failures caught anywhere. What may be raised by
one is a message for a construct only where `tailored` says so. -/
inductive Orderly : Prop → ∀ {α : Type}, Parse α → Prop
  | pure {tailored : Prop} {α : Type} (a : α) : Orderly tailored (pure a)
  | bind {tailored : Prop} {α β : Type} {m : Parse α} {f : α → Parse β} : Orderly tailored m →
      (∀ a, Orderly tailored (f a)) → Orderly tailored (m >>= f)
  | get {tailored : Prop} : Orderly tailored (get : Parse Parser)
  | setFirstLine {tailored : Prop} (line : Option Int) (hline : ∀ n, line = some n → 1 ≤ n) :
      Orderly tailored (modify fun p => { p with firstLine := line })
  | setLastLine {tailored : Prop} (line : Option Int) :
      Orderly tailored (modify fun p => { p with lastLine := line })
  | registry {tailored : Prop} : Orderly tailored registry
  | foreign {tailored : Prop} {α : Type} (reason : String) :
      Orderly tailored (throw (.foreign reason) : Parse α)
  | mismatch {tailored : Prop} {α : Type} (message : String) (expected : List String) :
      Orderly tailored (mismatch message expected : Parse α)
  | mismatchIn {tailored : Prop} {α : Type} (htailored : tailored) (message : String)
      (name : Option String) (scope : String) :
      Orderly tailored (mismatchIn message name scope : Parse α)
  | reject {tailored : Prop} {α : Type} (description : String) :
      Orderly tailored (reject description : Parse α)
  | outcome {tailored tailored' : Prop} {α : Type} {m : Parse α} : Orderly tailored' m →
      Orderly tailored (outcome m)
  | rescue {tailored : Prop} {α : Type} {m : Parse α} {handler : Failure → Parse (Option α)} :
      Orderly tailored m → (∀ failure, Orderly tailored (handler failure)) →
      Orderly tailored (rescue m handler)
  | nextToken {tailored : Prop} : Orderly tailored nextToken
  | nextTokenNotEndOfFile {tailored : Prop} : Orderly tailored nextTokenNotEndOfFile
  | skipLine {tailored : Prop} : Orderly tailored skipLine
  | addTokens {tailored : Prop} (tokens : List Token) : Orderly tailored (addTokens tokens)
  | prependToken {tailored : Prop} (token : Token) : Orderly tailored (prependToken token)
  | startBackup {tailored : Prop} (guarded : Bool) : Orderly tailored (startBackup guarded)
  | discardBackup {tailored : Prop} : Orderly tailored discardBackup
  | recoverBackup {tailored : Prop} : Orderly tailored recoverBackup
  | attempt {tailored tailored' : Prop} {α : Type} {m : Parse α} : Orderly tailored' m →
      Orderly tailored (attempt m)

theorem Orderly.composes (tailored : Prop) : Composes tailored (Orderly tailored) where
  pure := .pure
  bind := .bind
  get := .get
  nextToken := .nextToken
  nextTokenNotEndOfFile := .nextTokenNotEndOfFile
  mismatch := .mismatch
  mismatchIn := .mismatchIn

/-- Every call is orderly, and it tailors its messages only if it is made for a construct. -/
theorem Orderly.call (call : Call) (hcall : call.isTailored = true → tailored) :
    Orderly tailored call.run := (composes tailored).call call hcall

end Parse

/-! ## Sound parsers -/

/-- The places of all entries fit their lines, and so does the line that a construct begins in. -/
structure Parser.Sound (p : Parser) : Prop where
  placed : p.cursor.Placed
  first_pos : ∀ n, p.firstLine = some n → 1 ≤ n

namespace Parser.Sound

variable {p : Parser} {cursor : Cursor}

theorem withCursor (h : p.Sound) (hcursor : cursor.Placed) : Sound { p with cursor } :=
  ⟨hcursor, h.first_pos⟩

theorem closeUnguarded (h : p.Sound) : p.closeUnguarded.Sound := by
  unfold Parser.closeUnguarded
  split
  · exact h
  · exact h.withCursor (h.placed.closed)

theorem fits (h : p.Sound) : p.scanner.Fits p.position.1 p.position.2 := by
  unfold position
  cases hcurrent : p.cursor.current with
  | none => exact fits_zero _ (Int.ofNat_le.2 h.placed.counted.line_pos)
  | some entry => exact h.placed.current entry hcurrent

theorem startLine_pos (h : p.Sound) : 1 ≤ p.startLine := by
  unfold startLine
  cases hfirst : p.firstLine with
  | none => exact h.fits.line_pos
  | some n => exact h.first_pos n hfirst

/-- Tokens are queued at the place of the current one. -/
theorem inject (h : p.Sound) (tokens : List Token) (others : List Entry)
    (hothers : ∀ entry ∈ others, p.cursor.current = some entry) :
    (p.cursor.inject
      ((tokens.map fun t => ⟨t, p.position.1, p.position.2, false⟩) ++ others)).Placed := by
  refine h.placed.inject fun entry hentry => ?_
  rcases List.mem_append.1 hentry with hmem | hmem
  · obtain ⟨token, -, rfl⟩ := List.mem_map.1 hmem
    exact h.fits
  · exact h.placed.current entry (hothers entry hmem)

end Parser.Sound

namespace Parse

variable {α β : Type} {m : Parse α} {f : α → Parse β} {p q : Parser} {tailored tailored' : Prop}

/-! ## Sane actions -/

/-- A failure that has been raised quotes the source if it is a diagnostic. Unless it is a message
for a construct its column lies within the code. -/
def Raised (tailored : Prop) (s : Scanner) (failure : Failure) : Prop :=
  ∀ ctx, failure.context? = some ctx →
    s.Quotes ctx ∧ (¬(tailored ∧ failure.isSyntactic) → ctx.Within)

theorem Raised.grown {s t : Scanner} {failure : Failure} (h : Raised tailored s failure)
    (hgrown : Grown s t) : Raised tailored t failure :=
  fun ctx hctx => ⟨(h ctx hctx).1.grown hgrown, (h ctx hctx).2⟩

/-- How an action ends that has been run on a sound parser. -/
structure Ends (tailored : Prop) (p : Parser) (result : Except Failure α) (q : Parser) : Prop where
  sound : q.Sound
  grown : Grown p.scanner q.scanner
  raised : ∀ failure, result = .error failure → Raised tailored q.scanner failure

/-- From a sound parser the action leads to a sound one, and what it raises quotes the source. -/
def Sane (tailored : Prop) (m : Parse α) : Prop :=
  ∀ p, p.Sound → Ends tailored p (m.runOn p).1 (m.runOn p).2

/-- An action that gives a result. -/
theorem ends_ok {a : α} (hq : q.Sound) (hgrown : Grown p.scanner q.scanner) :
    Ends tailored p (.ok a) q := ⟨hq, hgrown, nofun⟩

theorem ends_error {failure : Failure} (hq : q.Sound) (hgrown : Grown p.scanner q.scanner)
    (hraised : Raised tailored q.scanner failure) :
    Ends tailored p (.error failure : Except Failure α) q :=
  ⟨hq, hgrown, fun _ heq => Except.error.inj heq ▸ hraised⟩

/-- A failure that closes the backup. -/
theorem ends_fail {failure : Failure} (hq : q.Sound) (hgrown : Grown p.scanner q.scanner)
    (hraised : Raised tailored q.scanner failure) :
    Ends tailored p (.error failure : Except Failure α) q.closeUnguarded := by
  have hscanner : q.closeUnguarded.scanner = q.scanner := by
    unfold Parser.closeUnguarded
    split <;> rfl
  exact ends_error hq.closeUnguarded (hscanner ▸ hgrown) (hscanner ▸ hraised)

theorem raised_scan {s : Scanner} {e : ScanError} (h : Cursor.Quoted s e) :
    Raised tailored s (.scan e) := by
  intro ctx hctx
  obtain rfl := Option.some.inj hctx
  exact ⟨h.1, fun _ => h.2⟩

namespace Sane

theorem pure (a : α) : Sane tailored (Pure.pure a : Parse α) := fun _ hp => ends_ok hp (.refl _)

theorem bind (hm : Sane tailored m) (hf : ∀ a, Sane tailored (f a)) : Sane tailored (m >>= f) := by
  intro p hp
  have hends := hm p hp
  rw [runOn_bind]
  cases hrun : m.runOn p with
  | mk result q =>
    rw [hrun] at hends
    cases result with
    | ok a =>
      have hends' := hf a q hends.sound
      exact ⟨hends'.sound, hends.grown.trans hends'.grown, hends'.raised⟩
    | error failure => exact ends_error hends.sound hends.grown (hends.raised failure rfl)

theorem throw {failure : Failure} (hfailure : failure.context? = none) :
    Sane tailored (MonadExcept.throw failure : Parse α) := by
  refine fun p hp => ends_error hp (.refl _) fun ctx hctx => ?_
  rw [hfailure] at hctx
  cases hctx

/-- A complaint is about the parser that is seen. -/
theorem complain {failure : Parser → Failure}
    (hfailure : ∀ p, p.Sound → Raised tailored p.scanner (failure p)) :
    Sane tailored (do fail (failure (← get)) : Parse α) := by
  intro p hp
  exact ends_fail hp (.refl _) (hfailure p hp)

/-- A registry that cannot be had is no matter of the source. -/
theorem registry : Sane tailored Parse.registry := by
  intro p hp
  cases hask : p.vocabulary.ask.1 with
  | ok r =>
    rw [runOn_registry_of_ok hask]
    exact ends_ok ⟨hp.placed, hp.first_pos⟩ (.refl _)
  | error e =>
    rw [runOn_registry_of_error hask]
    exact ends_error hp (.refl _) nofun

theorem mismatch (message : String) (expected : List String) :
    Sane tailored (Parse.mismatch message expected : Parse α) := by
  refine complain fun p hp ctx hctx => ?_
  obtain rfl := Option.some.inj hctx
  have hquotes := p.quotes_unexpected hp.fits message expected
  exact ⟨hquotes.1, fun _ => hquotes.2⟩

theorem mismatchIn (htailored : tailored) (message : String) (name : Option String)
    (scope : String) : Sane tailored (Parse.mismatchIn message name scope : Parse α) := by
  refine registry.bind fun r => complain fun p hp ctx hctx => ?_
  obtain rfl := Option.some.inj hctx
  exact ⟨p.quotes_unexpectedIn hp.fits hp.startLine_pos r message name scope,
    fun hnot => absurd ⟨htailored, rfl⟩ hnot⟩

theorem reject (description : String) : Sane tailored (Parse.reject description : Parse α) := by
  refine complain fun p hp ctx hctx => ?_
  obtain rfl := Option.some.inj hctx
  have hquotes := p.quotes_context hp.fits
  exact ⟨hquotes.1, fun _ => hquotes.2⟩

theorem nextToken : Sane tailored Parse.nextToken := by
  intro p hp
  obtain ⟨hplaced, hgrown, hquoted⟩ := hp.placed.advance
  rw [runOn_nextToken]
  cases hadvance : p.cursor.advance with
  | mk result cursor =>
    rw [hadvance] at hplaced hgrown hquoted
    cases result with
    | ok entry => exact ends_ok (hp.withCursor hplaced) hgrown
    | error e => exact ends_fail (hp.withCursor hplaced) hgrown (raised_scan (hquoted e rfl))

theorem nextTokenNotEndOfFile : Sane tailored Parse.nextTokenNotEndOfFile := by
  intro p hp
  have hends : Ends tailored p _ _ := nextToken p hp
  rw [runOn_nextTokenNotEndOfFile]
  cases hrun : Parse.nextToken.runOn p with
  | mk result q =>
    rw [hrun] at hends
    cases result with
    | error failure => exact hends
    | ok token =>
      dsimp only
      split
      · refine ends_fail hends.sound hends.grown fun ctx hctx => ?_
        obtain rfl := Option.some.inj hctx
        have hquotes := q.quotes_context hends.sound.fits
        exact ⟨hquotes.1, fun _ => hquotes.2⟩
      · exact hends

theorem skipLine : Sane tailored Parse.skipLine := by
  intro p hp
  obtain ⟨hplaced, hgrown, hquoted⟩ := hp.placed.skipLine
  rw [runOn_skipLine]
  cases hskip : p.cursor.skipLine with
  | mk result cursor =>
    rw [hskip] at hplaced hgrown hquoted
    cases result with
    | ok skipped => exact ends_ok (hp.withCursor hplaced) hgrown
    | error e => exact ends_error (hp.withCursor hplaced) hgrown (raised_scan (hquoted e rfl))

theorem startBackup (guarded : Bool) : Sane tailored (Parse.startBackup guarded) := by
  intro p hp
  rw [runOn_startBackup]
  cases hstart : p.cursor.startBackup guarded with
  | ok cursor =>
    obtain ⟨hplaced, hgrown⟩ := hp.placed.startBackup hstart
    exact ends_ok (hp.withCursor hplaced) hgrown
  | error e => exact ends_error hp (.refl _) nofun

theorem discardBackup : Sane tailored Parse.discardBackup := by
  intro p hp
  rw [runOn_discardBackup]
  cases hdiscard : p.cursor.discardBackup with
  | ok cursor =>
    obtain ⟨hplaced, hgrown⟩ := hp.placed.discardBackup hdiscard
    exact ends_ok (hp.withCursor hplaced) hgrown
  | error e => exact ends_error hp (.refl _) nofun

theorem recoverBackup : Sane tailored Parse.recoverBackup := by
  intro p hp
  rw [runOn_recoverBackup]
  cases hrecover : p.cursor.recoverBackup with
  | ok recovered =>
    obtain ⟨result, cursor⟩ := recovered
    obtain ⟨hplaced, hgrown, hquoted⟩ := hp.placed.recoverBackup hrecover
    cases result with
    | ok _ => exact ends_ok (hp.withCursor hplaced) hgrown
    | error e => exact ends_error (hp.withCursor hplaced) hgrown (raised_scan (hquoted e rfl))
  | error e => exact ends_error hp (.refl _) nofun

/-- What has been caught may be raised again later on. -/
theorem outcome_bind {f : Except Failure α → Parse β} (hm : Sane tailored m)
    (hok : ∀ a, Sane tailored' (f (.ok a)))
    (herror : ∀ failure p, p.Sound → Raised tailored p.scanner failure →
      Ends tailored' p ((f (.error failure)).runOn p).1 ((f (.error failure)).runOn p).2) :
    Sane tailored' (outcome m >>= f) := by
  intro p hp
  have hends := hm p hp
  rw [runOn_bind_ok (runOn_outcome m p)]
  cases hrun : m.runOn p with
  | mk result q =>
    rw [hrun] at hends
    have hends' : Ends tailored' q ((f result).runOn q).1 ((f result).runOn q).2 := by
      cases result with
      | ok a => exact hok a q hends.sound
      | error failure => exact herror failure q hends.sound (hends.raised failure rfl)
    exact ⟨hends'.sound, hends.grown.trans hends'.grown, hends'.raised⟩

theorem rescue {handler : Failure → Parse (Option α)} (hm : Sane tailored m)
    (hhandler : ∀ failure, Sane tailored (handler failure)) :
    Sane tailored (Parse.rescue m handler) := by
  refine outcome_bind hm pure fun failure p hp hraised => ?_
  have hends := hhandler failure p hp
  dsimp only
  rw [runOn_bind]
  cases hrun : (handler failure).runOn p with
  | mk result q =>
    rw [hrun] at hends
    cases result with
    | error failure' => exact ends_error hends.sound hends.grown (hends.raised failure' rfl)
    | ok recovered =>
      cases recovered with
      | some a => exact ends_ok hends.sound hends.grown
      | none => exact ends_error hends.sound hends.grown (hraised.grown hends.grown)

/-- An attempt lets through no message for a construct. -/
theorem attempt (hm : Sane tailored' m) : Sane tailored (Parse.attempt m) := by
  refine (startBackup true).bind fun _ => outcome_bind hm ?_ ?_
  · exact fun a => discardBackup.bind fun _ => pure _
  · -- a message for a construct is syntactic, so it ends here
    intro failure p hp hraised
    dsimp only
    by_cases hsyntactic : failure.isSyntactic = true
    · rw [if_pos hsyntactic]
      exact recoverBackup.bind (fun _ => pure _) p hp
    · rw [if_neg hsyntactic]
      have hends : Ends tailored p _ _ := discardBackup p hp
      rw [runOn_bind]
      cases hrun : Parse.discardBackup.runOn p with
      | mk result q =>
        rw [hrun] at hends
        cases result with
        | error failure' => exact ends_error hends.sound hends.grown (hends.raised failure' rfl)
        | ok _ =>
          refine ends_error hends.sound hends.grown fun ctx hctx => ?_
          have hquotes := hraised.grown hends.grown ctx hctx
          exact ⟨hquotes.1, fun _ => hquotes.2 fun hboth => hsyntactic hboth.2⟩

end Sane

theorem Orderly.sane (h : Orderly tailored m) : Sane tailored m := by
  induction h with
  | pure a => exact .pure a
  | bind _ _ ihm ihf => exact ihm.bind ihf
  | get => exact fun _ hp => ends_ok hp (.refl _)
  | setFirstLine line hline => exact fun _ hp => ends_ok ⟨hp.placed, hline⟩ (.refl _)
  | setLastLine line => exact fun _ hp => ends_ok ⟨hp.placed, hp.first_pos⟩ (.refl _)
  | registry => exact .registry
  | foreign reason => exact .throw rfl
  | mismatch message expected => exact .mismatch message expected
  | mismatchIn htailored message name scope => exact .mismatchIn htailored message name scope
  | reject description => exact .reject description
  | outcome _ ih =>
    intro p hp
    have hends := ih p hp
    exact ends_ok hends.sound hends.grown
  | rescue _ _ ihm ihhandler => exact ihm.rescue ihhandler
  | nextToken => exact .nextToken
  | nextTokenNotEndOfFile => exact .nextTokenNotEndOfFile
  | skipLine => exact .skipLine
  | addTokens tokens =>
    intro p hp
    have hplaced := hp.inject tokens [] (List.forall_mem_nil _)
    rw [List.append_nil] at hplaced
    exact ends_ok (hp.withCursor hplaced) (.refl _)
  | prependToken token =>
    intro p hp
    have hplaced := hp.inject [token] p.cursor.current.toList (by simp)
    exact ends_ok (hp.withCursor hplaced) (.refl _)
  | startBackup guarded => exact .startBackup guarded
  | discardBackup => exact .discardBackup
  | recoverBackup => exact .recoverBackup
  | attempt _ ih => exact ih.attempt

end Parse

/-! ## Visited parsers -/

/-- The parsers that orderly actions lead to from one that has read nothing yet, for any input, in
layout mode or outside it, and for any vocabulary. A parser inside an attempt is one of them. -/
inductive Parser.Visited : Parser → Prop
  | start (input : Input) (name : String) (layout : Bool) (vocabulary : Vocabulary) :
      Visited (.ofScanner (input.scanner name layout) vocabulary)
  | run {tailored : Prop} {α : Type} {m : Parse α} {p : Parser} : Visited p →
      Parse.Orderly tailored m → Visited (m.runOn p).2

theorem Parser.Visited.sound {p : Parser} (h : Visited p) : p.Sound := by
  induction h with
  | start input name layout vocabulary =>
    have hplaced : Cursor.Placed { scanner := input.scanner name layout } := by
      refine ⟨input.counted name layout, ?_, List.forall_mem_nil _, ?_⟩
      · intro entry hcurrent
        cases hcurrent
      · intro b hbackup
        cases hbackup
    refine ⟨hplaced, ?_⟩
    intro n hfirst
    cases hfirst
  | run _ hm ih => exact (hm.sane _ ih).sound

/-- Whenever an action fails with a diagnostic, its code is what has been retained of the lines that
it spans, from its first line on. Its column lies within its first line of code, unless the message
is one for a construct. -/
theorem Parse.quotes_of_visited {α : Type} {m : Parse α} {p q : Parser} {tailored : Prop}
    {failure : Failure} {ctx : Context} (hp : p.Visited) (hm : Orderly tailored m)
    (hrun : m.runOn p = (.error failure, q)) (hctx : failure.context? = some ctx) :
    (∀ (i : Nat) line, ctx.code[i]? = some line →
      q.scanner.codeLine? (ctx.startLine + i) = some line) ∧
    (ctx.code ≠ [] → ctx.endLine = ctx.startLine + ctx.code.length - 1) ∧
    (¬(tailored ∧ failure.isSyntactic) → ∀ line, ctx.code.head? = some line →
      0 ≤ ctx.column ∧ ctx.column ≤ line.length) := by
  have hends := hm.sane p hp.sound
  rw [hrun] at hends
  obtain ⟨hquotes, hwithin⟩ := hends.raised failure rfl ctx hctx
  exact ⟨hquotes.codeLine_eq, hquotes.endLine_eq, hwithin⟩

/-- The first of two tokens in a line is not the one that is expected, and the line is shown. -/
theorem Parse.quotes_of_visited_line :
    ∃ (p q : Parser) (failure : Failure) (ctx : Context), p.Visited ∧
      Orderly False (mismatch "a number is expected" [] : Parse Token) ∧
      (mismatch "a number is expected" [] : Parse Token).runOn p = (.error failure, q) ∧
      failure.context? = some ctx ∧ ctx.startLine = 1 ∧ ctx.code = ["a b\n"] ∧ ctx.endLine = 1 ∧
      q.scanner.codeLine? 1 = some "a b\n" ∧
      0 ≤ ctx.column ∧ ctx.column ≤ ("a b\n".length : Int) := by
  let text : Scanner := .ofText "a b\n" "text"
  let a : Entry := ⟨⟨.identifier, "a"⟩, 1, 0, false⟩
  let p : Parser := { cursor := { scanner := text.next.2, current := some a }, vocabulary := {} }
  have ha : Parse.nextToken.runOn (.ofScanner text {}) = (.ok a.token, p) :=
    runOn_nextToken_of_token (t := a.token) (s := text.next.2) rfl rfl (by decide)
  have hp : p.Visited := by
    have hnext : Orderly False Parse.nextToken := .nextToken
    have hvisited := (Parser.Visited.start (.text "a b\n") "text" false {}).run hnext
    rwa [show (Input.text "a b\n").scanner "text" false = text from rfl, ha] at hvisited
  have hm : Orderly False (mismatch "a number is expected" [] : Parse Token) := .mismatch _ _
  have hrun : (mismatch "a number is expected" [] : Parse Token).runOn p
      = (.error (.mismatch (p.unexpected "a number is expected" [])), p) := rfl
  have hctx : (Failure.mismatch (p.unexpected "a number is expected" [])).context?
      = some p.context := rfl
  obtain ⟨hcode, hend, hcolumn⟩ := quotes_of_visited hp hm hrun hctx
  obtain ⟨hnonneg, hle⟩ := hcolumn (fun hboth => hboth.1) "a b\n" rfl
  exact ⟨p, p, _, _, hp, hm, hrun, hctx, rfl, rfl, hend (by decide), hcode 0 _ rfl, hnonneg, hle⟩

end ServiceSyntax

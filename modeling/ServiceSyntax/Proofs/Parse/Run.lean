import ServiceSyntax.Parse.Parser
import ServiceSyntax.Proofs.Parse.Advance

/-!
# Running actions

An action on a parser gives a result or a failure and the parser behind it (`runOn`). Here is what
a run of each way to combine actions, and of each operation on the cursor or on the vocabulary,
comes to.
-/

namespace ServiceSyntax

/-- A session that cannot give its registry stays as it is. -/
theorem Session.eq_of_get_error {s : Session} {host : Host} {e : LoadError}
    (h : (s.get host).1 = .error e) : (s.get host).2 = s := by
  unfold get at h ⊢
  split
  · rfl
  · rename_i hunset
    rw [hunset] at h
    cases hload : s.load host none with
    | ok r =>
      rw [hload] at h
      cases h
    | error e => rfl

namespace Vocabulary

variable {v : Vocabulary} {r : Registry} {e : LoadError}

theorem ask_of_some (h : v.registry = some r) : v.ask = (.ok r, v) := by
  rw [ask, h]

/-- A registry that is asked for is there from then on. -/
theorem registry_of_ask (h : v.ask.1 = .ok r) : v.ask.2.registry = some r := by
  unfold ask at h ⊢
  cases hregistry : v.registry with
  | some r' =>
    rw [hregistry] at h
    dsimp only
    rw [hregistry, Except.ok.inj h]
  | none =>
    rw [hregistry] at h
    exact congrArg Except.toOption h

/-- Where the registry cannot be had the vocabulary stays as it is. -/
theorem ask_of_error (h : v.ask.1 = .error e) : v.ask.2 = v := by
  unfold ask at h ⊢
  cases hregistry : v.registry with
  | some r => rfl
  | none =>
    rw [hregistry] at h
    have herror : (v.session.get v.host).1 = .error e := h
    dsimp only
    rw [herror, Session.eq_of_get_error herror]
    show { v with registry := none } = v
    rw [← hregistry]

/-- Asking again gives the same and changes nothing. -/
theorem ask_ask (v : Vocabulary) : v.ask.2.ask = v.ask := by
  cases hask : v.ask.1 with
  | ok r =>
    rw [ask_of_some (registry_of_ask hask), ← hask]
  | error e => rw [ask_of_error hask]

end Vocabulary

namespace Parse

variable {α β : Type}

/-- What an action gives on a parser, and the parser behind it. -/
def runOn (m : Parse α) (p : Parser) : Except Failure α × Parser := Id.run (m.run.run p)

/-! ## Combined actions -/

@[simp] theorem runOn_pure (a : α) (p : Parser) : (pure a : Parse α).runOn p = (.ok a, p) := rfl

@[simp] theorem runOn_get (p : Parser) : (get : Parse Parser).runOn p = (.ok p, p) := rfl

@[simp] theorem runOn_outcome (m : Parse α) (p : Parser) :
    (outcome m).runOn p = (.ok (m.runOn p).1, (m.runOn p).2) := rfl

/-- A failure of the first action is one of both. -/
theorem runOn_bind (m : Parse α) (f : α → Parse β) (p : Parser) :
    (m >>= f).runOn p = match m.runOn p with
      | (.ok a, q) => (f a).runOn q
      | (.error failure, q) => (.error failure, q) := by
  show Id.run ((m >>= f).run.run p) = _
  unfold runOn
  rw [ExceptT.run_bind, StateT.run_bind]
  rcases m.run.run p with ⟨result, q⟩
  cases result <;> rfl

theorem runOn_bind_ok {m : Parse α} {f : α → Parse β} {p q : Parser} {a : α}
    (h : m.runOn p = (.ok a, q)) : (m >>= f).runOn p = (f a).runOn q := by
  rw [runOn_bind, h]

theorem runOn_bind_error {m : Parse α} {f : α → Parse β} {p q : Parser} {failure : Failure}
    (h : m.runOn p = (.error failure, q)) : (m >>= f).runOn p = (.error failure, q) := by
  rw [runOn_bind, h]

/-- Where both actions together give a result, each of them does. -/
theorem exists_of_runOn_bind {m : Parse α} {f : α → Parse β} {p q : Parser} {b : β}
    (h : (m >>= f).runOn p = (.ok b, q)) :
    ∃ a r, m.runOn p = (.ok a, r) ∧ (f a).runOn r = (.ok b, q) := by
  rw [runOn_bind] at h
  cases hrun : m.runOn p with
  | mk result r =>
    rw [hrun] at h
    cases result with
    | ok a => exact ⟨a, r, rfl, h⟩
    | error failure => cases (Prod.mk.inj h).1

theorem runOn_map (m : Parse α) (f : α → β) (p : Parser) :
    (do return f (← m) : Parse β).runOn p = ((m.runOn p).1.map f, (m.runOn p).2) := by
  rw [runOn_bind]
  cases m.runOn p with
  | mk result q => cases result <;> rfl

/-! ## The cursor -/

theorem runOn_onCursor {operation : Cursor → Except ScanError α × Cursor}
    {result : Except ScanError α} {cursor : Cursor} {p : Parser}
    (h : operation p.cursor = (result, cursor)) :
    (onCursor operation).runOn p = (.ok result, { p with cursor }) := by
  have hrun : (onCursor operation).runOn p
      = (.ok (operation p.cursor).1, { p with cursor := (operation p.cursor).2 }) := rfl
  rw [hrun, h]

theorem runOn_nextToken (p : Parser) :
    nextToken.runOn p = match p.cursor.advance with
      | (.ok entry, cursor) => (.ok entry.token, { p with cursor })
      | (.error e, cursor) => (.error (.scan e), { p with cursor }.closeUnguarded) := by
  cases hadvance : p.cursor.advance with
  | mk result cursor =>
    unfold nextToken
    rw [runOn_bind_ok (runOn_onCursor hadvance)]
    cases result <;> rfl

/-- The parser behind the next token of its scanner. -/
def arrived (p : Parser) (t : Scanner) (token : Token) : Parser :=
  { p with
    cursor := { p.cursor with scanner := t, metNewline := t.metNewline }.arrive
      (Cursor.scanned t token) }

theorem runOn_nextToken_of_token {p : Parser} {s : Scanner} {t : Token}
    (hqueue : p.cursor.queue = []) (hnext : p.cursor.scanner.next = (.ok t, s))
    (hkind : t.kind ≠ .newline) : nextToken.runOn p = (.ok t, arrived p s t) := by
  rw [runOn_nextToken, Cursor.advance_of_token hqueue hnext hkind]
  rfl

theorem runOn_nextTokenNotEndOfFile (p : Parser) :
    nextTokenNotEndOfFile.runOn p = match nextToken.runOn p with
      | (.ok token, q) =>
        if token.isEndOfFile then
          (.error (.endOfFile { context := q.context, description := "Unexpected end of file" }),
            q.closeUnguarded)
        else (.ok token, q)
      | (.error failure, q) => (.error failure, q) := by
  unfold nextTokenNotEndOfFile
  rw [runOn_bind]
  cases nextToken.runOn p with
  | mk result q =>
    cases result with
    | ok token =>
      simp only
      split <;> rfl
    | error failure => rfl

theorem runOn_skipLine (p : Parser) :
    skipLine.runOn p = match p.cursor.skipLine with
      | (.ok (), cursor) => (.ok (), { p with cursor })
      | (.error e, cursor) => (.error (.scan e), { p with cursor }) := by
  cases hskip : p.cursor.skipLine with
  | mk result cursor =>
    unfold skipLine
    rw [runOn_bind_ok (runOn_onCursor hskip)]
    cases result <;> rfl

theorem runOn_startBackup (guarded : Bool) (p : Parser) :
    (startBackup guarded).runOn p = match p.cursor.startBackup guarded with
      | .ok cursor => (.ok (), { p with cursor })
      | .error e => (.error (.backup e), p) := by
  unfold startBackup
  rw [runOn_bind_ok (runOn_get p)]
  cases p.cursor.startBackup guarded <;> rfl

theorem runOn_discardBackup (p : Parser) :
    discardBackup.runOn p = match p.cursor.discardBackup with
      | .ok cursor => (.ok (), { p with cursor })
      | .error e => (.error (.backup e), p) := by
  unfold discardBackup
  rw [runOn_bind_ok (runOn_get p)]
  cases p.cursor.discardBackup <;> rfl

theorem runOn_recoverBackup (p : Parser) :
    recoverBackup.runOn p = match p.cursor.recoverBackup with
      | .ok (.ok (), cursor) => (.ok (), { p with cursor })
      | .ok (.error e, cursor) => (.error (.scan e), { p with cursor })
      | .error e => (.error (.backup e), p) := by
  unfold recoverBackup
  rw [runOn_bind_ok (runOn_get p)]
  cases p.cursor.recoverBackup with
  | error e => rfl
  | ok recovered =>
    obtain ⟨result, cursor⟩ := recovered
    cases result <;> rfl

/-! ## The vocabulary -/

section

variable {p : Parser} {r : Registry} {e : LoadError}

theorem runOn_registry_of_ok (h : p.vocabulary.ask.1 = .ok r) :
    registry.runOn p = (.ok r, { p with vocabulary := p.vocabulary.ask.2 }) := by
  have hask : p.vocabulary.ask = (.ok r, p.vocabulary.ask.2) := Prod.ext h rfl
  unfold registry
  rw [runOn_bind_ok (runOn_get p), hask]
  rfl

/-- A registry that cannot be had changes nothing. -/
theorem runOn_registry_of_error (h : p.vocabulary.ask.1 = .error e) :
    registry.runOn p = (.error (.vocabulary e), p) := by
  -- what is kept behind a request that fails is what was there before
  have hask : p.vocabulary.ask = (.error e, p.vocabulary) :=
    Prod.ext h (Vocabulary.ask_of_error h)
  unfold registry
  rw [runOn_bind_ok (runOn_get p), hask]
  rfl

/-- A message for a construct is made from the registry. -/
theorem runOn_mismatchIn_of_ok (h : p.vocabulary.ask.1 = .ok r) (message : String)
    (name : Option String) (scope : String) :
    (mismatchIn message name scope : Parse α).runOn p
      = (.error (.mismatch (p.unexpectedIn r message name scope)),
          { p with vocabulary := p.vocabulary.ask.2 }.closeUnguarded) :=
  runOn_bind_ok (runOn_registry_of_ok h)

/-- Where the registry cannot be had there is no message, and nothing changes. -/
theorem runOn_mismatchIn_of_error (h : p.vocabulary.ask.1 = .error e) (message : String)
    (name : Option String) (scope : String) :
    (mismatchIn message name scope : Parse α).runOn p = (.error (.vocabulary e), p) :=
  runOn_bind_error (runOn_registry_of_error h)

end

end Parse

end ServiceSyntax

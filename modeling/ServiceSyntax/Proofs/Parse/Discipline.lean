import ServiceSyntax.Proofs.Parse.Attempt

/-!
# Who closes a backup

A diagnostic closes the backup that is open, unless an attempt has opened it (`Tidies`). The backup
of an attempt is kept by every operation but the two that close one on purpose, and so by everything
that is put together from the others (`Routine.keeps_under`). An operation on a backup that does not
fit is refused and changes nothing.
-/

namespace ServiceSyntax

/-- Scan errors and messages are diagnostics; misuse of a backup, the want of a vocabulary and
reasons of a production are none. -/
def Failure.IsDiagnostic : Failure → Prop
  | scan _ | mismatch _ | endOfFile _ => True
  | backup _ | vocabulary _ | foreign _ => False

namespace Parse

variable {α β : Type} {closing : Prop} {m : Parse α} {f : α → Parse β} {p q : Parser} {b : Backup}

/-! ## Runs of operations -/

/-- What can be asked of a parser. Closing a backup on purpose is among it where `closing` says so,
and an attempt may be made of any action. -/
inductive Operation (closing : Prop) : {α : Type} → Parse α → Prop
  | call (call : Call) : Operation closing call.run
  | look {α : Type} (view : Parser → α) : Operation closing (do return view (← get))
  | registry : Operation closing registry
  | helpIn (ctx : Context) (term scope : String) : Operation closing (helpIn ctx term scope)
  | addTokens (tokens : List Token) : Operation closing (addTokens tokens)
  | prependToken (token : Token) : Operation closing (prependToken token)
  | setFirstLine (line : Option Int) :
      Operation closing (modify fun p => { p with firstLine := line })
  | setLastLine (line : Option Int) :
      Operation closing (modify fun p => { p with lastLine := line })
  | reject {α : Type} (description : String) : Operation closing (reject description : Parse α)
  | attempt {α : Type} (m : Parse α) : Operation closing (attempt m)
  | startBackup : Operation closing startBackup
  | discardBackup : closing → Operation closing discardBackup
  | recoverBackup : closing → Operation closing recoverBackup

/-- Operations one after the other: what comes next may depend on what was given before, a failure
may be caught, and a run may give up for a reason of its own. -/
inductive Routine (closing : Prop) : {α : Type} → Parse α → Prop
  | operation {α : Type} {m : Parse α} : Operation closing m → Routine closing m
  | pure {α : Type} (a : α) : Routine closing (pure a)
  | bind {α β : Type} {m : Parse α} {f : α → Parse β} : Routine closing m →
      (∀ a, Routine closing (f a)) → Routine closing (m >>= f)
  | throw {α : Type} (failure : Failure) : Routine closing (throw failure : Parse α)
  | outcome {α : Type} {m : Parse α} : Routine closing m → Routine closing (outcome m)

/-! ## Diagnostics -/

/-- No backup is open, or else it is that of an attempt. -/
def Tidy (p : Parser) : Prop := ∀ b, p.cursor.backup = some b → b.guarded = true

/-- Where the action fails with a diagnostic, it leaves no backup open but that of an attempt. -/
def Tidies (m : Parse α) : Prop :=
  ∀ p failure q, m.runOn p = (.error failure, q) → failure.IsDiagnostic → Tidy q

theorem tidy_of_closed (h : Closed p) : Tidy p := by
  intro b hb
  rw [h] at hb
  cases hb

theorem tidy_closeUnguarded (p : Parser) : Tidy p.closeUnguarded := by
  unfold Parser.closeUnguarded
  split
  · rename_i hguarded
    intro b hb
    simpa [Cursor.isGuarded, hb] using hguarded
  · exact tidy_of_closed rfl

/-- The parser behind a failure of the action. -/
theorem tidies_of_error (h : ∀ p failure, (m.runOn p).1 = .error failure →
    failure.IsDiagnostic → Tidy (m.runOn p).2) : Tidies m := by
  intro p failure q hrun hdiagnostic
  have htidy := h p failure
  rw [hrun] at htidy
  exact htidy rfl hdiagnostic

namespace Tidies

/-- An action that always gives a result. -/
theorem of_ok {g : Parser → α} (h : ∀ p, (m.runOn p).1 = .ok (g p)) : Tidies m := by
  apply tidies_of_error
  intro p failure herror
  rw [h] at herror
  cases herror

theorem pure (a : α) : Tidies (Pure.pure a : Parse α) := of_ok (g := fun _ => a) fun _ => rfl

theorem get : Tidies (MonadState.get : Parse Parser) := of_ok (g := id) fun _ => rfl

/-- An action that always ends without a backup. -/
theorem of_closed (h : ∀ p, Closed (m.runOn p).2) : Tidies m :=
  tidies_of_error fun p _ _ _ => tidy_of_closed (h p)

theorem fail (failure : Failure) : Tidies (Parse.fail failure : Parse α) :=
  tidies_of_error fun p _ _ _ => tidy_closeUnguarded p

/-- The diagnostic is that of the action that fails. -/
theorem bind (hm : Tidies m) (hf : ∀ a, Tidies (f a)) : Tidies (m >>= f) := by
  intro p failure q hrun hdiagnostic
  rw [runOn_bind] at hrun
  cases hfirst : m.runOn p with
  | mk result r =>
    rw [hfirst] at hrun
    cases result with
    | ok a => exact hf a r failure q hrun hdiagnostic
    | error failure' =>
      obtain ⟨hfailure, rfl⟩ := Prod.mk.inj hrun
      obtain rfl := Except.error.inj hfailure
      exact hm p failure' r hfirst hdiagnostic

theorem nextToken : Tidies Parse.nextToken := by
  intro p failure q hrun _
  rw [runOn_nextToken] at hrun
  cases hadvance : p.cursor.advance with
  | mk result cursor =>
    rw [hadvance] at hrun
    cases result with
    | ok entry => cases (Prod.mk.inj hrun).1
    | error e =>
      rw [← (Prod.mk.inj hrun).2]
      exact tidy_closeUnguarded _

/-- Where the registry cannot be had there is no diagnostic. -/
theorem registry : Tidies Parse.registry := by
  intro p failure q hrun hdiagnostic
  cases hask : p.vocabulary.ask.1 with
  | ok r =>
    rw [runOn_registry_of_ok hask] at hrun
    cases (Prod.mk.inj hrun).1
  | error e =>
    rw [runOn_registry_of_error hask] at hrun
    obtain rfl := Except.error.inj (Prod.mk.inj hrun).1
    cases hdiagnostic

theorem composes : Composes True Tidies := .of_fail pure bind get nextToken registry fail

/-- What an operation on backups refuses is no diagnostic. -/
theorem startBackup (guarded : Bool) : Tidies (Parse.startBackup guarded) := by
  intro p failure q hrun hdiagnostic
  rw [runOn_startBackup] at hrun
  cases hstart : p.cursor.startBackup guarded with
  | ok cursor =>
    rw [hstart] at hrun
    cases (Prod.mk.inj hrun).1
  | error e =>
    rw [hstart] at hrun
    obtain rfl := Except.error.inj (Prod.mk.inj hrun).1
    cases hdiagnostic

/-- Inside a backup an attempt is refused, and otherwise it leaves none open. -/
theorem attempt (m : Parse α) : Tidies (Parse.attempt m) := by
  intro p failure q hrun hdiagnostic
  cases hbackup : p.cursor.backup with
  | some b =>
    rw [runOn_attempt_open m hbackup] at hrun
    obtain rfl := Except.error.inj (Prod.mk.inj hrun).1
    cases hdiagnostic
  | none =>
    have hclosed := closed_attempt m hbackup
    rw [hrun] at hclosed
    exact tidy_of_closed hclosed

end Tidies

theorem Operation.tidies (h : Operation closing m) : Tidies m := by
  cases h with
  | call call => exact Tidies.composes.call call fun _ => trivial
  | look view => exact .of_ok (g := view) fun _ => rfl
  | registry => exact .registry
  | helpIn ctx term scope => exact Tidies.registry.bind fun _ => .pure _
  | addTokens tokens => exact .of_ok (g := fun _ => ()) fun _ => rfl
  | prependToken token => exact .of_ok (g := fun _ => ()) fun _ => rfl
  | setFirstLine line => exact .of_ok (g := fun _ => ()) fun _ => rfl
  | setLastLine line => exact .of_ok (g := fun _ => ()) fun _ => rfl
  | reject description => exact Tidies.get.bind fun _ => .fail _
  | attempt m => exact .attempt m
  | startBackup => exact .startBackup false
  | discardBackup _ => exact .of_closed closed_discardBackup
  | recoverBackup _ => exact .of_closed closed_recoverBackup

/-! ## The backup of an attempt -/

/-- The backup of an attempt is still open; entries have only been added to it. -/
def Under (b : Backup) (p : Parser) : Prop :=
  ∃ passed, p.cursor.backup = some ⟨b.entries ++ passed, true⟩

theorem under_refl (hbackup : p.cursor.backup = some b) (hguarded : b.guarded = true) :
    Under b p := by
  refine ⟨#[], ?_⟩
  rw [Array.append_empty, ← hguarded]
  exact hbackup

theorem Under.advance (h : Under b p) : Under b { p with cursor := p.cursor.advance.2 } := by
  obtain ⟨passed, hbackup⟩ := h
  obtain ⟨s, queue, met, ⟨e, hadvance⟩ | ⟨entry, -, hadvance⟩⟩ :=
    Cursor.exists_advance p.cursor.scanner p.cursor.queue
  · rw [hadvance p.cursor rfl rfl]
    exact ⟨passed, hbackup⟩
  · -- the entry that becomes current is recorded
    rw [hadvance p.cursor rfl rfl]
    refine ⟨passed.push entry, ?_⟩
    show p.cursor.backup.map _ = _
    rw [hbackup, Option.map_some, Array.push_append]

/-- Only closing a backup on purpose closes that of an attempt. -/
theorem under_invariant (b : Backup) : Invariant False (Under b) where
  advance _ h := h.advance
  dropLine p h := by
    obtain ⟨passed, hbackup⟩ := h
    refine ⟨passed, ?_⟩
    rw [Cursor.skipLine_eq]
    exact hbackup
  inject _ _ h := h
  setLines _ _ _ h := h
  ask _ h := h
  closeUnguarded p h := by
    obtain ⟨passed, hbackup⟩ := h
    rw [Parser.closeUnguarded, if_pos (by simp [Cursor.isGuarded, hbackup])]
    exact ⟨passed, hbackup⟩
  attempt m _ p h := by
    obtain ⟨passed, hbackup⟩ := h
    rw [runOn_attempt_open m hbackup]
    exact ⟨passed, hbackup⟩
  startBackup := nofun
  discardBackup := nofun
  recoverBackup := nofun

theorem Operation.keeps_under (h : Operation False m) : Keeps (Under b) m := by
  have hinvariant := under_invariant b
  cases h with
  | call call => exact (Production.call call).keeps hinvariant
  | look view => exact fun _ hp => hp
  | registry => exact .registry hinvariant.ask
  | helpIn ctx term scope => exact (Keeps.registry hinvariant.ask).bind fun _ => .pure _
  | addTokens tokens => exact fun p hp => hinvariant.inject p _ hp
  | prependToken token => exact fun p hp => hinvariant.inject p _ hp
  | setFirstLine line => exact fun _ hp => hp
  | setLastLine line => exact fun _ hp => hp
  | reject description => exact fun p hp => hinvariant.closeUnguarded p hp
  | attempt m =>
    intro p hp
    obtain ⟨passed, hbackup⟩ := hp
    rw [runOn_attempt_open m hbackup]
    exact ⟨passed, hbackup⟩
  | startBackup =>
    intro p hp
    obtain ⟨passed, hbackup⟩ := hp
    rw [runOn_startBackup_open hbackup]
    exact ⟨passed, hbackup⟩
  | discardBackup hclosing => exact hclosing.elim
  | recoverBackup hclosing => exact hclosing.elim

/-- What each operation keeps is kept by a run of them. -/
theorem Routine.keeps_under (h : Routine False m) : Keeps (Under b) m := by
  induction h with
  | operation hm => exact hm.keeps_under
  | pure a => exact .pure a
  | bind _ _ ihm ihf => exact ihm.bind ihf
  | throw failure => exact .throw failure
  | outcome _ ih => exact ih.outcome

/-! ## Refusals -/

theorem runOn_discardBackup_closed (hbackup : p.cursor.backup = none) :
    discardBackup.runOn p = (.error (.backup .nothingToDiscard), p) := by
  rw [runOn_discardBackup, Cursor.discardBackup, hbackup]

theorem runOn_recoverBackup_closed (hbackup : p.cursor.backup = none) :
    recoverBackup.runOn p = (.error (.backup .nothingToRecover), p) := by
  rw [runOn_recoverBackup, Cursor.recoverBackup, hbackup]

/-! ## The discipline of backups -/

/-- Whatever has been done to a parser before: behind an operation that fails with a diagnostic no
backup is open but that of an attempt. The backup of an attempt stays open, with all that it has
recorded, through every run of operations that does not close it on purpose, however it ends; the
attempt itself closes it. A backup is not opened inside another one, and none is closed where none
is open: this is refused, and nothing changes. -/
theorem backup_discipline (p : Parser) :
    (∀ {α : Type} {m : Parse α} {failure : Failure} {q : Parser}, Operation True m →
      m.runOn p = (.error failure, q) → failure.IsDiagnostic →
      ∀ b, q.cursor.backup = some b → b.guarded = true) ∧
    (∀ b, p.cursor.backup = some b → b.guarded = true →
      ∀ {α : Type} {m : Parse α}, Routine False m →
        ∃ passed, (m.runOn p).2.cursor.backup = some ⟨b.entries ++ passed, true⟩) ∧
    (p.cursor.backup = none → ∀ {α : Type} (m : Parse α),
      (startBackup true).runOn p = (.ok (), p.guarded) ∧
      ((attempt m).runOn p).2.cursor.backup = none) ∧
    (∀ b, p.cursor.backup = some b → ∀ guarded,
      (startBackup guarded).runOn p = (.error (.backup .alreadyOpen), p)) ∧
    (p.cursor.backup = none →
      recoverBackup.runOn p = (.error (.backup .nothingToRecover), p) ∧
      discardBackup.runOn p = (.error (.backup .nothingToDiscard), p)) := by
  refine ⟨?diagnostic, ?guarded, ?attempt, ?opened, ?closed⟩
  case diagnostic =>
    intro α m failure q hm hrun hdiagnostic
    exact hm.tidies p failure q hrun hdiagnostic
  case guarded =>
    intro b hbackup hguarded α m hm
    exact hm.keeps_under p (under_refl hbackup hguarded)
  case attempt =>
    intro hbackup α m
    exact ⟨runOn_startBackup_closed hbackup, closed_attempt m hbackup⟩
  case opened =>
    intro b hbackup guarded
    exact runOn_startBackup_open hbackup guarded
  case closed =>
    intro hbackup
    exact ⟨runOn_recoverBackup_closed hbackup, runOn_discardBackup_closed hbackup⟩

/-- A name is current where a text is expected. The message closes the backup that has been opened
by hand. Inside an attempt a production reads the next name and fails in the same way; the backup
then holds both names and is still open, and no other one can be opened. -/
theorem backup_discipline_mismatch :
    ∃ (p opened q : Parser) (complaint production : Parse Answer) (failure : Failure),
      p.token? = some ⟨.identifier, "a"⟩ ∧ p.cursor.backup = none ∧
      startBackup.runOn p = (.ok (), opened) ∧ opened.cursor.backup.isSome = true ∧
      Operation True complaint ∧ complaint.runOn opened = (.error failure, q) ∧
      failure.IsDiagnostic ∧ (∀ b, q.cursor.backup = some b → b.guarded = true) ∧
      (production.runOn p.guarded).1.isOk = false ∧
      (∃ passed, (production.runOn p.guarded).2.cursor.backup
        = some ⟨p.cursor.current.toArray ++ passed, true⟩) ∧
      ((attempt production).runOn p).2.cursor.backup = none ∧
      startBackup.runOn opened = (.error (.backup .alreadyOpen), opened) ∧
      discardBackup.runOn p = (.error (.backup .nothingToDiscard), p) := by
  let fresh : Parser := .ofScanner (.ofText "" "text") {}
  let p : Parser := (nextToken.runOn
    ((addTokens [⟨.identifier, "a"⟩, ⟨.identifier, "b"⟩]).runOn fresh).2).2
  let opened : Parser := (startBackup.runOn p).2
  let complaint : Parse Answer := Call.run (.eat .string "a text is expected")
  let production : Parse Answer := do let _ ← Call.run .nextToken; complaint
  have hcomplaint (closing : Prop) : Operation closing complaint := .call _
  have hproduction : Routine False production :=
    .bind (.operation (.call _)) fun _ => .operation (hcomplaint False)
  have hrun : complaint.runOn opened = (.error (.mismatch _), (complaint.runOn opened).2) := rfl
  obtain ⟨-, -, hattempt, -, hclosed⟩ := backup_discipline p
  obtain ⟨hdiagnostic, -, -, hopened, -⟩ := backup_discipline opened
  obtain ⟨-, hguarded, -, -, -⟩ := backup_discipline p.guarded
  exact ⟨p, opened, _, complaint, production, _, rfl, rfl, rfl, rfl, hcomplaint True, hrun,
    trivial, hdiagnostic (hcomplaint True) hrun trivial, rfl, hguarded _ rfl rfl hproduction,
    (hattempt rfl production).2, hopened _ rfl false, (hclosed rfl).2⟩

end Parse

end ServiceSyntax

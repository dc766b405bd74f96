import ServiceSyntax.Proofs.Parse.Compose
import ServiceSyntax.Proofs.Parse.Replay
import ServiceSyntax.Proofs.Parse.Run

/-!
# Productions

A production is put together from the operations on a parser: it may look at the parser at any
time, go on as it likes from what it sees, fail for any reason and catch failures. What every
operation keeps is kept by every production (`Production.keeps`), so the cursor of a parser that
productions have led to is a reachable one (`Parser.Reachable.cursor`).
-/

namespace ServiceSyntax

namespace Parse

variable {α β : Type} {sessions : Prop} {m : Parse α} {f : α → Parse β}

/-- Actions that are put together from operations on a parser. Opening a backup and closing one are
among them where `sessions` says so; an attempt always is. -/
inductive Production (sessions : Prop) : {α : Type} → Parse α → Prop
  | pure {α : Type} (a : α) : Production sessions (pure a)
  | bind {α β : Type} {m : Parse α} {f : α → Parse β} : Production sessions m →
      (∀ a, Production sessions (f a)) → Production sessions (m >>= f)
  | get : Production sessions (get : Parse Parser)
  | setLines (first last : Option Int) :
      Production sessions (modify fun p => { p with firstLine := first, lastLine := last })
  | throw {α : Type} (failure : Failure) : Production sessions (throw failure : Parse α)
  | fail {α : Type} (failure : Failure) : Production sessions (fail failure : Parse α)
  | outcome {α : Type} {m : Parse α} : Production sessions m → Production sessions (outcome m)
  | registry : Production sessions registry
  | nextToken : Production sessions nextToken
  | skipLine : Production sessions skipLine
  | addTokens (tokens : List Token) : Production sessions (addTokens tokens)
  | prependToken (token : Token) : Production sessions (prependToken token)
  | attempt {α : Type} {m : Parse α} : Production sessions m → Production sessions (attempt m)
  | startBackup : sessions → Production sessions (startBackup)
  | discardBackup : sessions → Production sessions discardBackup
  | recoverBackup : sessions → Production sessions recoverBackup

/-! ## Operations -/

namespace Production

theorem composes : Composes True (Production sessions) :=
  .of_fail .pure .bind .get .nextToken .registry .fail

theorem eat (kind : Kind) (message : String) : Production sessions (eat kind message) :=
  composes.eat kind message

/-- Every call is a production. -/
theorem call (call : Call) : Production sessions call.run := composes.call call fun _ => trivial

end Production

/-! ## Invariants -/

variable {inv : Parser → Prop}

/-- The action leads from a parser with the property to one that has it, also where it fails. -/
def Keeps (inv : Parser → Prop) (m : Parse α) : Prop := ∀ p, inv p → inv (m.runOn p).2

namespace Keeps

theorem pure (a : α) : Keeps inv (Pure.pure a : Parse α) := fun _ h => h

theorem throw (failure : Failure) : Keeps inv (MonadExcept.throw failure : Parse α) := fun _ h => h

/-- What the first action leads to is kept by the second one. -/
theorem after {p : Parser} (hm : inv (m.runOn p).2) (hf : ∀ a, Keeps inv (f a)) :
    inv ((m >>= f).runOn p).2 := by
  rw [runOn_bind]
  cases hrun : m.runOn p with
  | mk result q =>
    rw [hrun] at hm
    cases result with
    | ok a => exact hf a q hm
    | error failure => exact hm

theorem bind (hm : Keeps inv m) (hf : ∀ a, Keeps inv (f a)) : Keeps inv (m >>= f) :=
  fun p h => after (hm p h) hf

theorem outcome (hm : Keeps inv m) : Keeps inv (Parse.outcome m) := hm

theorem registry (hask : ∀ p, inv p → inv { p with vocabulary := p.vocabulary.ask.2 }) :
    Keeps inv Parse.registry := by
  intro p hp
  cases hresult : p.vocabulary.ask.1 with
  | ok r =>
    rw [runOn_registry_of_ok hresult]
    exact hask p hp
  | error e =>
    rw [runOn_registry_of_error hresult]
    exact hp

/-- An error on the way to the next token closes a backup that belongs to no attempt. -/
theorem nextToken (hadvance : ∀ p, inv p → inv { p with cursor := p.cursor.advance.2 })
    (hclose : ∀ p, inv p → inv p.closeUnguarded) : Keeps inv Parse.nextToken := by
  intro p hp
  have hq := hadvance p hp
  rw [runOn_nextToken]
  cases hread : p.cursor.advance with
  | mk result cursor =>
    rw [hread] at hq
    cases result with
    | ok entry => exact hq
    | error e => exact hclose _ hq

theorem skipLine (hskip : ∀ p, inv p → inv { p with cursor := p.cursor.skipLine.2 }) :
    Keeps inv Parse.skipLine := by
  intro p hp
  have hq := hskip p hp
  rw [runOn_skipLine]
  cases hdrop : p.cursor.skipLine with
  | mk result cursor =>
    rw [hdrop] at hq
    cases result <;> exact hq

/-! An operation on a backup that is refused leaves the parser as it is. -/

theorem startBackup {guarded : Bool} (hstart : ∀ p cursor, inv p →
    p.cursor.startBackup guarded = .ok cursor → inv { p with cursor }) :
    Keeps inv (Parse.startBackup guarded) := by
  intro p hp
  rw [runOn_startBackup]
  cases hopen : p.cursor.startBackup guarded with
  | ok cursor => exact hstart p cursor hp hopen
  | error e => exact hp

theorem discardBackup (hdiscard : ∀ p cursor, inv p →
    p.cursor.discardBackup = .ok cursor → inv { p with cursor }) :
    Keeps inv Parse.discardBackup := by
  intro p hp
  rw [runOn_discardBackup]
  cases hclosed : p.cursor.discardBackup with
  | ok cursor => exact hdiscard p cursor hp hclosed
  | error e => exact hp

theorem recoverBackup (hrecover : ∀ p result cursor, inv p →
    p.cursor.recoverBackup = .ok (result, cursor) → inv { p with cursor }) :
    Keeps inv Parse.recoverBackup := by
  intro p hp
  rw [runOn_recoverBackup]
  cases hback : p.cursor.recoverBackup with
  | ok recovered =>
    obtain ⟨result, cursor⟩ := recovered
    cases result <;> exact hrecover p _ cursor hp hback
  | error e => exact hp

/-- An attempt runs its production between the operations on its backup. -/
theorem attempt (hm : Keeps inv m) (hstart : Keeps inv (Parse.startBackup true))
    (hdiscard : Keeps inv Parse.discardBackup) (hrecover : Keeps inv Parse.recoverBackup) :
    Keeps inv (Parse.attempt m) := by
  refine hstart.bind fun _ => hm.outcome.bind fun result => ?_
  cases result with
  | ok a => exact hdiscard.bind fun _ => pure _
  | error failure =>
    simp only
    split
    · exact hrecover.bind fun _ => pure _
    · exact hdiscard.bind fun _ => throw _

end Keeps

/-- Every operation keeps the property. -/
structure Invariant (sessions : Prop) (inv : Parser → Prop) : Prop where
  advance : ∀ p, inv p → inv { p with cursor := p.cursor.advance.2 }
  dropLine : ∀ p, inv p → inv { p with cursor := p.cursor.skipLine.2 }
  inject : ∀ p entries, inv p → inv { p with cursor := p.cursor.inject entries }
  setLines : ∀ p first last, inv p → inv { p with firstLine := first, lastLine := last }
  ask : ∀ p, inv p → inv { p with vocabulary := p.vocabulary.ask.2 }
  closeUnguarded : ∀ p, inv p → inv p.closeUnguarded
  attempt : ∀ {α : Type} (m : Parse α), Keeps inv m → Keeps inv (attempt m)
  startBackup : sessions → Keeps inv (startBackup)
  discardBackup : sessions → Keeps inv discardBackup
  recoverBackup : sessions → Keeps inv recoverBackup

/-- What every operation keeps is kept by every production. -/
theorem Production.keeps (hm : Production sessions m) (h : Invariant sessions inv) :
    Keeps inv m := by
  induction hm with
  | pure a => exact .pure a
  | bind _ _ ihm ihf => exact ihm.bind ihf
  | get => exact fun _ hp => hp
  | setLines first last => exact fun p hp => h.setLines p first last hp
  | throw failure => exact .throw failure
  | fail failure => exact fun p hp => h.closeUnguarded p hp
  | outcome _ ih => exact ih.outcome
  | registry => exact .registry h.ask
  | nextToken => exact .nextToken h.advance h.closeUnguarded
  | skipLine => exact .skipLine h.dropLine
  | addTokens tokens => exact fun p hp => h.inject p _ hp
  | prependToken token => exact fun p hp => h.inject p _ hp
  | attempt _ ih => exact h.attempt _ ih
  | startBackup hsessions => exact h.startBackup hsessions
  | discardBackup hsessions => exact h.discardBackup hsessions
  | recoverBackup hsessions => exact h.recoverBackup hsessions

end Parse

/-! ## Reachable parsers -/

/-- The parsers that productions lead to from one that has read nothing yet. -/
inductive Parser.Reachable : Parser → Prop
  | start (scanner : Scanner) (vocabulary : Vocabulary) : Reachable (.ofScanner scanner vocabulary)
  | run {α : Type} {m : Parse α} {p : Parser} : Reachable p → Parse.Production True m →
      Reachable (m.runOn p).2

namespace Parse

theorem startBackup_reachable (guarded : Bool) :
    Keeps (fun p => p.cursor.Reachable) (startBackup guarded) :=
  .startBackup fun _ _ hp hstart => hp.startBackup hstart

theorem discardBackup_reachable : Keeps (fun p => p.cursor.Reachable) discardBackup :=
  .discardBackup fun _ _ hp hdiscard => hp.discardBackup hdiscard

theorem recoverBackup_reachable : Keeps (fun p => p.cursor.Reachable) recoverBackup :=
  .recoverBackup fun _ _ _ hp hrecover => hp.recoverBackup hrecover

/-- Each operation on a parser is one on its cursor. -/
theorem reachable_invariant (sessions : Prop) :
    Invariant sessions fun p => p.cursor.Reachable where
  advance _ hp := hp.advance
  dropLine _ hp := hp.skipLine
  inject _ entries hp := hp.inject entries
  setLines _ _ _ hp := hp
  ask _ hp := hp
  closeUnguarded p hp := by
    unfold Parser.closeUnguarded
    split
    · exact hp
    · cases hbackup : p.cursor.backup with
      | none => rwa [← hbackup]
      | some b => exact hp.discardBackup (by rw [Cursor.discardBackup, hbackup])
  attempt _ hm :=
    hm.attempt (startBackup_reachable true) discardBackup_reachable recoverBackup_reachable
  startBackup _ := startBackup_reachable false
  discardBackup _ := discardBackup_reachable
  recoverBackup _ := recoverBackup_reachable

end Parse

theorem Parser.Reachable.cursor {p : Parser} (h : Reachable p) : p.cursor.Reachable := by
  induction h with
  | start scanner vocabulary => exact .start scanner
  | run _ hm ih => exact hm.keeps (Parse.reachable_invariant True) _ ih

end ServiceSyntax

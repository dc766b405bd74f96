import ServiceSyntax.Proofs.Parse.Ahead
import ServiceSyntax.Proofs.Parse.Call

/-!
# Calls on a parser that has read ahead

Every call gives the same result whether tokens have been read ahead or not, and it leaves the one
parser ahead of the other (`follows_call`). A call first inspects the parser, which changes nothing
but the vocabulary where that is asked for, and then it may read one token; so it can be told from
its result whether the last reading of a token has succeeded (`Call.settles`).
-/

namespace ServiceSyntax

/-- A call with this answer has read a token. -/
def Call.reads : Call → Answer → Bool
  | .nextToken, _ | .nextTokenNotEndOfFile, _ => true
  | .eat .., _ | .eatIn .., _ | .eatIdentifier .., _ | .eatWord .., _ => true
  | .maybeEat _, answer => answer = .flag true
  | _, _ => false

/-- Whether the last reading of a token has succeeded, behind a call with its result. The end of
the file has been read where it was not expected. -/
def Call.settles (call : Call) (before : Bool) : Except Failure Answer → Bool
  | .ok answer => call.reads answer || before
  | .error (.scan _) => false
  | .error (.endOfFile _) => true
  | .error _ => before

/-- What the current token is refused with. It may be that there is no vocabulary for a message. -/
def Failure.IsComplaint : Failure → Prop
  | mismatch _ | vocabulary _ => True
  | _ => False

namespace Parse

variable {α β : Type} {m : Parse α} {f : α → Parse β} {p q : Parser} {reads : α → Bool}
  {reads' : β → Bool}

/-! ## Inspection -/

/-- The action looks at the parser only, and what it finds does not depend on what has been read
ahead. Nothing changes but the vocabulary, which may be asked for. -/
def Inspects (m : Parse α) : Prop :=
  ∀ p q, Ahead p q → ∃ result vocabulary,
    m.runOn p = (result, { p with vocabulary }) ∧ m.runOn q = (result, { q with vocabulary }) ∧
      ∀ failure, result = .error failure → failure.IsComplaint

namespace Inspects

theorem pure (a : α) : Inspects (Pure.pure a : Parse α) := by
  intro p q h
  refine ⟨.ok a, p.vocabulary, rfl, ?_, nofun⟩
  rw [← h.vocabulary_eq]
  rfl

theorem fail (message : Message) : Inspects (Parse.fail (.mismatch message) : Parse α) := by
  intro p q h
  have hrun (r : Parser) : (Parse.fail (.mismatch message) : Parse α).runOn r
      = (.error (.mismatch message), r.closeUnguarded) := rfl
  refine ⟨.error (.mismatch message), p.vocabulary, ?_, ?_, ?_⟩
  · rw [hrun, Parser.closeUnguarded_eq h.backup_eq]
  · rw [hrun, Parser.closeUnguarded_eq h.backup_eq', ← h.vocabulary_eq]
  · intro failure heq
    rw [← Except.error.inj heq]
    trivial

theorem look {k : Parser → Parse α} (hk : ∀ p, Inspects (k p))
    (hblind : ∀ p q, Ahead p q → k q = k p) : Inspects (get >>= k) := by
  intro p q h
  rw [runOn_bind_ok (runOn_get q), runOn_bind_ok (runOn_get p), hblind p q h]
  exact hk p p q h

theorem bind (hm : Inspects m) (hf : ∀ a, Inspects (f a)) : Inspects (m >>= f) := by
  intro p q h
  obtain ⟨result, vocabulary, hp, hq, hcomplaint⟩ := hm p q h
  cases result with
  | ok a =>
    rw [runOn_bind_ok hp, runOn_bind_ok hq]
    exact hf a _ _ (h.withVocabulary vocabulary)
  | error failure =>
    refine ⟨.error failure, vocabulary, runOn_bind_error hp, runOn_bind_error hq, ?_⟩
    intro failure' heq
    rw [← Except.error.inj heq]
    exact hcomplaint failure rfl

/-- Both parsers ask for the same registry. -/
theorem registry : Inspects Parse.registry := by
  intro p q h
  have hsame : q.vocabulary.ask = p.vocabulary.ask := congrArg Vocabulary.ask h.vocabulary_eq
  cases hask : p.vocabulary.ask.1 with
  | ok r =>
    refine ⟨.ok r, p.vocabulary.ask.2, runOn_registry_of_ok hask, ?_, nofun⟩
    rw [← hsame] at hask ⊢
    exact runOn_registry_of_ok hask
  | error e =>
    refine ⟨.error (.vocabulary e), p.vocabulary, runOn_registry_of_error hask, ?_, ?_⟩
    · rw [← hsame] at hask
      rw [← h.vocabulary_eq]
      exact runOn_registry_of_error hask
    · intro failure heq
      rw [← Except.error.inj heq]
      trivial

theorem current? (accepts : Token → Bool) : Inspects (Parse.current? accepts) :=
  look (fun _ => pure _) fun p q h => by rw [h.token?_eq]

theorem complain (message : String) (expected : List String) :
    Inspects (Parse.mismatch message expected : Parse α) :=
  look (fun _ => fail _) fun p q h => by rw [h.unexpected_eq]

theorem complainIn (message : String) (name : Option String) (scope : String) :
    Inspects (Parse.mismatchIn message name scope : Parse α) :=
  registry.bind fun r => look (fun _ => fail _) fun p q h => by rw [h.unexpectedIn_eq]

theorem assertToken (kind : Kind) (message : String) :
    Inspects (Parse.assertToken kind message) :=
  (current? _).bind fun
    | some token => pure token
    | none => complain message _

theorem assertTokenIn (kind : Kind) (message : String) (name : Option String) (scope : String) :
    Inspects (Parse.assertTokenIn kind message name scope) :=
  (current? _).bind fun
    | some token => pure token
    | none => complainIn message name scope

theorem assertIdentifier (message : String) : Inspects (Parse.assertIdentifier message) :=
  (current? _).bind fun
    | some token => pure token
    | none => complain message _

end Inspects

/-! ## Reading one token -/

/-- How an action ends that reads a token where its result says so. Otherwise the cursor has not
moved. -/
def Lands (p : Parser) (reads : α → Bool) : Except Failure α × Parser → Prop
  | (.ok a, p') => p'.Settled ∨ reads a = false ∧ p'.cursor = p.cursor
  | (.error (.scan _), _) => True
  | (.error (.endOfFile _), p') => p'.Settled
  | (.error _, p') => p'.cursor = p.cursor

theorem Lands.of_isComplaint {failure : Failure} (h : failure.IsComplaint) {p' : Parser}
    (hcursor : p'.cursor = p.cursor) :
    Lands p reads (.error failure, p') := by
  cases failure with
  | mismatch message => exact hcursor
  | vocabulary e => exact hcursor
  | _ => exact h.elim

/-- Where the cursor stands is all that counts. -/
theorem Lands.of_cursor_eq {p' : Parser} (hcursor : p'.cursor = p.cursor)
    {ended : Except Failure α × Parser} (h : Lands p' reads ended) : Lands p reads ended := by
  obtain ⟨result, r⟩ := ended
  cases result with
  | ok a => exact h.imp_right fun hstill => ⟨hstill.1, hstill.2.trans hcursor⟩
  | error failure =>
    cases failure with
    | scan e => trivial
    | endOfFile message => exact h
    | _ => exact Eq.trans h hcursor

/-- The action does the same on both parsers. -/
structure Follows (reads : α → Bool) (m : Parse α) (p q : Parser) : Prop where
  result_eq : (m.runOn q).1 = (m.runOn p).1
  ahead : Ahead (m.runOn p).2 (m.runOn q).2
  lands : Lands p reads (m.runOn p)

namespace Follows

theorem of_runOn {result : Except Failure α} {p' q' : Parser} (hp : m.runOn p = (result, p'))
    (hq : m.runOn q = (result, q')) (hahead : Ahead p' q') (hlands : Lands p reads (result, p')) :
    Follows reads m p q := by
  refine ⟨?_, ?_, ?_⟩
  · rw [hp, hq]
  · rw [hp, hq]
    exact hahead
  · rw [hp]
    exact hlands

theorem congr {m' : Parse α} (h : Follows reads m' p q) (hp : m.runOn p = m'.runOn p)
    (hq : m.runOn q = m'.runOn q) : Follows reads m p q := by
  obtain ⟨hresult, hahead, hlands⟩ := h
  rw [← hp, ← hq] at hresult hahead
  rw [← hp] at hlands
  exact ⟨hresult, hahead, hlands⟩

theorem pure {a : α} (hreads : reads a = false) (h : Ahead p q) :
    Follows reads (Pure.pure a) p q := ⟨rfl, h, Or.inr ⟨hreads, rfl⟩⟩

/-- An inspection reads nothing. -/
theorem inspect (hm : Inspects m) (hreads : ∀ a, reads a = false) (h : Ahead p q) :
    Follows reads m p q := by
  obtain ⟨result, vocabulary, hp, hq, hcomplaint⟩ := hm p q h
  refine of_runOn hp hq (h.withVocabulary vocabulary) ?_
  cases result with
  | ok a => exact Or.inr ⟨hreads a, rfl⟩
  | error failure => exact .of_isComplaint (hcomplaint failure rfl) rfl

/-- What comes behind an inspection starts from the same places. -/
theorem after (hm : Inspects m) (hf : ∀ a {p' q' : Parser}, Ahead p' q' →
    Follows reads' (f a) p' q') (h : Ahead p q) : Follows reads' (m >>= f) p q := by
  obtain ⟨result, vocabulary, hp, hq, hcomplaint⟩ := hm p q h
  have hahead := h.withVocabulary vocabulary
  cases result with
  | ok a =>
    obtain ⟨hresult, hahead', hlands⟩ := hf a hahead
    rw [← runOn_bind_ok hp, ← runOn_bind_ok hq] at hresult hahead'
    rw [← runOn_bind_ok hp] at hlands
    exact ⟨hresult, hahead', hlands.of_cursor_eq rfl⟩
  | error failure =>
    refine of_runOn (runOn_bind_error hp) (runOn_bind_error hq) hahead ?_
    exact .of_isComplaint (hcomplaint failure rfl) rfl

/-- A result that is given back in another form. -/
theorem map (hm : Follows reads m p q) (g : α → β) (hreads : ∀ a, reads' (g a) = reads a) :
    Follows reads' (do return g (← m)) p q := by
  obtain ⟨hresult, hahead, hlands⟩ := hm
  cases hrun : m.runOn p with
  | mk result p' =>
    cases hrun' : m.runOn q with
    | mk result' q' =>
      rw [hrun, hrun'] at hresult hahead
      rw [hrun] at hlands
      obtain rfl : result = result' := hresult.symm
      cases result with
      | ok a =>
        have hreads : reads' (g a) = reads a := hreads a
        rw [Lands, ← hreads] at hlands
        exact of_runOn (runOn_bind_ok hrun) (runOn_bind_ok hrun') hahead hlands
      | error failure =>
        refine of_runOn (runOn_bind_error hrun) (runOn_bind_error hrun') hahead ?_
        cases failure <;> exact hlands

/-- A token is read, and that is all. -/
theorem nextToken (h : Ahead p q) : Follows (fun _ => true) nextToken p q := by
  obtain ⟨hresult, hahead, hends⟩ := nextToken_ahead h
  refine ⟨hresult, hahead, ?_⟩
  cases hrun : Parse.nextToken.runOn p with
  | mk result p' =>
    rw [hrun] at hends
    rcases hends with ⟨token, rfl, hsettled⟩ | ⟨e, rfl⟩
    · exact Or.inl hsettled
    · trivial

/-- The end of the file is complained about where it has been read. -/
theorem nextTokenNotEndOfFile (h : Ahead p q) :
    Follows (fun _ => true) nextTokenNotEndOfFile p q := by
  obtain ⟨hresult, hahead, hends⟩ := nextToken_ahead h
  cases hrun : Parse.nextToken.runOn p with
  | mk result p' =>
    cases hrun' : Parse.nextToken.runOn q with
    | mk result' q' =>
      rw [hrun, hrun'] at hresult hahead
      rw [hrun] at hends
      obtain rfl : result = result' := hresult.symm
      have hp := runOn_nextTokenNotEndOfFile p
      have hq := runOn_nextTokenNotEndOfFile q
      rw [hrun] at hp
      rw [hrun'] at hq
      rcases hends with ⟨token, rfl, hsettled⟩ | ⟨e, rfl⟩
      · cases hend : token.isEndOfFile with
        | true =>
          simp only [hend, if_true, Parser.closeUnguarded_eq hahead.backup_eq] at hp
          simp only [hend, if_true, Parser.closeUnguarded_eq hahead.backup_eq',
            hahead.context_eq] at hq
          exact of_runOn hp hq hahead hsettled
        | false =>
          simp only [hend, Bool.false_eq_true, if_false] at hp hq
          exact of_runOn hp hq hahead (Or.inl hsettled)
      · exact of_runOn hp hq hahead trivial

/-- A token that has been inspected is read past. -/
theorem eat {m : Parse Token} (hm : Inspects m) (h : Ahead p q) :
    Follows (fun _ => true) (do let eaten ← m; let _ ← Parse.nextToken; return eaten) p q :=
  after hm (fun eaten _ _ h => (nextToken h).map (fun _ => eaten) fun _ => rfl) h

theorem eatWord (word message : String) (h : Ahead p q) :
    Follows (fun _ => true) (Parse.eatWord word message) p q := by
  refine after (.assertToken .identifier message) (fun eaten p' q' h' => ?_) h
  have hnext {p q : Parser} (h : Ahead p q) :
      Follows (fun _ => true) (do let _ ← Parse.nextToken; return eaten) p q :=
    (nextToken h).map (fun _ => eaten) fun _ => rfl
  split
  · exact hnext h'
  · exact after (.complain message [word]) (fun _ _ _ => hnext) h'

theorem maybeEat (kinds : List Kind) (h : Ahead p q) : Follows id (Parse.maybeEat kinds) p q := by
  refine after (.current? _) (fun found p' q' h' => ?_) h
  cases found with
  | some _ => exact (nextToken h').map (fun _ => true) fun _ => rfl
  | none => exact pure rfl h'

end Follows

/-- Every call does the same on both parsers. -/
theorem follows_call (call : Call) (h : Ahead p q) : Follows call.reads call.run p q := by
  cases call with
  | nextToken => exact (Follows.nextToken h).map _ fun _ => rfl
  | nextTokenNotEndOfFile => exact (Follows.nextTokenNotEndOfFile h).map _ fun _ => rfl
  | assertToken kind message =>
    exact .inspect ((Inspects.assertToken kind message).bind fun _ => .pure _) (fun _ => rfl) h
  | assertTokenIn kind message name scope =>
    exact .inspect ((Inspects.assertTokenIn kind message name scope).bind fun _ => .pure _)
      (fun _ => rfl) h
  | assertIdentifier message =>
    exact .inspect ((Inspects.assertIdentifier message).bind fun _ => .pure _) (fun _ => rfl) h
  | eat kind message => exact (Follows.eat (.assertToken kind message) h).map _ fun _ => rfl
  | eatIn kind message name scope =>
    exact (Follows.eat (.assertTokenIn kind message name scope) h).map _ fun _ => rfl
  | eatIdentifier message =>
    exact (Follows.eat (.assertIdentifier message) h).map _ fun _ => rfl
  | eatWord word message => exact (Follows.eatWord word message h).map _ fun _ => rfl
  | maybeEat kinds => exact (Follows.maybeEat kinds h).map _ fun moved => by cases moved <;> rfl
  | metNewline =>
    exact .inspect (.look (fun _ => .pure _) fun p q h => by rw [h.metNewline_eq]) (fun _ => rfl) h
  | context =>
    exact .inspect (.look (fun _ => .pure _) fun p q h => by rw [h.context_eq]) (fun _ => rfl) h
  | mismatch message expected => exact .inspect (.complain message expected) (fun _ => rfl) h
  | mismatchIn message name scope =>
    exact .inspect (.complainIn message name scope) (fun _ => rfl) h

/-- What a call tells about the last reading of a token is so. -/
theorem Lands.settled {call : Call} {before : Bool} {result : Except Failure Answer}
    {p' : Parser} (h : Lands p call.reads (result, p')) (hbefore : before = true → p.Settled)
    (hsettles : call.settles before result = true) : p'.Settled := by
  cases result with
  | ok answer =>
    rcases h with h | ⟨hreads, hcursor⟩
    · exact h
    · rw [Call.settles, hreads, Bool.false_or] at hsettles
      exact (hbefore hsettles).of_cursor_eq hcursor
  | error failure =>
    cases failure with
    | scan e => cases hsettles
    | endOfFile message => exact h
    | _ => exact (hbefore hsettles).of_cursor_eq h

end Parse

end ServiceSyntax

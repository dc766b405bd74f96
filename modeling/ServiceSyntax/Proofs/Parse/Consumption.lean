import ServiceSyntax.Proofs.Parse.Attempt

/-!
# Consuming the current token

A check gives the current token where it accepts it and refuses it where it does not; the parser
stays where it is (`Checks`). Refusing is failing with a message; only where the message is one for
a construct and its terms cannot be had, it is failing for that reason instead (`Refuses`). Eating
is a check and one `nextToken` behind it, whose token is not what is given back (`Eats`). So eating
takes one step or none (`eats_one_or_none`).
-/

namespace ServiceSyntax

namespace Call

/-- The call goes past the current token if it accepts it. -/
def isEating : Call → Bool
  | eat .. | eatIn .. | eatIdentifier _ | eatWord .. | maybeEat _ => true
  | _ => false

/-- The call checks the current token and stays there. -/
def isAssertion : Call → Bool
  | assertToken .. | assertTokenIn .. | assertIdentifier _ => true
  | _ => false

/-- The call tells with a flag whether it has accepted the current token. -/
def isOptional : Call → Bool
  | maybeEat _ => true
  | _ => false

/-- The call accepts the token. One that neither eats nor checks asks for none. -/
def accepts : Call → Token → Bool
  | assertToken kind _, t | assertTokenIn kind .., t | eat kind _, t | eatIn kind .., t =>
    t.kind = kind
  | assertIdentifier _, t | eatIdentifier _, t => t.isIdentifierLike
  | eatWord word _, t => t.isWord word
  | maybeEat kinds, t => kinds.contains t.kind
  | _, _ => false

/-- What the call gives back for a token that it accepts. -/
def answer (call : Call) (t : Token) : Answer := if call.isOptional then .flag true else .token t

end Call

/-! ## Standing still -/

/-- The parser has not moved. Only a backup that no attempt will close may have been dropped, and
the registry of the session may have been asked for; asking again gives the same. -/
structure Parser.Unmoved (p q : Parser) : Prop where
  scanner_eq : q.cursor.scanner = p.cursor.scanner
  current_eq : q.cursor.current = p.cursor.current
  metNewline_eq : q.cursor.metNewline = p.cursor.metNewline
  queue_eq : q.cursor.queue = p.cursor.queue
  backup_eq : p.cursor.isGuarded = true → q.cursor.backup = p.cursor.backup
  ask_eq : q.vocabulary.ask = p.vocabulary.ask
  firstLine_eq : q.firstLine = p.firstLine
  lastLine_eq : q.lastLine = p.lastLine

theorem Parser.unmoved_refl (p : Parser) : p.Unmoved p :=
  ⟨rfl, rfl, rfl, rfl, fun _ => rfl, rfl, rfl, rfl⟩

theorem Parser.unmoved_closeUnguarded (p : Parser) : p.Unmoved p.closeUnguarded := by
  unfold Parser.closeUnguarded
  split
  · exact p.unmoved_refl
  · rename_i hguarded
    exact ⟨rfl, rfl, rfl, rfl, fun h => absurd h hguarded, rfl, rfl, rfl⟩

theorem Parser.unmoved_ask (p : Parser) :
    p.Unmoved { p with vocabulary := p.vocabulary.ask.2 }.closeUnguarded := by
  have h := Parser.unmoved_closeUnguarded { p with vocabulary := p.vocabulary.ask.2 }
  exact ⟨h.scanner_eq, h.current_eq, h.metNewline_eq, h.queue_eq, h.backup_eq,
    h.ask_eq.trans p.vocabulary.ask_ask, h.firstLine_eq, h.lastLine_eq⟩

namespace Parse

variable {α β : Type} {accepts : Token → Bool} {tailored : Bool} {p : Parser} {t : Token}

/-! ## Refusing -/

/-- Fails at the place where the parser is. The failure is a message, which a tailored action makes
from a registry. Where it needs one that cannot be had, it fails with the reason for that, and
nothing at all has changed. -/
structure Refuses (tailored : Bool) (m : Parse α) (p : Parser) : Prop where
  complains : (tailored = true → ∃ r, p.vocabulary.ask.1 = .ok r) →
    ∃ q message, p.Unmoved q ∧ m.runOn p = (.error (.mismatch message), q)
  unavailable : ∀ e, tailored = true → p.vocabulary.ask.1 = .error e →
    m.runOn p = (.error (.vocabulary e), p)

theorem Refuses.of_runOn {m m' : Parse α} (h : Refuses tailored m p)
    (hrun : m'.runOn p = m.runOn p) : Refuses tailored m' p where
  complains havailable := by
    rw [hrun]
    exact h.complains havailable
  unavailable e htailored hask := hrun.trans (h.unavailable e htailored hask)

/-- What comes behind a refusal is not run. -/
theorem Refuses.bind {m : Parse α} (h : Refuses tailored m p) (f : α → Parse β) :
    Refuses tailored (m >>= f) p where
  complains havailable := by
    obtain ⟨q, message, hunmoved, hm⟩ := h.complains havailable
    exact ⟨q, message, hunmoved, runOn_bind_error hm⟩
  unavailable e htailored hask := runOn_bind_error (h.unavailable e htailored hask)

theorem refuses_mismatch (message : String) (expected : List String) (p : Parser) :
    Refuses false (mismatch message expected : Parse α) p where
  complains _ := ⟨p.closeUnguarded, _, p.unmoved_closeUnguarded, rfl⟩
  unavailable _ htailored _ := Bool.noConfusion htailored

theorem refuses_mismatchIn (message : String) (name : Option String) (scope : String) (p : Parser) :
    Refuses true (mismatchIn message name scope : Parse α) p where
  complains havailable := by
    obtain ⟨r, hask⟩ := havailable rfl
    exact ⟨_, p.unexpectedIn r message name scope, p.unmoved_ask,
      runOn_mismatchIn_of_ok hask message name scope⟩
  unavailable e _ hask := runOn_mismatchIn_of_error hask message name scope

/-! ## Checks -/

/-- Gives the current token if it accepts it, and refuses it otherwise. -/
structure Checks (accepts : Token → Bool) (tailored : Bool) (m : Parse Token) : Prop where
  accepted : ∀ p t, p.token?.filter accepts = some t → m.runOn p = (.ok t, p)
  refused : ∀ p, p.token?.filter accepts = none → Refuses tailored m p

theorem checks_current? {complain : Parse Token} (hcomplain : ∀ p, Refuses tailored complain p) :
    Checks accepts tailored (do
      match ← current? accepts with
      | some token => return token
      | none => complain) where
  accepted p t ht := by
    have hcurrent : (current? accepts).runOn p = (.ok (some t), p) := by
      rw [← ht]
      rfl
    rw [runOn_bind_ok hcurrent]
    rfl
  refused p hnone := by
    have hcurrent : (current? accepts).runOn p = (.ok none, p) := by
      rw [← hnone]
      rfl
    exact (hcomplain p).of_runOn (runOn_bind_ok hcurrent)

theorem checks_assertToken (kind : Kind) (message : String) :
    Checks (fun t => t.kind = kind) false (assertToken kind message) :=
  checks_current? fun p => refuses_mismatch message (expectedTerms kind) p

theorem checks_assertTokenIn (kind : Kind) (message : String) (name : Option String)
    (scope : String) :
    Checks (fun t => t.kind = kind) true (assertTokenIn kind message name scope) :=
  checks_current? fun p => refuses_mismatchIn message name scope p

theorem checks_assertIdentifier (message : String) :
    Checks Token.isIdentifierLike false (assertIdentifier message) :=
  checks_current? fun p => refuses_mismatch message [] p

/-! ## Eating -/

/-- Goes past the current token if it accepts it, and refuses it otherwise. Going past it is
`nextToken`, but for the token that is given. -/
structure Eats (accepts : Token → Bool) (tailored : Bool) (m : Parse Token) : Prop where
  accepted : ∀ p t, p.token?.filter accepts = some t →
    m.runOn p = ((nextToken.runOn p).1.map fun _ => t, (nextToken.runOn p).2)
  refused : ∀ p, p.token?.filter accepts = none → Refuses tailored m p

theorem Checks.eats {m : Parse Token} (h : Checks accepts tailored m) :
    Eats accepts tailored (do let eaten ← m; let _ ← nextToken; return eaten) where
  accepted p t ht := by
    rw [runOn_bind_ok (h.accepted p t ht)]
    exact runOn_map nextToken (fun _ => t) p
  refused p hnone := (h.refused p hnone).bind _

/-- The word is looked at once the token is known to be an identifier. -/
theorem eats_eatWord (word message : String) :
    Eats (fun t => t.isWord word) false (eatWord word message) where
  accepted p t ht := by
    obtain ⟨htoken, hword⟩ := Option.filter_eq_some_iff.1 ht
    have hidentifier : p.token?.filter (fun t => t.kind = .identifier) = some t := by
      refine Option.filter_eq_some_iff.2 ⟨htoken, ?_⟩
      simp only [Token.isWord, Bool.and_eq_true] at hword
      exact hword.1
    unfold eatWord
    rw [runOn_bind_ok ((checks_assertToken .identifier message).accepted p t hidentifier),
      if_pos hword]
    exact runOn_map nextToken (fun _ => t) p
  refused p hnone := by
    have hchecks := checks_assertToken .identifier message
    unfold eatWord
    cases hfound : p.token?.filter (fun t => t.kind = .identifier) with
    | none => exact (hchecks.refused p hfound).bind _
    | some t =>
      have hword : ¬ t.isWord word = true :=
        Option.filter_eq_none_iff.1 hnone t (Option.filter_eq_some_iff.1 hfound).1
      -- an identifier that reads otherwise is refused too, with the word that was expected
      have hrefuses := (refuses_mismatch message [word] p).bind fun _ : PUnit => do
        let _ ← nextToken
        return t
      refine hrefuses.of_runOn ?_
      rw [runOn_bind_ok (hchecks.accepted p t hfound), if_neg hword]

theorem runOn_maybeEat_of_accepted (kinds : List Kind)
    (ht : p.token?.filter (fun t => kinds.contains t.kind) = some t) :
    (maybeEat kinds).runOn p
      = ((nextToken.runOn p).1.map fun _ => true, (nextToken.runOn p).2) := by
  have hcurrent : (current? fun t => kinds.contains t.kind).runOn p = (.ok (some t), p) := by
    rw [← ht]
    rfl
  unfold maybeEat
  rw [runOn_bind_ok hcurrent]
  exact runOn_map nextToken (fun _ => true) p

theorem runOn_maybeEat_of_refused (kinds : List Kind)
    (hnone : p.token?.filter (fun t => kinds.contains t.kind) = none) :
    (maybeEat kinds).runOn p = (.ok false, p) := by
  have hcurrent : (current? fun t => kinds.contains t.kind).runOn p = (.ok none, p) := by
    rw [← hnone]
    rfl
  unfold maybeEat
  rw [runOn_bind_ok hcurrent]
  rfl

end Parse

namespace Call

open Parse (Checks Eats Refuses runOn_map)

variable {call : Call} {p : Parser} {t : Token}

/-! ## Calls -/

theorem exists_checks (h : call.isAssertion = true) :
    ∃ m, Checks call.accepts call.isTailored m ∧ call.run = (do return .token (← m)) := by
  cases call with
  | assertToken kind message => exact ⟨_, Parse.checks_assertToken kind message, rfl⟩
  | assertTokenIn kind message name scope =>
    exact ⟨_, Parse.checks_assertTokenIn kind message name scope, rfl⟩
  | assertIdentifier message => exact ⟨_, Parse.checks_assertIdentifier message, rfl⟩
  | _ => cases h

theorem exists_eats (h : call.isEating = true) (hoptional : call.isOptional = false) :
    ∃ m, Eats call.accepts call.isTailored m ∧ call.run = (do return .token (← m)) := by
  cases call with
  | eat kind message => exact ⟨_, (Parse.checks_assertToken kind message).eats, rfl⟩
  | eatIn kind message name scope =>
    exact ⟨_, (Parse.checks_assertTokenIn kind message name scope).eats, rfl⟩
  | eatIdentifier message => exact ⟨_, (Parse.checks_assertIdentifier message).eats, rfl⟩
  | eatWord word message => exact ⟨_, Parse.eats_eatWord word message, rfl⟩
  | maybeEat kinds => cases hoptional
  | _ => cases h

theorem exists_maybeEat (hoptional : call.isOptional = true) : ∃ kinds, call = .maybeEat kinds := by
  cases call with
  | maybeEat kinds => exact ⟨kinds, rfl⟩
  | _ => cases hoptional

/-- An accepted token is passed with one `nextToken`. -/
theorem runOn_of_accepted (h : call.isEating = true) (ht : p.token?.filter call.accepts = some t) :
    call.run.runOn p
      = ((Parse.nextToken.runOn p).1.map fun _ => call.answer t, (Parse.nextToken.runOn p).2) := by
  cases hoptional : call.isOptional with
  | false =>
    obtain ⟨m, heats, hrun⟩ := exists_eats h hoptional
    have hanswer : call.answer t = .token t := by simp [answer, hoptional]
    rw [hrun, runOn_map, heats.accepted p t ht, hanswer]
    cases (Parse.nextToken.runOn p).1 <;> rfl
  | true =>
    obtain ⟨kinds, rfl⟩ := exists_maybeEat hoptional
    show (do return .flag (← Parse.maybeEat kinds) : Parse Answer).runOn p = _
    rw [runOn_map, Parse.runOn_maybeEat_of_accepted kinds ht]
    cases (Parse.nextToken.runOn p).1 <;> rfl

/-- A token that is not accepted is not passed. -/
theorem of_refused (h : call.isEating = true) (hnone : p.token?.filter call.accepts = none) :
    if call.isOptional then call.run.runOn p = (.ok (.flag false), p)
      else Refuses call.isTailored call.run p := by
  cases hoptional : call.isOptional with
  | false =>
    obtain ⟨m, heats, hrun⟩ := exists_eats h hoptional
    rw [if_neg Bool.false_ne_true, hrun]
    exact (heats.refused p hnone).bind _
  | true =>
    obtain ⟨kinds, rfl⟩ := exists_maybeEat hoptional
    show (do return .flag (← Parse.maybeEat kinds) : Parse Answer).runOn p = _
    rw [runOn_map, Parse.runOn_maybeEat_of_refused kinds hnone]
    rfl

end Call

end ServiceSyntax

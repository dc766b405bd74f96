import ServiceSyntax.Proofs.Parse.Call

/-!
# Actions put together

Assertions and the operations that consume tokens are put together from readings and complaints. So
a class of actions that holds these and is closed under putting together holds every call
(`Composes.call`).
-/

namespace ServiceSyntax

/-- The call may fail with a message for the construct being parsed. -/
def Call.isTailored : Call → Bool
  | assertTokenIn .. | eatIn .. | mismatchIn .. => true
  | _ => false

namespace Parse

/-- A class of actions that is closed under putting actions together. It holds the readings and the
complaints, and those inside a construct where `tailored` says so. -/
structure Composes (tailored : Prop) (P : ∀ {α : Type}, Parse α → Prop) : Prop where
  pure {α : Type} (a : α) : P (pure a : Parse α)
  bind {α β : Type} {m : Parse α} {f : α → Parse β} : P m → (∀ a, P (f a)) → P (m >>= f)
  get : P (get : Parse Parser)
  nextToken : P nextToken
  nextTokenNotEndOfFile : P nextTokenNotEndOfFile
  mismatch {α : Type} (message : String) (expected : List String) :
    P (mismatch message expected : Parse α)
  mismatchIn {α : Type} (htailored : tailored) (message : String) (name : Option String)
    (scope : String) : P (mismatchIn message name scope : Parse α)

namespace Composes

variable {tailored : Prop} {P : ∀ {α : Type}, Parse α → Prop}

/-- A class that holds every failure holds all complaints, and if it holds the request for the
registry those inside a construct too. -/
theorem of_fail (hpure : ∀ {α : Type} (a : α), P (Pure.pure a : Parse α))
    (hbind : ∀ {α β : Type} {m : Parse α} {f : α → Parse β}, P m → (∀ a, P (f a)) → P (m >>= f))
    (hget : P (MonadState.get : Parse Parser)) (hnext : P Parse.nextToken)
    (hregistry : P Parse.registry)
    (hfail : ∀ {α : Type} (failure : Failure), P (fail failure : Parse α)) : Composes True P where
  pure := hpure
  bind := hbind
  get := hget
  nextToken := hnext
  nextTokenNotEndOfFile := by
    refine hbind hnext fun token => ?_
    split
    · exact hbind hget fun _ => hbind (hfail _) fun _ => hpure _
    · exact hpure token
  mismatch _ _ := hbind hget fun _ => hfail _
  mismatchIn _ _ _ _ := hbind hregistry fun _ => hbind hget fun _ => hfail _

theorem current? (h : Composes tailored P) (accepts : Token → Bool) : P (current? accepts) :=
  h.bind h.get fun _ => h.pure _

theorem assertToken (h : Composes tailored P) (kind : Kind) (message : String) :
    P (assertToken kind message) := by
  refine h.bind (h.current? _) fun found => ?_
  cases found with
  | some token => exact h.pure token
  | none => exact h.mismatch message _

theorem assertTokenIn (h : Composes tailored P) (htailored : tailored) (kind : Kind)
    (message : String) (name : Option String) (scope : String) :
    P (assertTokenIn kind message name scope) := by
  refine h.bind (h.current? _) fun found => ?_
  cases found with
  | some token => exact h.pure token
  | none => exact h.mismatchIn htailored message name scope

theorem assertIdentifier (h : Composes tailored P) (message : String) :
    P (assertIdentifier message) := by
  refine h.bind (h.current? _) fun found => ?_
  cases found with
  | some token => exact h.pure token
  | none => exact h.mismatch message _

/-- Advancing past what has been found. -/
theorem eaten (h : Composes tailored P) {m : Parse Token} (hm : P m) :
    P (do let eaten ← m; let _ ← Parse.nextToken; return eaten) :=
  h.bind hm fun eaten => h.bind h.nextToken fun _ => h.pure eaten

theorem eat (h : Composes tailored P) (kind : Kind) (message : String) : P (eat kind message) :=
  h.eaten (h.assertToken kind message)

theorem eatIn (h : Composes tailored P) (htailored : tailored) (kind : Kind) (message : String)
    (name : Option String) (scope : String) : P (eatIn kind message name scope) :=
  h.eaten (h.assertTokenIn htailored kind message name scope)

theorem eatIdentifier (h : Composes tailored P) (message : String) : P (eatIdentifier message) :=
  h.eaten (h.assertIdentifier message)

theorem eatWord (h : Composes tailored P) (word message : String) : P (eatWord word message) := by
  refine h.bind (h.assertToken .identifier message) fun eaten => ?_
  have hnext := h.bind h.nextToken fun _ => h.pure eaten
  split
  · exact hnext
  · exact h.bind (h.mismatch message _) fun _ => hnext

theorem maybeEat (h : Composes tailored P) (kinds : List Kind) : P (maybeEat kinds) := by
  refine h.bind (h.current? _) fun found => ?_
  cases found with
  | some _ => exact h.bind h.nextToken fun _ => h.pure true
  | none => exact h.pure false

theorem call (h : Composes tailored P) (call : Call) (hcall : call.isTailored = true → tailored) :
    P call.run := by
  cases call with
  | nextToken => exact h.bind h.nextToken fun _ => h.pure _
  | nextTokenNotEndOfFile => exact h.bind h.nextTokenNotEndOfFile fun _ => h.pure _
  | assertToken kind message => exact h.bind (h.assertToken kind message) fun _ => h.pure _
  | assertTokenIn kind message name scope =>
    exact h.bind (h.assertTokenIn (hcall rfl) kind message name scope) fun _ => h.pure _
  | assertIdentifier message => exact h.bind (h.assertIdentifier message) fun _ => h.pure _
  | eat kind message => exact h.bind (h.eat kind message) fun _ => h.pure _
  | eatIn kind message name scope =>
    exact h.bind (h.eatIn (hcall rfl) kind message name scope) fun _ => h.pure _
  | eatIdentifier message => exact h.bind (h.eatIdentifier message) fun _ => h.pure _
  | eatWord word message => exact h.bind (h.eatWord word message) fun _ => h.pure _
  | maybeEat kinds => exact h.bind (h.maybeEat kinds) fun _ => h.pure _
  | metNewline => exact h.bind h.get fun _ => h.pure _
  | context => exact h.bind h.get fun _ => h.pure _
  | mismatch message expected => exact h.mismatch message expected
  | mismatchIn message name scope => exact h.mismatchIn (hcall rfl) message name scope

end Composes

end Parse

end ServiceSyntax

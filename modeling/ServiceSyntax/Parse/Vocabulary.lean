import ServiceSyntax.Vocabulary.Session

/-!
# The vocabulary of a parser

A parser takes the terms of its diagnostics from a registry that it was given or, where it was given
none, from that of the session. The latter is asked for when a diagnostic first needs it, and it may
turn out then that it cannot be loaded.
-/

namespace ServiceSyntax

structure Vocabulary where
  /-- The registry that was given, or the one of the session once it has been asked for. -/
  registry : Option Registry := none
  session : Session := {}
  host : Host := {}

namespace Vocabulary

/-- The vocabulary of a parser that was given a registry. -/
def own (r : Registry) : Vocabulary := { registry := some r }

/-- The registry, and the vocabulary behind the request. The registry of the session is kept; where
it cannot be loaded the next request tries again. -/
def ask (v : Vocabulary) : Except LoadError Registry × Vocabulary :=
  match v.registry with
  | some r => (.ok r, v)
  | none =>
    let (result, session) := v.session.get v.host
    (result, { v with registry := result.toOption, session })

end Vocabulary

end ServiceSyntax

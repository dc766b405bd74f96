import ServiceSyntax.Vocabulary.Registry

/-!
# Scopes

A scope is a construct with a vocabulary of its own, or whatever else a registry has been told
of by name. A construct and its name are two spellings of one scope.
-/

namespace ServiceSyntax

/-- The constructs that have a vocabulary of their own. -/
inductive Scope where
  | outer | service | inputPort | outputPort | interface | importStatement | execution | embedded
  | courier | type
deriving Repr, DecidableEq

def Scope.name : Scope → String
  | .outer => "outer"
  | .service => "service"
  | .inputPort => "inputPort"
  | .outputPort => "outputPort"
  | .interface => "interface"
  | .importStatement => "import"
  | .execution => "execution"
  | .embedded => "embedded"
  | .courier => "courier"
  | .type => "type"

/-- A scope as a registry is told of it. -/
inductive ScopeName where
  | scope (s : Scope)
  | text (name : String)
deriving Repr, DecidableEq

/-- The name under which a registry keeps a scope. -/
def ScopeName.key : ScopeName → String
  | .scope s => s.name
  | .text name => name

namespace Registry

/-- Adds terms to a scope in either spelling. -/
def registerFor (r : Registry) (scope : ScopeName) (terms : List String) : Registry :=
  r.register scope.key terms

/-- The terms of a scope in either spelling. -/
def termsFrom (r : Registry) (scope : ScopeName) : List String := r.terms scope.key

end Registry

end ServiceSyntax

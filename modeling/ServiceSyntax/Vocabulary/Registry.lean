/-!
# Registries

A registry holds the terms that are valid in each construct. Constructs keep the order in which
they were first registered and so do the terms of each; nothing is ever listed twice, moved or
removed.
-/

namespace ServiceSyntax

/-- Scopes with their terms, in order. -/
structure Registry where
  entries : List (String × List String) := []
deriving Repr, DecidableEq

namespace Registry

/-- The terms with those of `more` behind them that are not there yet. -/
def appendNew (terms more : List String) : List String :=
  more.foldl (fun known term => if known.contains term then known else known ++ [term]) terms

/-- The entries with terms added to one scope, which is put last if it is new. -/
def registerIn (scope : String) (terms : List String) :
    List (String × List String) → List (String × List String)
  | [] => [(scope, appendNew [] terms)]
  | (name, known) :: others =>
    if name = scope then (name, appendNew known terms) :: others
    else (name, known) :: registerIn scope terms others

/-- Adds terms to a scope; terms that it has already are passed over. -/
def register (r : Registry) (scope : String) (terms : List String) : Registry :=
  ⟨registerIn scope terms r.entries⟩

/-- The terms of a scope, none if it was never registered. -/
def terms (r : Registry) (scope : String) : List String := (r.entries.lookup scope).getD []

def scopes (r : Registry) : List String := r.entries.map Prod.fst

/-- Registers some entries one after the other. -/
def extend (r : Registry) (entries : List (String × List String)) : Registry :=
  entries.foldl (fun r entry => r.register entry.1 entry.2) r

/-- The registry that some entries make. -/
def ofEntries (entries : List (String × List String)) : Registry := extend {} entries

/-- This vocabulary with another one added to it. -/
def merge (r other : Registry) : Registry := r.extend other.entries

end Registry

end ServiceSyntax

import ServiceSyntax.Yaml.Key

/-!
# YAML values

What a YAML text may stand for. Since collections may contain themselves, a value is seen only down
to some depth.
-/

namespace ServiceSyntax.Yaml

inductive Value where
  | scalar (s : Scalar)
  | sequence (items : List Value)
  | pair (key value : Value)
  | mapping (entries : List (Key × Value))
  | set (members : List Key)
  /-- A collection that lies too deep to be seen. -/
  | hidden
deriving Repr, Inhabited

namespace Value

/-- Whether a value counts as something rather than nothing. -/
def isSomething : Value → Bool
  | .scalar s => s.isSomething
  | .sequence items => !items.isEmpty
  | .mapping entries => !entries.isEmpty
  | .set members => !members.isEmpty
  | .pair .. | .hidden => true

/-- The text of a value that is one. -/
def text? : Value → Option String
  | .scalar (.text s) => some s
  | _ => none

end Value

end ServiceSyntax.Yaml

import ServiceSyntax.Vocabulary.Load

/-!
# Vocabulary sessions

A session keeps one registry, which is loaded when it is first asked for and may then be extended.
The overlay that is loaded is the one that the environment names at that time; a registry that
cannot be loaded is not kept, so that the next request tries again.
-/

namespace ServiceSyntax

structure Session where
  /-- The overlay that the environment names; an empty name is none. -/
  overlay : Option String := none
  registry : Option Registry := none

namespace Session

/-- The path of the overlay that the environment names. -/
def overlayPath (s : Session) : Option FilePath :=
  (s.overlay.filter fun name => !name.isEmpty).map FilePath.ofText

/-- The vocabulary with the overlay at a path, or with that of the environment. -/
def load (s : Session) (host : Host) (path : Option FilePath) : Except LoadError Registry :=
  Registry.load host (path.or s.overlayPath)

/-- The registry of the session, loaded if it is not there yet. -/
def get (s : Session) (host : Host) : Except LoadError Registry × Session :=
  match s.registry with
  | some r => (.ok r, s)
  | none =>
    match s.load host none with
    | .ok r => (.ok r, { s with registry := some r })
    | .error e => (.error e, s)

/-- Adds terms to the registry of the session. -/
def register (s : Session) (host : Host) (scope : String) (terms : List String) :
    Except LoadError Unit × Session :=
  match s.get host with
  | (.ok r, s) => (.ok (), { s with registry := some (r.register scope terms) })
  | (.error e, s) => (.error e, s)

/-- Forgets the registry, so that the next request loads one again. -/
def reset (s : Session) : Session := { s with registry := none }

end Session

end ServiceSyntax

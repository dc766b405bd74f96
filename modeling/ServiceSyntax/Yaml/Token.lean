/-!
# YAML tokens

The tokens of a YAML text. Indentation has become explicit: a block collection starts with a
token of its own and ends with `blockEnd`, and every key of a mapping has `key` in front.
-/

namespace ServiceSyntax.Yaml

/-- A version of the language, by the number behind its point. -/
structure Version where
  minor : Nat
deriving Repr, DecidableEq

namespace Version

/-- The version of a text that names none. -/
def standard : Version := ⟨2⟩

/-- Version 1.1, which has rules of its own for plain scalars and flow mappings. -/
def isFirst (v : Version) : Bool := v.minor = 1

end Version

inductive Directive where
  | version (major minor : Nat)
  | tag (handle expansion : String)
  | reserved
deriving Repr, DecidableEq

/-- How a scalar was written: plainly, so that its text decides what it is, or as a text. -/
inductive Style where
  | plain
  | quoted
deriving Repr, DecidableEq

inductive Token where
  | directive (d : Directive)
  | documentStart | documentEnd
  | blockSequenceStart | blockMappingStart | blockEnd
  | flowSequenceStart | flowSequenceEnd | flowMappingStart | flowMappingEnd
  | blockEntry | flowEntry | key | value
  | aliasName (name : String)
  | anchor (name : String)
  /-- The handle is absent from a tag that is written out in full. -/
  | tag (handle : Option String) (suffix : String)
  | scalar (style : Style) (text : String)
deriving Repr, DecidableEq

end ServiceSyntax.Yaml

/-!
# Reading a YAML text

A reader is a text with a position. Lexemes are read by actions on a reader, which fail with a
reason and the place where they stopped.
-/

namespace ServiceSyntax.Yaml

/-- Why a text is no YAML, and where that shows; lines and columns count from zero. -/
structure Error where
  reason : String
  line : Nat
  column : Nat
deriving Repr, DecidableEq

def Error.message (e : Error) : String :=
  e.reason ++ ", line " ++ toString (e.line + 1) ++ ", column " ++ toString (e.column + 1)

/-! ## Characters -/

/-- Characters that a YAML text may hold. -/
def isAllowed (c : Char) : Bool :=
  let n := c.toNat
  n = 0x09 || n = 0x0A || n = 0x0D || (0x20 ≤ n && n ≤ 0x7E) || n = 0x85
    || (0xA0 ≤ n && n ≤ 0xD7FF) || (0xE000 ≤ n && n ≤ 0xFFFD) || 0x10000 ≤ n

/-- Line breaks of every kind. -/
def isBreak (c : Char) : Bool :=
  c = '\n' || c = '\r' || c = '\x85' || c = '\u2028' || c = '\u2029'

/-- The end of the text, or a line break. -/
def endsLine : Option Char → Bool
  | none => true
  | some c => isBreak c

/-- The end of the text, or a character that may follow a tag or a directive. -/
def endsTag : Option Char → Bool
  | none => true
  | some c => c = ' ' || isBreak c

/-- The end of the text, or a character that separates an indicator from what follows. -/
def endsWord : Option Char → Bool
  | none => true
  | some c => c = '\t' || endsTag (some c)

def isOneOf (chars : String) (c : Char) : Bool := chars.toList.contains c

/-- Letters, digits, the hyphen and the underscore of ASCII. -/
def isHandleChar (c : Char) : Bool := c.isAlphanum || c = '-' || c = '_'

/-- Characters of the names of anchors. -/
def isAnchorChar (c : Char) : Bool :=
  let n := c.toNat
  !isOneOf ",[]\x7b\x7d" c
    && ((0x21 ≤ n && n ≤ 0x7E) || (0xA0 ≤ n && n ≤ 0xD7FF)
      || (0xE000 ≤ n && n ≤ 0xFFFD && n != 0xFEFF) || 0x10000 ≤ n)

/-! ## Positions -/

structure Reader where
  rest : List Char
  index : Nat := 0
  line : Nat := 0
  column : Nat := 0
deriving Repr

namespace Reader

/-- The reader after its next character. A line feed or a carriage return starts a new line; the
other line breaks are characters of their line, as far as columns go. -/
def advance (r : Reader) : Reader :=
  match r.rest with
  | [] => r
  | c :: rest =>
    if c = '\n' || (c = '\r' && rest.head? != some '\n') then
      { rest, index := r.index + 1, line := r.line + 1, column := 0 }
    else
      { r with rest, index := r.index + 1
               column := if c = '\uFEFF' then r.column else r.column + 1 }

def advanceBy (r : Reader) : Nat → Reader
  | 0 => r
  | n + 1 => r.advance.advanceBy n

/-- The text goes on with `---` or `...`, set off from what follows. -/
def atMark (r : Reader) (mark : Char) : Bool :=
  r.rest.take 3 == [mark, mark, mark] && endsWord r.rest[3]?

/-- A document starts or ends at the reader, wherever in the line that is. -/
def atDocumentMark (r : Reader) : Bool := r.atMark '-' || r.atMark '.'

end Reader

/-! ## Actions -/

/-- An action that reads something or fails. -/
abbrev Read := StateT Reader (Except Error)

namespace Read

def fail {α : Type} (reason : String) : Read α := fun r => .error ⟨reason, r.line, r.column⟩

/-- The character `n` places ahead. -/
def look (n : Nat := 0) : Read (Option Char) := do return (← get).rest[n]?

def skip (n : Nat := 1) : Read Unit := modify fun r => r.advanceBy n

/-- Reads the longest run of characters that satisfy a condition. -/
def takeWhile (p : Char → Bool) : Read (List Char) := do
  let taken := (← get).rest.takeWhile p
  skip taken.length
  return taken

def skipWhile (p : Char → Bool) : Read Unit := do
  let _ ← takeWhile p

/-- Reads spaces, but not beyond a column. -/
def skipSpacesTo (column : Nat) : Read Unit := do
  let r ← get
  skip ((r.rest.take (column - r.column)).takeWhile (· = ' ')).length

/-- Reads a line break, if there is one, in its normal form. -/
def lineBreak : Read (Option Char) := do
  match ← look with
  | some '\r' =>
    skip (if (← look 1) = some '\n' then 2 else 1)
    return some '\n'
  | some '\n' | some '\x85' =>
    skip
    return some '\n'
  | some c =>
    if c = '\u2028' ∨ c = '\u2029' then
      skip
      return some c
    else return none
  | none => return none

/-- Reads the rest of a line that may hold nothing but a comment. -/
def restOfLine : Read Unit := do
  skipWhile (· = ' ')
  if (← look) = some '#' then skipWhile fun c => !endsLine (some c)
  unless endsLine (← look) do fail "expected a comment or a line break"
  let _ ← lineBreak

end Read

end ServiceSyntax.Yaml

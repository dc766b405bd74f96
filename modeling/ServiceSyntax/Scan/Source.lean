import ServiceSyntax.Text.Lines
import ServiceSyntax.Text.Utf8

/-!
# Sources

A source is the list of its lines. A line of bytes may hold something that is no UTF-8; such a
line is kept with the characters before its first defect, the byte that is at fault, and the
characters after it, where every further defect shows as the replacement character.
-/

namespace ServiceSyntax.Scan

inductive SourceLine where
  | sound (chars : List Char)
  | broken (valid : List Char) (byte : UInt8) (others : List Char)
deriving Repr, DecidableEq

namespace SourceLine

/-- The line as far as it can be shown. -/
def chars : SourceLine → List Char
  | sound chars => chars
  | broken valid _ others => valid ++ Text.Utf8.replacement :: others

def isBroken : SourceLine → Bool
  | sound _ => false
  | broken .. => true

/-- The line that a sequence of pieces makes. -/
def ofPieces (pieces : List Text.Utf8.Piece) : SourceLine :=
  match Text.Utf8.splitValid pieces with
  | (valid, .invalid byte :: others) => broken valid byte (others.map Text.Utf8.Piece.shown)
  | (valid, _) => sound valid

end SourceLine

abbrev Source := List SourceLine

/-- The source of a text; only a line feed ends a line. -/
def Source.ofText (text : String) : Source :=
  (Text.lines (· == '\n') text.toList).map .sound

/-- The source of a sequence of bytes, decoded line by line. -/
def Source.ofBytes (bytes : List UInt8) : Source :=
  (Text.lines (· == 10) bytes).map fun line => .ofPieces (Text.Utf8.pieces line)

end ServiceSyntax.Scan

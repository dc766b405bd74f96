import ServiceSyntax.Text.Ranges

/-!
Blanks of every script, and the removal of blanks and line feeds at the ends of a text.
-/

namespace ServiceSyntax.Text

def blankRanges : List (Nat × Nat) :=
  [(0x0009, 0x000D), (0x001C, 0x0020), (0x0085, 0x0085), (0x00A0, 0x00A0), (0x1680, 0x1680),
   (0x2000, 0x200A), (0x2028, 0x2029), (0x202F, 0x202F), (0x205F, 0x205F), (0x3000, 0x3000)]

/-- Spaces, tabs, line and paragraph ends, and the separators U+001C to U+001F. -/
def isBlank (c : Char) : Bool := inRanges c.toNat blankRanges

/-- A text without the longest run of characters at its end that satisfy `p`. -/
def dropTrailing (p : Char → Bool) (cs : List Char) : List Char :=
  (cs.reverse.dropWhile p).reverse

/-- A text without the line feeds at its end. -/
def withoutLineEnd (text : String) : String :=
  String.ofList (dropTrailing (· == '\n') text.toList)

/-- A text without the blanks at its end. -/
def trimEnd (text : String) : String := String.ofList (dropTrailing isBlank text.toList)

/-- Some character of the text is not a blank. -/
def hasInk (text : String) : Bool := text.toList.any fun c => !isBlank c

end ServiceSyntax.Text

import ServiceSyntax.Proofs.Text.Encoding
import ServiceSyntax.Scan.Scanner

/-!
# Scanning texts and bytes

A text and its bytes have the same lines (`ofBytes_toUTF8`), though the bytes are divided first and
decoded line by line. So whatever a scanner is asked, one call after the other, it answers the same
for both, with the same errors and the same lines retained (`answers_toUTF8`).
-/

namespace ServiceSyntax

open Scan Text

/-! ## Calls -/

/-- What a scanner can be asked. -/
inductive Scanner.Query where
  | next
  | skipLine
  | line
  | codeLine (number : Int)
  | codeLines (first last : Int)
  | allCodeLines
deriving Repr, DecidableEq

/-- What a scanner answers. -/
inductive Scanner.Reply where
  | token (result : Except ScanError Token)
  | skipped (result : Except ScanError Nat)
  | line (number : Nat)
  | codeLine (result : Except MissingLine String)
  | codeLines (lines : List String)
deriving Repr

/-- An answer, and what the scanner shows behind it. -/
structure Scanner.Answered where
  reply : Reply
  tokenLine : Nat
  tokenColumn : Nat
  metNewline : Bool
  retained : List String
deriving Repr

namespace Scanner

/-- One call; only the first two move the scanner. -/
def ask (s : Scanner) : Query → Reply × Scanner
  | .next => (.token s.next.1, s.next.2)
  | .skipLine => (.skipped s.skipLine.1, s.skipLine.2)
  | .line => (.line s.line, s)
  | .codeLine number => (.codeLine (s.codeLine number), s)
  | .codeLines first last => (.codeLines (s.codeLines first last), s)
  | .allCodeLines => (.codeLines s.retained.toList, s)

/-- The answers to calls that are made one after the other, also behind errors. -/
def answers (s : Scanner) : List Query → List Answered
  | [] => []
  | query :: queries =>
    let (reply, t) := s.ask query
    ⟨reply, t.tokenLine, t.tokenColumn, t.metNewline, t.retained.toList⟩ :: t.answers queries

end Scanner

/-! ## Texts and their bytes -/

/-- Each line of an encoded text is decoded to the line of the text. -/
theorem Scan.SourceLine.ofPieces_encode (chars : List Char) :
    SourceLine.ofPieces (Utf8.pieces (Utf8.encode chars)) = .sound chars := by
  rw [ofPieces, Utf8.pieces_encode, Utf8.splitValid_map_char]

theorem Scan.Source.ofBytes_toUTF8 (text : String) :
    Source.ofBytes text.toUTF8.data.toList = Source.ofText text := by
  rw [ofBytes, Utf8.toList_toUTF8, Utf8.lines_encode, List.map_map, ofText]
  apply List.map_congr_left
  intro line _
  exact SourceLine.ofPieces_encode line

namespace Scanner

/-- The scanner of the bytes of a text is that of the text. -/
theorem ofBytes_toUTF8 (text source : String) (layout : Bool) :
    ofBytes text.toUTF8.data.toList source layout = ofText text source layout := by
  rw [ofBytes, Source.ofBytes_toUTF8]
  rfl

/-- Whatever is asked of the scanner of a text, in layout mode or outside it, is answered the same
by the scanner of its bytes. -/
theorem answers_toUTF8 (text source : String) (layout : Bool) (queries : List Query) :
    (ofBytes text.toUTF8.data.toList source layout).answers queries
      = (ofText text source layout).answers queries := by
  rw [ofBytes_toUTF8]

end Scanner

end ServiceSyntax

import ServiceSyntax.Diagnostic.Message
import ServiceSyntax.Scan.Automaton
import ServiceSyntax.Scan.Source

/-!
# The scanner

A scanner reads a source line by line and keeps every line it has read, so that diagnostics can
show the text without reading further. `Scanner.next` gives the next token or the reason why
there is none; either way it also gives the scanner after it, which can go on.
-/

namespace ServiceSyntax

/-- What can be wrong with a source while it is scanned. -/
inductive Scan.Fault where
  | malformedEscape
  | invalidByte (byte : UInt8) (offset : Nat)
deriving Repr, DecidableEq

def Scan.Fault.description : Scan.Fault → String
  | malformedEscape => "malformed string: bad \\ usage"
  | invalidByte byte offset =>
    "invalid UTF-8 byte 0x" ++ String.ofList (Text.hexDigits 2 byte.toNat)
      ++ " at byte offset " ++ toString offset

/-- A fault of the source and where it is. -/
structure ScanError where
  fault : Scan.Fault
  context : Context
deriving Repr, DecidableEq

def ScanError.message (e : ScanError) : Message := ⟨e.context, e.fault.description, none⟩

/-- A line that has not been read, or that does not exist. -/
structure MissingLine where
  number : Int
  source : String
deriving Repr, DecidableEq

def MissingLine.message (e : MissingLine) : String :=
  "line " ++ toString e.number ++ " is not available in " ++ e.source

/-- A source with a reading position, and the position of the last token. -/
structure Scanner where
  /-- Name of the source in diagnostics. -/
  source : String
  /-- Line breaks between tokens are tokens of their own. -/
  layout : Bool := false
  /-- Lines that have not been looked at. -/
  unread : Scan.Source
  /-- Lines that have been looked at, in order. -/
  retained : Array String := #[]
  /-- Characters of the last retained line that have not been consumed. -/
  rest : List Char := []
  /-- Characters of the last retained line that have been consumed. -/
  column : Nat := 0
  /-- Line of the next character. -/
  line : Nat := 1
  tokenLine : Nat := 1
  tokenColumn : Nat := 0
  /-- A line break stood between the last token and the one before it. -/
  metNewline : Bool := false
deriving Repr, DecidableEq

namespace Scanner

open Scan

def ofText (text : String) (source : String) (layout : Bool := false) : Scanner where
  source := source
  layout := layout
  unread := .ofText text

def ofBytes (bytes : List UInt8) (source : String) (layout : Bool := false) : Scanner where
  source := source
  layout := layout
  unread := .ofBytes bytes

/-! ## Retained lines -/

/-- The line that the scanner stands in, as far as it has read one. -/
def currentLine (s : Scanner) : String := s.retained.back?.getD ""

/-- The raw text of a line that has been read; lines count from one. -/
def codeLine? (s : Scanner) (number : Int) : Option String :=
  if 1 ≤ number then s.retained[(number - 1).toNat]? else none

/-- The raw text of a line, which must have been read. -/
def codeLine (s : Scanner) (number : Int) : Except MissingLine String :=
  match s.codeLine? number with
  | some line => .ok line
  | none => .error ⟨number, s.source⟩

/-- The raw lines from `first` to `last` as far as they have been read. -/
def codeLines (s : Scanner) (first last : Int) : List String :=
  Text.slice (max first 1 - 1) last s.retained.toList

/-! ## Reading -/

/-- Consumes the character `c` in front of `rest`. -/
def advance (s : Scanner) (c : Char) (rest : List Char) : Scanner :=
  { s with rest, column := s.column + 1, line := if c = '\n' then s.line + 1 else s.line }

/-- Notes the position of the next character as that of the token; at the end of a line it is
the end of its text. -/
def markToken (s : Scanner) : Scanner :=
  { s with
    tokenLine := s.line
    tokenColumn := if s.rest.isEmpty then (Text.withoutLineEnd s.currentLine).length
                   else s.column }

/-- The fault at the present position. -/
def errorAt (s : Scanner) (fault : Fault) : ScanError where
  fault := fault
  context :=
    { source := s.source, startLine := s.line, endLine := s.line, column := s.column
      code := [s.currentLine].filter fun code => !code.isEmpty }

/-- Takes up the next line; a broken one stops the scanner at its first defect. -/
def load (s : Scanner) (line : SourceLine) (unread : Source) : Except ScanError Unit × Scanner :=
  let s := { s with unread, retained := s.retained.push (String.ofList line.chars) }
  match line with
  | .sound chars => (.ok (), { s with rest := chars, column := 0 })
  | .broken valid byte others =>
    let s := { s with rest := Text.Utf8.replacement :: others, column := valid.length }
    (.error (s.errorAt (.invalidByte byte (Text.Utf8.byteCount valid))), s)

/-! ## Scanning -/

/-- A scan is over, with its result, or it goes on in a state with a lexeme. -/
inductive Progress where
  | done (result : Except ScanError Token) (s : Scanner)
  | going (state : State) (lexeme : String) (s : Scanner)

/-- Looks at the character `c` in front of `rest` between tokens or inside one. -/
def lookAt (s : Scanner) (state : State) (lexeme : String) (c : Char) (rest : List Char) :
    Progress :=
  -- anything but a separator is the first character of a token or of a comment
  let s := if state = .start ∧ !isSeparator c then s.markToken else s
  match step state (some c) lexeme with
  | .error _ => .done (.error (s.errorAt .malformedEscape)) s
  | .ok look =>
    let s := if look.consume then s.advance c rest else s
    let s := if c = '\n' ∧ (state = .start ∨ state.inBlockComment) then
        { s with metNewline := true } else s
    match look.emit with
    | some token => .done (.ok token) s
    | none =>
      if look.next = .start then
        -- a block comment that spans lines stands for a line break
        if s.layout && s.metNewline && state.inBlockComment then
          .done (.ok ⟨.newline, ""⟩) s.markToken
        else .going .start "" s
      else .going look.next ((look.append.map lexeme.push).getD lexeme) s

/-- Reads one character; in layout mode a line feed between tokens is a token. -/
def readChar (s : Scanner) (state : State) (lexeme : String) (c : Char) (rest : List Char) :
    Progress :=
  if s.layout ∧ state.settled (some c) = .start ∧ c = '\n' then
    .done (.ok ⟨.newline, ""⟩) ({ s with metNewline := true }.markToken.advance c rest)
  else s.lookAt (state.settled (some c)) lexeme c rest

/-- Reads on in the present line, whose unconsumed characters are given. -/
def readLine (s : Scanner) (state : State) (lexeme : String) : List Char → Progress
  | [] => .going state lexeme s
  | c :: rest =>
    match s.readChar state lexeme c rest with
    | .going state lexeme s => readLine s state lexeme rest
    | done => done

/-- The token that the end of the input completes. -/
def finish (s : Scanner) (state : State) (lexeme : String) : Except ScanError Token × Scanner :=
  let s := if state.settled none = .start then s.markToken else s
  match step (state.settled none) none lexeme with
  | .ok { emit := some token, .. } => (.ok token, s)
  | _ => (.ok ⟨.endOfFile, ""⟩, s)

/-- Reads on in the present line and in the unread lines, which are given. -/
def readLines (s : Scanner) (state : State) (lexeme : String) (unread : Source) :
    Except ScanError Token × Scanner :=
  match s.readLine state lexeme s.rest with
  | .done result s => (result, s)
  | .going state lexeme s =>
    match unread with
    | [] => s.finish state lexeme
    | line :: unread =>
      match s.load line unread with
      | (.error e, s) => (.error e, s)
      | (.ok (), s) => readLines s state lexeme unread

/-- The next token. At the end of the input it is the end-of-file token, time after time. -/
def next (s : Scanner) : Except ScanError Token × Scanner :=
  { s with metNewline := false }.readLines .start "" s.unread

/-! ## Recovery -/

/-- Consumes characters up to and including a line feed; tells how many, and whether it met
the line feed. -/
def skipChars (s : Scanner) (skipped : Nat) : List Char → Nat × Bool × Scanner
  | [] => (skipped, false, s)
  | c :: rest =>
    if c = '\n' then (skipped + 1, true, s.advance c rest)
    else skipChars (s.advance c rest) (skipped + 1) rest

/-- Consumes the rest of the present line, or the next line where nothing is left of it. -/
def skipLines (s : Scanner) (skipped : Nat) (unread : Source) : Except ScanError Nat × Scanner :=
  match s.skipChars skipped s.rest with
  | (skipped, true, s) => (.ok skipped, s)
  | (skipped, false, s) =>
    match unread with
    | [] => (.ok skipped, s)
    | line :: unread =>
      match s.load line unread with
      | (.error e, s) => (.error e, s)
      | (.ok (), s) => skipLines s skipped unread

/-- Drops the rest of the line so that scanning resumes on the next one, and counts the
characters dropped. -/
def skipLine (s : Scanner) : Except ScanError Nat × Scanner := s.skipLines 0 s.unread

end Scanner

end ServiceSyntax

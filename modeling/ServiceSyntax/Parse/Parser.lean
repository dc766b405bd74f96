import ServiceSyntax.Diagnostic.Scope
import ServiceSyntax.Parse.Cursor
import ServiceSyntax.Parse.Vocabulary

/-!
# The parsing layer

Grammar productions are built from a parser: a token cursor, the vocabulary for diagnostics and
the lines of the construct that is being parsed. A production is an action on a parser that may
fail; a failure leaves the parser as it was when it failed, except that behind a diagnostic no
backup other than that of an attempt stays open.
-/

namespace ServiceSyntax

/-- Why an action on a parser ended without a result. -/
inductive Failure where
  /-- The source cannot be scanned. -/
  | scan (error : ScanError)
  /-- The current token does not fit the grammar. -/
  | mismatch (message : Message)
  /-- The source ends where more was required. -/
  | endOfFile (message : Message)
  /-- A backup was opened twice or used out of order. -/
  | backup (error : BackupError)
  /-- A diagnostic needs a vocabulary that cannot be loaded. -/
  | vocabulary (error : LoadError)
  /-- A production gave up for a reason of its own. -/
  | foreign (reason : String)
deriving Repr, DecidableEq

/-- The failures after which an attempt goes back. -/
def Failure.isSyntactic : Failure → Bool
  | mismatch _ | endOfFile _ => true
  | _ => false

structure Parser where
  cursor : Cursor
  vocabulary : Vocabulary
  /-- First line of the construct being parsed, where a production has set it. -/
  firstLine : Option Int := none
  /-- Last line of the construct being parsed, where a production has set it. -/
  lastLine : Option Int := none

/-- An action on a parser that may fail. -/
abbrev Parse (α : Type) := ExceptT Failure (StateM Parser) α

namespace Parser

/-- A parser in front of the first token of a source. -/
def ofScanner (scanner : Scanner) (vocabulary : Vocabulary) : Parser where
  cursor := { scanner }
  vocabulary := vocabulary

def scanner (p : Parser) : Scanner := p.cursor.scanner

def sourceName (p : Parser) : String := p.scanner.source

/-- The current token, none before the first one has been read. -/
def token? (p : Parser) : Option Token := p.cursor.current.map Entry.token

/-- The content of the current token. -/
def content (p : Parser) : String := (p.token?.map Token.content).getD ""

/-- Line and column of the current token, or of the scanner before the first one. -/
def position (p : Parser) : Int × Int :=
  match p.cursor.current with
  | some entry => (entry.line, entry.column)
  | none => (p.scanner.line, 0)

def startLine (p : Parser) : Int := p.firstLine.getD p.position.1

def endLine (p : Parser) : Int := p.lastLine.getD p.position.1

def pendingTokens (p : Parser) : List Token := p.cursor.queue.map Entry.token

/-! ## Contexts -/

/-- The last line with something other than blanks in it, with its number. -/
def lastInkedLine? (lines : List String) : Option (Nat × String) :=
  (lines.zipIdx 1).reverse.findSome? fun (text, number) =>
    if Text.hasInk text then some (number, text) else none

/-- The end of the last line that is not blank. -/
def endOfFileContext (p : Parser) : Context :=
  match lastInkedLine? p.scanner.retained.toList with
  | some (number, text) =>
    { source := p.sourceName, startLine := number, endLine := number
      column := (Text.withoutLineEnd text).length, code := [text] }
  | none =>
    { source := p.sourceName, startLine := p.position.1, endLine := p.position.1, column := 0 }

/-- The place of the current token, with its line if that has been read. -/
def context (p : Parser) : Context :=
  if p.token?.any Token.isEndOfFile then p.endOfFileContext
  else
    { source := p.sourceName, startLine := p.position.1, endLine := p.position.1
      column := p.position.2, code := (p.scanner.codeLine? p.position.1).toList }

/-! ## Messages -/

/-- The message for the current token where something else was expected. A token without content
is pointed at from the character before it. -/
def unexpected (p : Parser) (message : String) (expected : List String) : Message :=
  let ctx := p.context
  if p.content.isEmpty then
    { context := { ctx with column := max (ctx.column - 1) 0 }, description := message }
  else
    let description :=
      if message.isEmpty then ". Found term: " ++ p.content else message ++ ": " ++ p.content
    .withHelp ctx description (Suggestion.help ctx p.content expected)

/-- The message for the current token inside a construct, with the terms of a registry. -/
def unexpectedIn (p : Parser) (r : Registry) (message : String) (name : Option String)
    (scope : String) : Message :=
  let failure : ScopeFailure :=
    { context := p.context
      message := message
      content := p.content
      name := name
      firstLine := p.startLine
      lines := p.scanner.codeLines p.startLine p.endLine
      vocabulary := r.terms scope }
  failure.diagnose scope

/-! ## Backups -/

/-- Drops a backup that no attempt will close. -/
def closeUnguarded (p : Parser) : Parser :=
  if p.cursor.isGuarded then p else { p with cursor := { p.cursor with backup := none } }

end Parser

namespace Parse

/-- Fails with a diagnostic; a backup that no attempt will close does not outlive it. -/
def fail {α : Type} (failure : Failure) : Parse α := do
  modify Parser.closeUnguarded
  throw failure

/-- An operation on the cursor that the scanner may interrupt. -/
def onCursor {α : Type} (operation : Cursor → Except ScanError α × Cursor) :
    Parse (Except ScanError α) :=
  modifyGet fun p =>
    let (result, cursor) := operation p.cursor
    (result, { p with cursor })

/-! ## Reading -/

/-- Advances to the next token. -/
def nextToken : Parse Token := do
  match ← onCursor Cursor.advance with
  | .ok entry => return entry.token
  | .error e => fail (.scan e)

/-- Advances to the next token, which must not be the end of the file. -/
def nextTokenNotEndOfFile : Parse Token := do
  let token ← nextToken
  if token.isEndOfFile then
    fail (.endOfFile { context := (← get).context, description := "Unexpected end of file" })
  return token

/-- Drops the rest of the line so that reading resumes on the next one. -/
def skipLine : Parse Unit := do
  match ← onCursor Cursor.skipLine with
  | .ok () => return ()
  | .error e => throw (.scan e)

/-! ## Injection -/

/-- Queues tokens, in order, in front of everything else, at the present position. -/
def addTokens (tokens : List Token) : Parse Unit :=
  modify fun p =>
    { p with cursor := p.cursor.inject (tokens.map fun t => ⟨t, p.position.1, p.position.2, false⟩) }

/-- Queues a token in front of everything else. -/
def addToken (token : Token) : Parse Unit := addTokens [token]

/-- Queues a token and, behind it, the current token. -/
def prependToken (token : Token) : Parse Unit :=
  modify fun p =>
    { p with
      cursor := p.cursor.inject
        (⟨token, p.position.1, p.position.2, false⟩ :: p.cursor.current.toList) }

/-! ## Backups -/

def startBackup (guarded : Bool := false) : Parse Unit := do
  let p ← get
  match p.cursor.startBackup guarded with
  | .ok cursor => set { p with cursor }
  | .error e => throw (.backup e)

def discardBackup : Parse Unit := do
  let p ← get
  match p.cursor.discardBackup with
  | .ok cursor => set { p with cursor }
  | .error e => throw (.backup e)

def recoverBackup : Parse Unit := do
  let p ← get
  match p.cursor.recoverBackup with
  | .error e => throw (.backup e)
  | .ok (result, cursor) =>
    set { p with cursor }
    match result with
    | .ok () => return ()
    | .error e => throw (.scan e)

/-- Runs a production and gives its outcome, whatever it is, as a result. -/
def outcome {α : Type} (production : Parse α) : Parse (Except Failure α) :=
  modifyGet fun p => Id.run (production.run.run p)

/-- Runs a production under a backup. A syntactic failure takes the parser back and gives no
result; any other failure keeps the tokens that were read and goes on. -/
def attempt {α : Type} (production : Parse α) : Parse (Option α) := do
  startBackup true
  -- a production that has closed the backup itself makes closing it fail
  match ← outcome production with
  | .ok result =>
    discardBackup
    return some result
  | .error failure =>
    if failure.isSyntactic then
      recoverBackup
      return none
    else
      discardBackup
      throw failure

/-! ## Diagnostics -/

/-- Fails because something else was expected than the current token. -/
def mismatch {α : Type} (message : String) (expected : List String := []) : Parse α := do
  fail (.mismatch ((← get).unexpected message expected))

/-- The registry that diagnostics inside a construct are made from. Where it cannot be had there is
no diagnostic either, and every backup stays as it is. -/
def registry : Parse Registry := do
  let p ← get
  let (result, vocabulary) := p.vocabulary.ask
  set { p with vocabulary }
  match result with
  | .ok r => return r
  | .error e => throw (.vocabulary e)

/-- Help for a term at a context inside a construct. -/
def helpIn (ctx : Context) (term scope : String) : Parse String := do
  return Suggestion.helpInScope ctx term ((← registry).terms scope)

/-- Fails because the current token does not fit the construct being parsed. -/
def mismatchIn {α : Type} (message : String) (name : Option String) (scope : String) :
    Parse α := do
  let r ← registry
  fail (.mismatch ((← get).unexpectedIn r message name scope))

/-- Fails at the current token with a description of its own. -/
def reject {α : Type} (description : String) : Parse α := do
  fail (.mismatch { context := (← get).context, description })

/-! ## Assertions and consumption -/

/-- The current token if it satisfies a condition. -/
def current? (accepts : Token → Bool) : Parse (Option Token) := do
  return (← get).token?.filter accepts

/-- The terms that a message can name for a kind: its lexeme, if it has one. -/
def expectedTerms (kind : Kind) : List String := if kind.isVariable then [] else [kind.written]

/-- The current token, which must be of a kind. -/
def assertToken (kind : Kind) (message : String) : Parse Token := do
  match ← current? fun t => t.kind = kind with
  | some token => return token
  | none => mismatch message (expectedTerms kind)

/-- The current token, which must be of a kind inside a construct. -/
def assertTokenIn (kind : Kind) (message : String) (name : Option String) (scope : String) :
    Parse Token := do
  match ← current? fun t => t.kind = kind with
  | some token => return token
  | none => mismatchIn message name scope

/-- The current token, which must be an identifier or stand in for one. -/
def assertIdentifier (message : String) : Parse Token := do
  match ← current? Token.isIdentifierLike with
  | some token => return token
  | none => mismatch message

/-- Advances past the current token, which must be of a kind. -/
def eat (kind : Kind) (message : String) : Parse Token := do
  let eaten ← assertToken kind message
  let _ ← nextToken
  return eaten

/-- Advances past the current token, which must be of a kind inside a construct. -/
def eatIn (kind : Kind) (message : String) (name : Option String) (scope : String) :
    Parse Token := do
  let eaten ← assertTokenIn kind message name scope
  let _ ← nextToken
  return eaten

/-- Advances past the current token if it is of one of some kinds; tells whether it did. -/
def maybeEat (kinds : List Kind) : Parse Bool := do
  match ← current? fun t => kinds.contains t.kind with
  | some _ =>
    let _ ← nextToken
    return true
  | none => return false

/-- Advances past the current token, which must be an identifier that reads exactly `word`. -/
def eatWord (word message : String) : Parse Token := do
  let eaten ← assertToken .identifier message
  unless eaten.isWord word do mismatch message [word]
  let _ ← nextToken
  return eaten

/-- Advances past the current token, which must be an identifier or stand in for one. -/
def eatIdentifier (message : String) : Parse Token := do
  let eaten ← assertIdentifier message
  let _ ← nextToken
  return eaten

end Parse

end ServiceSyntax

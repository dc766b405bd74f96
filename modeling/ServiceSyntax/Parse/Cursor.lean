import ServiceSyntax.Scan.Pending

/-!
# The token cursor

A cursor holds the current token, a queue of tokens that come before those of the scanner, and at
most one backup: a record of the tokens that became current since it was opened. Recovering a
backup queues its tokens again, so that they are read once more in the same order.
-/

namespace ServiceSyntax

/-- A token with its position and the line break in front of it. -/
structure Entry where
  token : Token
  line : Int
  column : Int
  metNewline : Bool := false
deriving Repr, DecidableEq

/-- The tokens that became current since the backup was opened, behind the one that was current
then. -/
structure Backup where
  entries : Array Entry
  /-- Opened by an attempt, which closes it itself. -/
  guarded : Bool
deriving Repr, DecidableEq

/-- A backup operation that does not fit the state of the cursor. -/
inductive BackupError where
  | alreadyOpen
  | nothingToRecover
  | nothingToDiscard
deriving Repr, DecidableEq

def BackupError.message : BackupError → String
  | alreadyOpen => "A backup session is already active"
  | nothingToRecover => "Cannot recover backup: no backup session is active"
  | nothingToDiscard => "Cannot discard backup: no backup session is active"

/-- A scanner with one token of lookahead, a queue in front of it and a backup. -/
structure Cursor where
  scanner : Scanner
  current : Option Entry := none
  metNewline : Bool := false
  queue : List Entry := []
  backup : Option Backup := none
deriving Repr, DecidableEq

namespace Cursor

def isGuarded (c : Cursor) : Bool := c.backup.any Backup.guarded

/-- The token just scanned with its position. -/
def scanned (s : Scanner) (token : Token) : Entry where
  token := token
  line := s.tokenLine
  column := s.tokenColumn
  metNewline := s.metNewline

/-! ## Reading -/

/-- The next token of the scanner that is not a line break; breaks are noted on the way. -/
def scan (c : Cursor) : Except ScanError Entry × Cursor :=
  match _h : c.scanner.next with
  | (.error e, s) => (.error e, { c with scanner := s })
  | (.ok token, s) =>
    if _ht : token.kind = .newline then
      scan { c with scanner := s, metNewline := true }
    else
      (.ok (scanned s token), { c with scanner := s, metNewline := c.metNewline || s.metNewline })
termination_by c.scanner.pending
decreasing_by
  refine Scanner.pending_next_lt _h fun heq => ?_
  simp only [Except.ok.injEq] at heq
  simp [heq] at _ht

/-- The next token that is not a line break, from the queue if it holds one. -/
def read (c : Cursor) : List Entry → Except ScanError Entry × Cursor
  | [] => { c with queue := [] }.scan
  | entry :: queue =>
    if entry.token.kind = .newline then { c with metNewline := true }.read queue
    else (.ok entry, { c with queue, metNewline := c.metNewline || entry.metNewline })

/-- Moves to the next token, which an open backup records. -/
def advance (c : Cursor) : Except ScanError Entry × Cursor :=
  match { c with metNewline := false }.read c.queue with
  | (.error e, c) => (.error e, c)
  | (.ok entry, c) =>
    (.ok entry,
      { c with
        current := some entry
        backup := c.backup.map fun b => { b with entries := b.entries.push entry } })

/-- Queues entries, in order, ahead of everything that is queued. -/
def inject (c : Cursor) (entries : List Entry) : Cursor := { c with queue := entries ++ c.queue }

/-! ## Backups -/

/-- Opens a backup; the current token is its first entry. -/
def startBackup (c : Cursor) (guarded : Bool) : Except BackupError Cursor :=
  match c.backup with
  | some _ => .error .alreadyOpen
  | none => .ok { c with backup := some ⟨c.current.toArray, guarded⟩ }

/-- Closes the backup and keeps the tokens that were read. -/
def discardBackup (c : Cursor) : Except BackupError Cursor :=
  match c.backup with
  | none => .error .nothingToDiscard
  | some _ => .ok { c with backup := none }

/-- Closes the backup and goes back to the token that was current when it was opened. -/
def recoverBackup (c : Cursor) : Except BackupError (Except ScanError Unit × Cursor) :=
  match c.backup with
  | none => .error .nothingToRecover
  | some b =>
    let c := { c with backup := none }
    -- nothing was current and nothing has been read since
    if b.entries.isEmpty then .ok (.ok (), c)
    else
      match (c.inject b.entries.toList).advance with
      | (.ok _, c) => .ok (.ok (), c)
      | (.error e, c) => .ok (.error e, c)

/-- Drops the rest of the scanner's line. -/
def skipLine (c : Cursor) : Except ScanError Unit × Cursor :=
  match c.scanner.skipLine with
  | (.ok _, s) => (.ok (), { c with scanner := s })
  | (.error e, s) => (.error e, { c with scanner := s })

end Cursor

end ServiceSyntax

import ServiceSyntax.Yaml.Lexeme

/-!
# The layout of a YAML text

Division of a text into tokens. In block context the indentation decides where collections start
and end. A scalar or a flow collection may turn out to be the key of a mapping when a colon
follows it on the same line; the tokens that say so are then inserted in front of it.
-/

namespace ServiceSyntax.Yaml

inductive FlowKind where
  | sequence
  | mapping
deriving Repr, DecidableEq

/-- A place where the key of a mapping may have started. -/
structure KeyStart where
  /-- Number of flow collections around it. -/
  depth : Nat
  /-- Number of tokens in front of it. -/
  place : Nat
  /-- Nothing but a key can stand there. -/
  required : Bool
  index : Nat
  line : Nat
  column : Nat
deriving Repr

/-- The state of the division into tokens. -/
structure Layout where
  reader : Reader
  version : Version := .standard
  /-- The version that a directive names for the document to come. -/
  declared : Option Version := none
  tokens : Array Token := #[]
  /-- The flow collections around the reader, the innermost first. -/
  flow : List FlowKind := []
  /-- Column of the block collection around the reader, `-1` outside of any. -/
  indent : Int := -1
  /-- Columns of the block collections further out. -/
  outer : List Int := []
  allowKey : Bool := true
  keyStarts : List KeyStart := []
  finished : Bool := false
deriving Repr

namespace Layout

/-- An action that divides off some tokens or fails. -/
abbrev Divide := StateT Layout (Except Error)

/-- A key is on one line and not longer than this. -/
def longestKey : Nat := 1024

def fail {α : Type} (reason : String) : Divide α := fun s =>
  .error ⟨reason, s.reader.line, s.reader.column⟩

def emit (token : Token) : Divide Unit := modify fun s => { s with tokens := s.tokens.push token }

/-- Reads a lexeme. -/
def lexeme {α : Type} (read : Read α) : Divide α := fun s =>
  match read.run s.reader with
  | .ok (result, reader) => .ok (result, { s with reader })
  | .error e => .error e

def inFlow : Divide Bool := do return !(← get).flow.isEmpty

def allow (allowKey : Bool) : Divide Unit := modify fun s => { s with allowKey }

/-! ## Possible keys -/

/-- Forgets the key starts that are too far back by now. -/
def dropStale : Divide Unit := do
  let s ← get
  let isStale := fun (k : KeyStart) =>
    k.line != s.reader.line || decide (longestKey < s.reader.index - k.index)
  if s.keyStarts.any fun k => isStale k && k.required then fail "expected a colon behind a key"
  set { s with keyStarts := s.keyStarts.filter fun k => !isStale k }

/-- Forgets the key start at the present depth. -/
def dropKey : Divide Unit := do
  let s ← get
  let depth := s.flow.length
  if s.keyStarts.any fun k => k.depth = depth && k.required then
    fail "expected a colon behind a key"
  set { s with keyStarts := s.keyStarts.filter fun k => k.depth != depth }

/-- Notes that a key may start here. -/
def noteKey : Divide Unit := do
  let s ← get
  if s.allowKey then
    dropKey
    modify fun t =>
      { t with keyStarts := t.keyStarts ++
        [{ depth := s.flow.length
           place := s.tokens.size
           required := s.flow.isEmpty && decide (s.indent = s.reader.column)
           index := s.reader.index
           line := s.reader.line
           column := s.reader.column }] }

/-! ## Indentation -/

private def closeBlocks (column : Int) (indent : Int) :
    List Int → Array Token → Int × List Int × Array Token
  | [], tokens => (indent, [], tokens)
  | next :: outer, tokens =>
    if column < indent then closeBlocks column next outer (tokens.push .blockEnd)
    else (indent, next :: outer, tokens)

/-- Ends the block collections that are indented beyond a column. -/
def unwind (column : Int) : Divide Unit :=
  modify fun s =>
    if s.flow.isEmpty then
      let (indent, outer, tokens) := closeBlocks column s.indent s.outer s.tokens
      { s with indent, outer, tokens }
    else s

/-- Enters a block collection at a column unless it is there already. -/
def enter (column : Nat) : Divide Bool := do
  let s ← get
  if s.indent < column then
    set { s with indent := column, outer := s.indent :: s.outer }
    return true
  else return false

private def insertAt (place : Nat) (token : Token) : Divide Unit :=
  modify fun s =>
    { s with tokens := s.tokens.extract 0 place ++ #[token] ++ s.tokens.extract place }

/-! ## Tokens -/

private def skipBlanks : (fuel : Nat) → Divide Unit
  | 0 => return ()
  | fuel + 1 => do
    let flow ← inFlow
    lexeme do
      if (← get).index = 0 ∧ (← Read.look) = some '\uFEFF' then Read.skip
      Read.skipWhile fun c => c = ' ' || (flow && c = '\t')
      if (← Read.look) = some '#' then Read.skipWhile fun c => !endsLine (some c)
    match ← lexeme Read.lineBreak with
    | none => return ()
    | some _ =>
      -- a new line may start with a key
      unless flow do allow true
      skipBlanks fuel

private def endText : Divide Unit := do
  unwind (-1)
  dropKey
  modify fun s => { s with allowKey := false, keyStarts := [], finished := true }

/-- Leaves all block collections in front of something that stands between documents. -/
private def betweenDocuments : Divide Unit := do
  unwind (-1)
  dropKey
  allow false

private def directive : Divide Unit := do
  betweenDocuments
  let d ← lexeme (Lexeme.directive (← get).version)
  match d with
  | .version _ minor => modify fun s => { s with declared := some ⟨minor⟩ }
  | _ => pure ()
  emit (.directive d)

private def documentStart : Divide Unit := do
  betweenDocuments
  lexeme (Read.skip 3)
  -- directives hold from here on
  modify fun s => { s with version := s.declared.getD .standard, declared := none }
  emit .documentStart

private def documentEnd : Divide Unit := do
  betweenDocuments
  lexeme (Read.skip 3)
  emit .documentEnd

private def openFlow (kind : FlowKind) (token : Token) : Divide Unit := do
  noteKey
  modify fun s => { s with flow := kind :: s.flow, allowKey := true }
  lexeme Read.skip
  emit token

private def closeFlow (token : Token) : Divide Unit := do
  dropKey
  modify fun s => { s with flow := s.flow.tail, allowKey := false }
  lexeme Read.skip
  emit token

private def flowEntry : Divide Unit := do
  allow true
  dropKey
  lexeme Read.skip
  emit .flowEntry

/-- Starts a block collection at the reader, where one is allowed, unless it is in one. -/
private def startBlock (token : Token) (reason : String) : Divide Unit := do
  unless (← get).allowKey do fail reason
  if ← enter (← get).reader.column then emit token

private def blockEntry : Divide Unit := do
  unless ← inFlow do startBlock .blockSequenceStart "no sequence entry is allowed here"
  allow true
  dropKey
  lexeme Read.skip
  emit .blockEntry

private def explicitKey : Divide Unit := do
  unless ← inFlow do startBlock .blockMappingStart "no key is allowed here"
  allow !(← inFlow)
  dropKey
  lexeme Read.skip
  emit .key

private def value : Divide Unit := do
  let s ← get
  match s.keyStarts.find? fun k => k.depth = s.flow.length with
  | some k =>
    set { s with keyStarts := s.keyStarts.filter fun other => other.depth != k.depth }
    -- what stands there turns out to be a key, perhaps the first of a mapping
    insertAt k.place .key
    unless ← inFlow do
      if ← enter k.column then insertAt k.place .blockMappingStart
    allow false
  | none =>
    unless ← inFlow do startBlock .blockMappingStart "no value is allowed here"
    allow !(← inFlow)
    dropKey
  lexeme Read.skip
  emit .value

/-- Something that may be the key of a mapping. -/
private def keyLike (read : Divide Token) : Divide Unit := do
  noteKey
  allow false
  emit (← read)

private def blockScalar (fold : Bool) : Divide Unit := do
  allow true
  dropKey
  emit (.scalar .quoted (← lexeme (Lexeme.block fold (← get).indent)))

private def plainScalar : Divide Token := do
  let s ← get
  let (text, broken) ← lexeme (Lexeme.plain s.version (!s.flow.isEmpty) (s.indent + 1))
  allow broken
  return .scalar .plain text

/-! ## Indicators -/

private def startsKey (s : Layout) (next : Option Char) : Bool :=
  !s.flow.isEmpty || endsWord next

/-- A colon is an indicator in front of a blank. In flow collections it may also stand directly
in front of a value, except in a sequence and directly behind another colon. -/
private def startsValue (s : Layout) (behindValue : Bool) (next : Option Char) : Bool :=
  match s.flow with
  | [] => endsWord next
  | .sequence :: _ => s.version.isFirst || endsWord next
  | .mapping :: _ => s.version.isFirst || !behindValue || endsWord next

private def startsPlain (s : Layout) (c : Char) (next : Option Char) : Bool :=
  if !(isBreak c || isOneOf " \t-?:,[]\x7b\x7d#&*!|>'\"%@\x60" c) then true
  else if c = '-' then !endsWord next
  else if s.flow.isEmpty then (c = '?' || c = ':') && !endsWord next
  else !s.version.isFirst && c = ':' && !(next = some ' ' || next = some '\t')

/-- Divides off the next token, with those that indentation puts in front of it. -/
def step : Divide Unit := do
  dropStale
  -- asked before blanks are skipped, since no key start outlives the end of its line
  let behindValue := !(← get).keyStarts.isEmpty && (← get).tokens.back? == some .value
  skipBlanks ((← get).reader.rest.length + 1)
  dropStale
  unwind (← get).reader.column
  let s ← get
  let r := s.reader
  let lineStart := r.column = 0
  let next := r.rest[1]?
  match r.rest.head? with
  | none => endText
  | some c =>
    if c = '%' ∧ lineStart then directive
    else if lineStart ∧ r.atMark '-' then documentStart
    else if lineStart ∧ r.atMark '.' then documentEnd
    else if c = '[' then openFlow .sequence .flowSequenceStart
    else if c = '{' then openFlow .mapping .flowMappingStart
    else if c = ']' then closeFlow .flowSequenceEnd
    else if c = '}' then closeFlow .flowMappingEnd
    else if c = ',' then flowEntry
    else if c = '-' ∧ endsWord next then blockEntry
    else if c = '?' ∧ startsKey s next then explicitKey
    else if c = ':' ∧ startsValue s behindValue next then value
    else if c = '*' then keyLike do return .aliasName (← lexeme Lexeme.anchorName)
    else if c = '&' then keyLike do return .anchor (← lexeme Lexeme.anchorName)
    else if c = '!' then
      keyLike do
        let (handle, suffix) ← lexeme (Lexeme.tag s.version)
        return .tag handle suffix
    else if (c = '|' ∨ c = '>') ∧ s.flow.isEmpty then blockScalar (c = '>')
    else if c = '\'' ∨ c = '"' then
      keyLike do return .scalar .quoted (← lexeme (Lexeme.quoted (c = '"')))
    else if startsPlain s c next then keyLike plainScalar
    else fail "no token can start here"

private def run : (fuel : Nat) → Divide Unit
  | 0 => fail "the text has no end"
  | fuel + 1 => do
    step
    unless (← get).finished do run fuel

end Layout

/-- The tokens of a text. -/
def Token.ofText? (text : List Char) : Except Error (List Token) :=
  match text.find? fun c => !isAllowed c with
  | some _ => .error ⟨"a character is not allowed", 0, 0⟩
  | none => do
    let (_, s) ← (Layout.run (2 * text.length + 2)).run { reader := { rest := text } }
    return s.tokens.toList

end ServiceSyntax.Yaml

import ServiceSyntax.Text.Utf8
import ServiceSyntax.Yaml.Reader
import ServiceSyntax.Yaml.Token

/-!
# YAML lexemes

Reading what a single token holds: directives, anchors, tags, and scalars in their five styles.
Line breaks inside flow scalars fold: a single break becomes a space, of several breaks all but
the first stay.
-/

namespace ServiceSyntax.Yaml.Lexeme

open Read

/-! ## Directives, anchors and tags -/

private def isDirectiveChar (c : Char) : Bool := isHandleChar c || c = ':' || c = '.'

private def number : Read Nat := do
  let digits ← takeWhile Char.isDigit
  if digits.isEmpty then fail "expected a digit"
  return digits.foldl (fun n c => n * 10 + (c.toNat - '0'.toNat)) 0

/-- The handle of a tag: `!`, `!!` or a name between exclamation marks. -/
private def tagHandle : Read String := do
  unless (← look) = some '!' do fail "expected an exclamation mark"
  let name := ((← get).rest.drop 1).takeWhile isHandleChar
  -- a name counts only with an exclamation mark behind it
  let closed := (← look (name.length + 1)) = some '!'
  if closed then
    skip (name.length + 2)
    return String.ofList ('!' :: name ++ ['!'])
  unless (← look 1) = some ' ' do fail "expected an exclamation mark"
  skip
  return "!"

private def isUriChar (version : Version) (c : Char) : Bool :=
  c.isAlphanum || isOneOf "-;/?:@&=+$,_.!~*'()[]" c || (1 < version.minor && c = '#')

private def hexValue? (c : Char) : Option Nat :=
  if c.isDigit then some (c.toNat - '0'.toNat)
  else if 'a' ≤ c ∧ c ≤ 'f' then some (c.toNat - 'a'.toNat + 10)
  else if 'A' ≤ c ∧ c ≤ 'F' then some (c.toNat - 'A'.toNat + 10)
  else none

private def hexNumber? (cs : List Char) : Option Nat :=
  cs.foldl (fun n c => do return (← n) * 16 + (← hexValue? c)) (some 0)

/-- The bytes of a run of escapes, each a percent sign and two hexadecimal digits. -/
private def escapedBytes : (fuel : Nat) → Read (List UInt8)
  | 0 => return []
  | fuel + 1 => do
    unless (← look) = some '%' do return []
    match hexNumber? ((← get).rest.drop 1 |>.take 2), ← look 2 with
    | some byte, some _ =>
      skip 3
      return UInt8.ofNat byte :: (← escapedBytes fuel)
    | _, _ => fail "expected two hexadecimal digits"

private def uriParts (version : Version) : (fuel : Nat) → Read (List Char)
  | 0 => return []
  | fuel + 1 => do
    let plain ← takeWhile (isUriChar version)
    if (← look) = some '%' then
      match Text.Utf8.decode? (← escapedBytes fuel) with
      | some escaped => return plain ++ escaped ++ (← uriParts version fuel)
      | none => fail "escaped bytes are no text"
    else return plain

private def uri (version : Version) : Read String := do
  let text ← uriParts version ((← get).rest.length + 1)
  if text.isEmpty then fail "expected a URI"
  return String.ofList text

private def needTagEnd : Read Unit := do
  unless endsTag (← look) do fail "expected a blank"

/-- A directive, from its percent sign to the end of its line. -/
def directive (version : Version) : Read Directive := do
  skip
  let name ← takeWhile isDirectiveChar
  if name.isEmpty then fail "expected the name of a directive"
  needTagEnd
  let directive ← match String.ofList name with
    | "YAML" => do
      skipWhile (· = ' ')
      let major ← number
      unless (← look) = some '.' do fail "expected a digit or a point"
      skip
      let minor ← number
      needTagEnd
      pure (Directive.version major minor)
    | "TAG" => do
      skipWhile (· = ' ')
      let handle ← tagHandle
      unless (← look) = some ' ' do fail "expected a space"
      skipWhile (· = ' ')
      let expansion ← uri version
      needTagEnd
      pure (Directive.tag handle expansion)
    | _ => do
      skipWhile fun c => !endsLine (some c)
      pure Directive.reserved
  restOfLine
  return directive

/-- The name of an anchor or an alias, behind its indicator. -/
def anchorName : Read String := do
  skip
  let name ← takeWhile isAnchorChar
  if name.isEmpty then fail "expected a name"
  let follows : Option Char → Bool
    | none => true
    | some c => c = '\t' || endsTag (some c) || isOneOf "?:,[]\x7b\x7d%@\x60" c
  unless follows (← look) do fail "expected the end of a name"
  return String.ofList name

/-- A tag: its handle, unless it is written out between angle brackets, and its suffix. Of two
exclamation marks in front the second one starts a handle that has a third one behind it. -/
def tag (version : Version) : Read (Option String × String) := do
  let short ← if (← look 1) = some '!' then do
      skip
      pure "!!"
    else pure "!"
  let result ←
    if (← look 1) = some '<' then do
      skip 2
      let suffix ← uri version
      unless (← look) = some '>' do fail "expected a closing angle bracket"
      skip
      pure (none, suffix)
    else if endsWord (← look 1) then do
      skip
      pure (none, "!")
    else
      let word := ((← get).rest.drop 1).takeWhile fun c => !endsTag (some c)
      if word.contains '!' then do
        let handle ← tagHandle
        pure (some handle, ← uri version)
      else do
        skip
        pure (some short, ← uri version)
  needTagEnd
  return result

/-! ## Quoted scalars -/

private def escapeMeaning? : Char → Option Char
  | '0' => some '\x00'
  | 'a' => some '\x07'
  | 'b' => some '\x08'
  | 't' | '\t' => some '\t'
  | 'n' => some '\n'
  | 'v' => some '\x0b'
  | 'f' => some '\x0c'
  | 'r' => some '\r'
  | 'e' => some '\x1b'
  | ' ' => some ' '
  | '"' => some '"'
  | '/' => some '/'
  | '\\' => some '\\'
  | 'N' => some '\x85'
  | '_' => some '\xa0'
  | 'L' => some '\u2028'
  | 'P' => some '\u2029'
  | _ => none

private def escapeWidth? : Char → Option Nat
  | 'x' => some 2
  | 'u' => some 4
  | 'U' => some 8
  | _ => none

/-- The character of a code, or of the code and a low surrogate escaped behind it. -/
private def codeChar (code : Nat) : Read Char := do
  if 0xD800 ≤ code ∧ code < 0xDC00 then
    let rest := (← get).rest
    match rest, hexNumber? (rest.drop 2 |>.take 4) with
    | '\\' :: 'u' :: _, some low =>
      if 0xDC00 ≤ low ∧ low < 0xE000 then
        skip 6
        return Char.ofNat (0x10000 + (code - 0xD800) * 0x400 + (low - 0xDC00))
      else return Text.Utf8.replacement
    | _, _ => return Text.Utf8.replacement
  else if code.isValidChar then return Char.ofNat code
  else if code < 0x110000 then return Text.Utf8.replacement
  else fail "an escaped code is too large"

/-- The breaks of a run of blank lines; no document may start or end among them. -/
private def flowBreaks : (fuel : Nat) → Read (List Char)
  | 0 => return []
  | fuel + 1 => do
    if (← get).atDocumentMark then fail "a document ends inside a quoted scalar"
    skipWhile fun c => c = ' ' || c = '\t'
    match ← lineBreak with
    | some c => return c :: (← flowBreaks fuel)
    | none => return []

/-- What a line break followed by others amounts to. -/
private def folded (first : Char) (others : List Char) : List Char :=
  if first != '\n' then first :: others
  else if others.isEmpty then [' ']
  else others

/-- Blanks inside a quoted scalar, folded if a line ends among them. -/
private def flowBlanks (fuel : Nat) : Read (List Char) := do
  let blanks ← takeWhile fun c => c = ' ' || c = '\t'
  match ← lineBreak with
  | some first => return folded first (← flowBreaks fuel)
  | none => return blanks

/-- An escape in a double-quoted scalar, from its backslash on. -/
private def flowEscape (fuel : Nat) : Read (List Char) := do
  skip
  match ← look with
  | none => fail "unknown escape"
  | some c =>
    if isBreak c then
      let _ ← lineBreak
      flowBreaks fuel
    else match escapeMeaning? c, escapeWidth? c with
      | some meant, _ =>
        skip
        return [meant]
      | none, some width =>
        let digits := (← get).rest.drop 1 |>.take width
        match hexNumber? digits with
        | some code =>
          unless digits.length = width do fail "expected a hexadecimal digit"
          skip (width + 1)
          return [← codeChar code]
        | none => fail "expected a hexadecimal digit"
      | none, none => fail "unknown escape"

/-- The content of a quoted scalar up to its closing quote. -/
private def flowContent (double : Bool) : (fuel : Nat) → Read (List Char)
  | 0 => fail "a quoted scalar is not closed"
  | fuel + 1 => do
    match ← look, ← look 1 with
    | none, _ => fail "a quoted scalar is not closed"
    | some '\'', next =>
      if double then
        skip
        return '\'' :: (← flowContent double fuel)
      else if next = some '\'' then
        skip 2
        return '\'' :: (← flowContent double fuel)
      else return []
    | some '"', _ =>
      if double then return []
      else
        skip
        return '"' :: (← flowContent double fuel)
    | some '\\', _ =>
      if double then
        let meant ← flowEscape fuel
        return meant ++ (← flowContent double fuel)
      else
        skip
        return '\\' :: (← flowContent double fuel)
    | some c, _ =>
      if c = ' ' ∨ c = '\t' ∨ isBreak c then
        let blanks ← flowBlanks fuel
        return blanks ++ (← flowContent double fuel)
      else
        let run ← takeWhile fun c => !(isOneOf " '\"\\\t" c || isBreak c)
        return run ++ (← flowContent double fuel)

/-- A scalar between quotes. -/
def quoted (double : Bool) : Read String := do
  skip
  let content ← flowContent double ((← get).rest.length + 1)
  skip
  return String.ofList content

/-! ## Plain scalars -/

/-- The longest run that belongs to a plain scalar without a blank. -/
private def plainRun (version : Version) (inFlow : Bool) : List Char → List Char
  | [] => []
  | c :: rest =>
    let goesOn :=
      if c = ':' && !endsWord rest.head? then true
      else if c = '?' && !version.isFirst then true
      else !(endsWord (some c) || (c = ':' && !inFlow) || (inFlow && isOneOf ",:?[]\x7b\x7d" c))
    if goesOn then c :: plainRun version inFlow rest else []

/-- The breaks of a run of blank lines, nothing if a document starts or ends behind them. -/
private def plainBreaks : (fuel : Nat) → Read (Option (List Char))
  | 0 => return some []
  | fuel + 1 => do
    skipWhile (· = ' ')
    match ← lineBreak with
    | none => return some []
    | some c =>
      if (← get).atDocumentMark then return none
      return (← plainBreaks fuel).map (c :: ·)

/-- Blanks inside a plain scalar, and whether a line ends among them. -/
private def plainBlanks (fuel : Nat) : Read (List Char × Bool) := do
  let blanks ← takeWhile (· = ' ')
  match ← lineBreak with
  | none => return (blanks, false)
  | some first =>
    if (← get).atDocumentMark then return ([], true)
    match ← plainBreaks fuel with
    | none => return ([], true)
    | some others => return (folded first others, true)

/-- The parts of a plain scalar from a character of it on, and whether it ends with a line. -/
private def plainParts (version : Version) (inFlow : Bool) (indent : Int) :
    (fuel : Nat) → Read (List Char × Bool)
  | 0 => return ([], false)
  | fuel + 1 => do
    let run := plainRun version inFlow (← get).rest
    skip run.length
    let (blanks, broken) ← plainBlanks fuel
    let stops := blanks.isEmpty || (← look) = some '#'
      || (!inFlow && decide (((← get).column : Int) < indent))
      || (plainRun version inFlow (← get).rest).isEmpty
    if stops then return (run, broken)
    let (others, broken) ← plainParts version inFlow indent fuel
    return (run ++ blanks ++ others, broken)

/-- A scalar without quotes whose further lines are indented to a column at least; tells also
whether a line ended behind it. -/
def plain (version : Version) (inFlow : Bool) (indent : Int) : Read (String × Bool) := do
  let (text, broken) ← plainParts version inFlow indent ((← get).rest.length + 1)
  return (String.ofList text, broken)

/-! ## Block scalars -/

/-- What happens to the line breaks at the end of a block scalar. -/
private inductive Chomping where
  | strip | clip | keep

private def chomping : Read (Option Chomping) := do
  match ← look with
  | some '+' => skip; return some .keep
  | some '-' => skip; return some .strip
  | _ => return none

private def indentation : Read (Option Nat) := do
  match ← look with
  | some c =>
    if c.isDigit then
      if c = '0' then fail "an indentation of zero"
      skip
      return some (c.toNat - '0'.toNat)
    else return none
  | none => return none

/-- The indicators of a block scalar, in either order. -/
private def blockHeader : Read (Chomping × Option Nat) := do
  skip
  let result ← do
    match ← chomping with
    | some c => pure (c, ← indentation)
    | none =>
      let width ← indentation
      pure ((← if width.isSome then chomping else pure none).getD .clip, width)
  unless endsTag (← look) do fail "expected chomping or indentation indicators"
  restOfLine
  return result

/-- The breaks of leading blank lines, the column of the first of them, and the column behind the
widest indentation. -/
private def leadingBreaks : (fuel : Nat) → (first : Option Nat) → (widest : Nat) →
    Read (List Char × Option Nat × Nat)
  | 0, first, widest => return ([], first, widest)
  | fuel + 1, first, widest => do
    let indented := (← look) = some ' '
    skipWhile (· = ' ')
    let column := (← get).column
    let widest := if indented then max widest column else widest
    match ← lineBreak with
    | none => return ([], first, widest)
    | some c =>
      let (others, first, widest) ← leadingBreaks fuel (some (first.getD column)) widest
      return (c :: others, first, widest)

/-- The breaks of blank lines in a block scalar. -/
private def blockBreaks (indent : Nat) : (fuel : Nat) → Read (List Char)
  | 0 => return []
  | fuel + 1 => do
    skipSpacesTo indent
    match ← lineBreak with
    | none => return []
    | some c => return c :: (← blockBreaks indent fuel)

private def atInk : Read Bool := do
  return !((← look) = some ' ' || (← look) = some '\t')

/-- The lines of a block scalar with the breaks in front of them; the last break and the breaks
of the blank lines at the end are given apart. -/
private def blockLines (fold : Bool) (indent : Nat) (topLevel : Bool) (breaks : List Char) :
    (fuel : Nat) → Read (List Char × Option Char × List Char)
  | 0 => return ([], none, breaks)
  | fuel + 1 => do
    unless (← get).column = indent && (← look).isSome do return ([], none, breaks)
    let inked ← atInk
    let line ← takeWhile fun c => !endsLine (some c)
    let close ← lineBreak
    let after ← blockBreaks indent (fuel + 1)
    let r ← get
    let ended := topLevel && r.column = 0 && r.atDocumentMark
    if ended || !(r.column = indent && !r.rest.isEmpty) then
      return (breaks ++ line, close, after)
    -- two inked lines are joined by a space; blank and indented lines keep their breaks
    let joint := if fold && close = some '\n' && inked && (← atInk) then
        if after.isEmpty then [' '] else []
      else close.toList
    let (others, last, trailing) ← blockLines fold indent topLevel after fuel
    return (breaks ++ line ++ joint ++ others, last, trailing)

/-- A literal or folded scalar inside a collection of some indentation. -/
def block (fold : Bool) (indent : Int) : Read String := do
  let (chomping, width) ← blockHeader
  let fuel := (← get).rest.length + 1
  let least := (indent + 1).toNat
  let (breaks, indent) ← match width with
    | some width => do
      let indent := max least 1 + width - 1
      pure (← blockBreaks indent fuel, indent)
    | none => do
      let (breaks, first, widest) ← leadingBreaks fuel none 0
      if 0 < first.getD 0 ∧ first.getD 0 < widest then
        fail "a line is indented further than the first one"
      pure (breaks, max least widest)
  let topLevel := least = 0 && width.isNone
  let (text, last, trailing) ← blockLines fold indent topLevel breaks fuel
  let closing := match chomping with
    | .strip => []
    | .clip => last.toList
    | .keep => last.toList ++ trailing
  return String.ofList (text ++ closing)

end ServiceSyntax.Yaml.Lexeme

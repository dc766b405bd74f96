import ServiceSyntax.Text.Letter
import ServiceSyntax.Text.Digit
import ServiceSyntax.Token.Basic

/-!
# The scanning automaton

The automaton looks at one character, or at the end of the input, in the light of its state and
of the lexeme collected so far. A step names the next state, the token that is complete, if any,
whether the character is used up, and the character that the lexeme gains.
-/

namespace ServiceSyntax.Scan

inductive State where
  | start | identifier | integer | string | stringEscape
  | plus | equals | leftAngle | rightAngle | bang | slash | minus
  | blockComment | blockCommentStar | lineComment
deriving Repr, DecidableEq

namespace State

/-- The name of a state in traces. -/
def name : State → String
  | start => "start"
  | identifier => "identifier"
  | integer => "integer"
  | string => "string"
  | stringEscape => "string_escape"
  | plus => "plus"
  | equals => "equals"
  | leftAngle => "langle"
  | rightAngle => "rangle"
  | bang => "bang"
  | slash => "slash"
  | minus => "minus"
  | blockComment => "block_comment"
  | blockCommentStar => "block_comment_star"
  | lineComment => "line_comment"

def all : List State :=
  [start, identifier, integer, string, stringEscape, plus, equals, leftAngle, rightAngle, bang,
   slash, minus, blockComment, blockCommentStar, lineComment]

theorem mem_all (state : State) : state ∈ all := by cases state <;> decide

def ofName? (name : String) : Option State := all.find? fun state => state.name == name

def inBlockComment : State → Bool
  | blockComment | blockCommentStar => true
  | _ => false

/-- The state in which a character is looked at: a line comment is over in front of its line
feed and at the end of the input. -/
def settled (state : State) (look : Option Char) : State :=
  if state = lineComment ∧ (look = none ∨ look = some '\n') then start else state

end State

/-- What one look at a character leads to. -/
structure Step where
  next : State
  emit : Option Token := none
  consume : Bool := true
  append : Option Char := none
deriving Repr, DecidableEq

/-- A backslash in a string literal before a character that has no escape meaning. -/
structure MalformedEscape where
  char : Char
deriving Repr, DecidableEq

/-! ## Character classes -/

/-- The characters that separate tokens without being one. -/
def isSeparator (c : Char) : Bool := c = ' ' || c = '\t' || c = '\r' || c = '\n'

/-- The characters that go on with an identifier. -/
def isWordChar (c : Char) : Bool := Text.isLetter c || Text.isDigit c || c = '_'

/-- Symbols that are complete after their only character. -/
def single? : Char → Option Symbol
  | '(' => some .leftParen
  | ')' => some .rightParen
  | '[' => some .leftSquare
  | ']' => some .rightSquare
  | '{' => some .leftCurly
  | '}' => some .rightCurly
  | '*' => some .asterisk
  | '@' => some .at
  | ':' => some .colon
  | ',' => some .comma
  | ';' => some .sequence
  | '|' => some .parallel
  | _ => none

/-- The state that finishes a token whose first character does not settle what it is. -/
def opener? : Char → Option State
  | '+' => some .plus
  | '=' => some .equals
  | '<' => some .leftAngle
  | '>' => some .rightAngle
  | '!' => some .bang
  | '/' => some .slash
  | '-' => some .minus
  | _ => none

/-- The character that an escape stands for. -/
def unescape? : Char → Option Char
  | '\\' => some '\\'
  | 'n' => some '\n'
  | 't' => some '\t'
  | '"' => some '"'
  | _ => none

/-! ## Steps -/

/-- A step that completes a token in front of the character. -/
def before (state : State) (kind : Kind) (content : String) : Step where
  next := state
  emit := some ⟨kind, content⟩
  consume := false

/-- A step that completes a token with the character. -/
def after (state : State) (kind : Kind) (content : String) : Step where
  next := state
  emit := some ⟨kind, content⟩

/-- Between tokens. -/
def fromStart : Option Char → Step
  | none => before .start .endOfFile ""
  | some c =>
    if isSeparator c then { next := .start }
    else if Text.isLetter c then { next := .identifier, append := some c }
    else if Text.isDigit c then { next := .integer, append := some c }
    else if c = '"' then { next := .string }
    -- no character opens an operator and is a symbol of its own
    else match opener? c, single? c with
      | some state, _ => { next := state, append := some c }
      | none, some symbol => after .start (.symbol symbol) ""
      | none, none => after .start .error (String.singleton c)

/-- After the first character of an operator that may have a second one. -/
def fromOperator (state : State) (second : Char) (long short : Symbol) (look : Option Char) :
    Step :=
  if look = some second then after state (.symbol long) "" else before state (.symbol short) ""

/-- A literal cut off by the end of the input is an error token with its text so far. -/
def unclosedString (state : State) (lexeme : String) : Step :=
  before state .error ("\"" ++ lexeme)

/-- A block comment cut off by the end of the input is an error token with its opening. -/
def unclosedComment (state : State) : Step := before state .error "/*"

/-- One step of the automaton. -/
def step (state : State) (look : Option Char) (lexeme : String) : Except MalformedEscape Step :=
  match state, look with
  | .start, look => .ok (fromStart look)
  | .identifier, look =>
    .ok <| match look.filter isWordChar with
      | some c => { next := .identifier, append := some c }
      | none => { next := .identifier, emit := some (Token.ofWord lexeme), consume := false }
  | .integer, look =>
    .ok <| match look.filter Text.isDigit with
      | some c => { next := .integer, append := some c }
      | none => before .integer .integer lexeme
  | .minus, look =>
    .ok <| match look.filter Text.isDigit with
      | some c => { next := .integer, append := some c }
      | none => before .minus (.symbol .minus) ""
  | .string, none => .ok (unclosedString .string lexeme)
  | .string, some c =>
    .ok <|
      if c = '"' then after .string .string lexeme
      else if c = '\\' then { next := .stringEscape }
      else { next := .string, append := some c }
  | .stringEscape, none => .ok (unclosedString .stringEscape lexeme)
  | .stringEscape, some c =>
    match unescape? c with
    | some meant => .ok { next := .string, append := some meant }
    | none => .error ⟨c⟩
  | .plus, look => .ok (fromOperator .plus '+' .choice .plus look)
  | .equals, look => .ok (fromOperator .equals '=' .equal .assign look)
  | .leftAngle, look => .ok (fromOperator .leftAngle '=' .atMost .leftAngle look)
  | .rightAngle, look => .ok (fromOperator .rightAngle '=' .atLeast .rightAngle look)
  | .bang, look => .ok (fromOperator .bang '=' .notEqual .not look)
  | .slash, look =>
    .ok <|
      if look = some '*' then { next := .blockComment }
      else if look = some '/' then { next := .lineComment }
      else before .slash (.symbol .divide) ""
  | .blockComment, none => .ok (unclosedComment .blockComment)
  | .blockComment, some c =>
    .ok { next := if c = '*' then .blockCommentStar else .blockComment }
  | .blockCommentStar, none => .ok (unclosedComment .blockCommentStar)
  | .blockCommentStar, some c =>
    .ok { next := if c = '/' then .start else if c = '*' then .blockCommentStar
                  else .blockComment }
  | .lineComment, look =>
    .ok <|
      if look = none ∨ look = some '\n' then { next := .start, consume := false }
      else { next := .lineComment }

end ServiceSyntax.Scan

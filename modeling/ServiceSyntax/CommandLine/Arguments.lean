import ServiceSyntax.Text.Digit
import ServiceSyntax.Text.Search

/-!
# Command-line arguments

Words of a command line are operands or options. A long option may be shortened as long as it
stays the only one that begins so, a value may be attached to an option with an equals sign, and
letters may be attached to a short one directly. Behind the first word `--` everything is an
operand. A word that looks like a negative number or
that holds a space is an operand too, unless it begins like an option.
-/

namespace ServiceSyntax.CommandLine

/-- The words are not what the command line takes. -/
inductive UsageError where
  | ambiguous (word : String)
  | missingValue (option : String)
  | unexpectedValue (option : String)
  | unexpectedWord (word : String)
  | missingOperand (name : String)
  | unknownCommand (word : String)
deriving Repr, DecidableEq

/-- The spellings of the options of a command. -/
abbrev Options (α : Type) := List (String × α)

/-- Text that stands in the same word as its option. -/
inductive Attachment where
  | afterEquals (value : String)
  | direct (text : String)
deriving Repr, DecidableEq

/-- The text, however it is attached. -/
def Attachment.value : Attachment → String
  | .afterEquals value => value
  | .direct text => text

/-- What a word of the command line is. -/
inductive Argument (α : Type) where
  | operand (text : String)
  | separator
  | option (name : String) (meaning : α) (attached : Option Attachment)
  | unknown (word : String)
deriving Repr

namespace Argument

variable {α : Type}

/-- A line feed at the very end does not count. -/
private def looksNegative (word : List Char) : Bool :=
  match if word.getLast? = some '\n' then word.dropLast else word with
  | '-' :: body =>
    let whole := body.takeWhile Text.isDigit
    match body.drop whole.length with
    | [] => !whole.isEmpty
    | '.' :: fraction => !fraction.isEmpty && fraction.all Text.isDigit
    | _ => false
  | _ => false

/-- The part of a word before its first equals sign, and the part behind it if it has one. -/
private def splitValue (word : String) : String × Option Attachment :=
  let name := word.toList.takeWhile (· != '=')
  (String.ofList name,
    match word.toList.drop name.length with
    | _ :: value => some (.afterEquals (String.ofList value))
    | [] => none)

/-- The options that a word may abbreviate, or that it has its value attached to directly. -/
private def candidates (options : Options α) (word : String) : List (Argument α) :=
  if "--".toList.isPrefixOf word.toList then
    let (start, value) := splitValue word
    options.filterMap fun (name, meaning) =>
      if start.toList.isPrefixOf name.toList then some (.option name meaning value) else none
  else
    options.filterMap fun (name, meaning) =>
      if name.toList = word.toList.take 2 then
        some (.option name meaning (some (.direct (String.ofList (word.toList.drop 2)))))
      else if word.toList.isPrefixOf name.toList then some (.option name meaning none)
      else none

/-- Reads a word that stands before any separator. -/
def ofWord (options : Options α) (word : String) : Except UsageError (Argument α) :=
  if word.toList.head? != some '-' then .ok (.operand word)
  else match options.lookup word with
    | some meaning => .ok (.option word meaning none)
    | none =>
      let (name, value) := splitValue word
      match word.length, value, options.lookup name with
      | 1, _, _ => .ok (.operand word)
      | _, some value, some meaning => .ok (.option name meaning (some value))
      | _, _, _ =>
        match candidates options word with
        | [candidate] => .ok candidate
        | _ :: _ => .error (.ambiguous word)
        | [] =>
          if looksNegative word.toList ∨ word.toList.contains ' ' then .ok (.operand word)
          else .ok (.unknown word)

/-- Reads the words of a command line. -/
def ofWords (options : Options α) : List String → Except UsageError (List (Argument α))
  | [] => .ok []
  | word :: words =>
    if word = "--" then .ok (.separator :: words.map .operand)
    else do return (← ofWord options word) :: (← ofWords options words)

/-- Letters behind a short flag are short flags up to the first one that is not; neither a dash nor
an equals sign stands behind one of them. -/
def areFlags (options : Options α) : List Char → Bool
  | [] => true
  | letter :: letters =>
    letter != '-' &&
      ((options.lookup (String.ofList ['-', letter])).isNone ||
        (letters.head? != some '=' && areFlags options letters))

/-- A flag takes no value, but further letters may be attached to a short one. -/
def checkFlag (options : Options α) (name : String) : Option Attachment → Except UsageError Unit
  | none => .ok ()
  | some (.direct text) =>
    if areFlags options text.toList then .ok () else .error (.unexpectedValue name)
  | some (.afterEquals _) => .error (.unexpectedValue name)

end Argument

end ServiceSyntax.CommandLine

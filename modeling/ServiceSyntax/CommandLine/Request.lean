import ServiceSyntax.CommandLine.Arguments

/-!
# Requests

What a command line asks for. The first operand names a command, which takes all words behind it.
A request for help or for the version is granted as soon as it is read; a word that does not fit
is refused only once all words have been read.
-/

namespace ServiceSyntax.CommandLine

/-- Work to be done. -/
inductive Command where
  | tokens (file : String) (json layout : Bool)
  | keywords (scope config : Option String) (json : Bool)
deriving Repr, DecidableEq

inductive Request where
  | help
  | version
  | run (command : Command)
deriving Repr, DecidableEq

/-! ## Commands and their options -/

/-- The options of the program itself. -/
inductive MainOption where
  | help | version

/-- The options of the commands. -/
inductive CommandOption where
  | help | json | layout | config

inductive CommandName where
  | tokens | keywords

def mainOptions : Options MainOption :=
  [("-h", .help), ("--help", .help), ("-v", .version), ("--version", .version)]

def CommandName.ofWord? : String → Option CommandName
  | "tokens" => some .tokens
  | "keywords" => some .keywords
  | _ => none

def CommandName.options : CommandName → Options CommandOption
  | .tokens => [("-h", .help), ("--help", .help), ("--json", .json), ("--newlines", .layout)]
  | .keywords => [("-h", .help), ("--help", .help), ("--config", .config), ("--json", .json)]

/-- What the words behind a command have said so far. -/
structure Settings where
  operand : Option String := none
  json : Bool := false
  layout : Bool := false
  config : Option String := none
  /-- The first word that does not fit. -/
  stray : Option String := none

namespace Settings

/-- Notes a word that does not fit. -/
def refuse (s : Settings) (word : String) : Settings := { s with stray := s.stray.or (some word) }

/-- The request of a command with some settings. -/
def request (s : Settings) (name : CommandName) : Except UsageError Request :=
  match s.stray, name, s.operand with
  | some word, _, _ => .error (.unexpectedWord word)
  | none, .tokens, some file => .ok (.run (.tokens file s.json s.layout))
  | none, .tokens, none => .error (.missingOperand "file")
  | none, .keywords, scope => .ok (.run (.keywords scope s.config s.json))

/-- Takes up an operand, of which a command has one. -/
def take (s : Settings) (text : String) : Settings :=
  match s.operand with
  | none => { s with operand := some text }
  | some _ => s.refuse text

/-- Reads the words behind a command. A separator may stand directly in front of the operand or
directly behind it. -/
def read (s : Settings) (name : CommandName) :
    List (Argument CommandOption) → Except UsageError Request
  | [] => s.request name
  | .unknown word :: rest => (s.refuse word).read name rest
  -- the operand takes a separator directly behind it along
  | .operand text :: .separator :: rest =>
    let t := s.take text
    (if s.operand.isNone then t else t.refuse "--").read name rest
  | .operand text :: rest => (s.take text).read name rest
  | .separator :: rest => (if s.operand.isNone then s else s.refuse "--").read name rest
  | .option _ .config (some attached) :: rest =>
    { s with config := some attached.value }.read name rest
  | .option _ .config none :: .operand value :: rest =>
    { s with config := some value }.read name rest
  | .option option .config none :: _ => .error (.missingValue option)
  | .option option .help attached :: _ => do
    Argument.checkFlag name.options option attached
    return .help
  | .option option .json attached :: rest => do
    Argument.checkFlag name.options option attached
    { s with json := true }.read name rest
  | .option option .layout attached :: rest => do
    Argument.checkFlag name.options option attached
    { s with layout := true }.read name rest

end Settings

/-- Reads the words in front of a command; `words` are those that belong to the arguments. -/
def readMain (stray : Option String) :
    List (Argument MainOption) → (words : List String) → Except UsageError Request
  | .option option meaning attached :: _, _ => do
    Argument.checkFlag mainOptions option attached
    match meaning with
    | .help => return .help
    | .version => return .version
  | .unknown word :: rest, words => readMain (stray.or (some word)) rest words.tail
  | .operand word :: _, words =>
    match CommandName.ofWord? word with
    | none => .error (.unknownCommand word)
    | some name => do
      let arguments ← Argument.ofWords name.options words.tail
      Settings.read { stray } name arguments
  | .separator :: _, _ => .error (.unknownCommand "--")
  | [], _ => .error (.missingOperand "command")

/-- What the words of a command line ask for. -/
def Request.ofWords (words : List String) : Except UsageError Request := do
  readMain none (← Argument.ofWords mainOptions words) words

end ServiceSyntax.CommandLine

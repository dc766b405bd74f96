import ServiceSyntax.CommandLine.Request
import ServiceSyntax.Report.Tokens
import ServiceSyntax.Report.Vocabulary
import ServiceSyntax.Vocabulary.Session

/-!
# Running commands

What a command prints and the status it ends with, given the host it runs on. Status 2 stands for
diagnostics and for errors that a message explains. A file that cannot be read is beyond that, and
so are some faults of a keyword file (`LoadError.isConfig`): they stop the program.
-/

namespace ServiceSyntax.CommandLine

/-- What the program prints, and the status it ends with. -/
structure Output where
  status : UInt32
  out : String := ""
  err : String := ""
deriving Repr, DecidableEq

/-- What stops the program before it ends by itself. -/
inductive Crash where
  /-- The source file cannot be looked up or read. -/
  | source (path reason : String)
  | vocabulary (error : LoadError)
deriving Repr, DecidableEq

/-- What the environment says. -/
structure Environment where
  /-- Name of a keyword file, none if it is empty. -/
  overlay : Option String := none
  /-- The steps of the program are to be logged. -/
  verbose : Bool := false

def toolName : String := "olparse"

def toolVersion : String := "0.1.0"

def versionText : String := toolName ++ " " ++ toolVersion ++ "\n"

def helpText : String :=
  "usage: " ++ toolName ++ " [-h] [-v] tokens [--json] [--newlines] FILE\n"
    ++ "       " ++ toolName ++ " [-h] [-v] keywords [--config PATH] [--json] [SCOPE]\n"

def UsageError.message : UsageError → String
  | ambiguous word => "ambiguous option: " ++ word
  | missingValue option => "expected a value: " ++ option
  | unexpectedValue option => "expected no value: " ++ option
  | unexpectedWord word => "unexpected argument: " ++ word
  | missingOperand name => "missing argument: " ++ name
  | unknownCommand word => "unknown command: " ++ word

/-! ## Messages -/

/-- A text on lines of its own, without blanks at its end. -/
def closedText (text : String) : String := Text.trimEnd text ++ "\n"

/-- The lines of a log, if the program is verbose. -/
def logText (env : Environment) (log : List String) : String :=
  if env.verbose then String.join (log.map fun entry => "[DEBUG] " ++ entry ++ "\n") else ""

/-- What is logged when a source is read. -/
def logEvent (source : String) : Scanner.Event → Option String
  | .token _ => none
  | .problem e =>
    some ("Scan error at " ++ source ++ ":" ++ toString e.context.startLine ++ ":"
      ++ toString e.context.column ++ ": " ++ e.fault.description)
  | .skipped count =>
    some ("Skipped " ++ toString count ++ " characters after error in " ++ source)

def loadedLog : String :=
  "Loaded packaged keywords (" ++ toString Registry.packaged.entries.length ++ " scopes)"

def mergedLog (path : FilePath) (overlay : Registry) : String :=
  "Merged keyword overlay " ++ path.text ++ " (" ++ toString overlay.entries.length ++ " scopes)"

/-! ## Commands -/

/-- Lists the tokens of a file with some content. -/
def listTokens (env : Environment) (path : FilePath) (bytes : List UInt8) (json layout : Bool) :
    Output :=
  let events := (Scanner.ofBytes bytes path.text layout).events
  let report := TokenReport.ofEvents path.text events
  { status := if report.problems.isEmpty then 0 else 2
    out := if json then report.json.render else report.text
    err := logText env (events.filterMap (logEvent path.text))
      ++ String.join (report.problems.map fun m => closedText m.render) }

/-- Lists the tokens of a file. -/
def runTokens (env : Environment) (host : Host) (file : String) (json layout : Bool) :
    Except Crash Output :=
  let path := FilePath.ofText file
  match host.file path with
  | .missing => .ok { status := 2, err := closedText ("Source file not found: " ++ path.text) }
  | .unreadable reason => .error (.source path.text reason)
  | .readable bytes => .ok (listTokens env path bytes json layout)

/-- Lists the vocabulary of a scope, or of all scopes. -/
def listVocabulary (r : Registry) (scope : Option String) (json : Bool) : Except String String :=
  let listed : Except String Registry := match scope with
    | none => .ok r
    | some name =>
      if r.scopes.contains name then .ok ⟨[(name, r.terms name)]⟩
      else .error ("Unknown scope '" ++ name ++ "'. Known scopes: " ++ ", ".intercalate r.scopes)
  listed.map fun r => if json then r.json.render else r.text

/-- The keyword file to load: the one that is asked for or that the environment names. -/
def configPath (env : Environment) (config : Option String) : Option FilePath :=
  ((config.filter fun name => !name.isEmpty).map FilePath.ofText).or
    { overlay := env.overlay : Session }.overlayPath

/-- Loads the vocabulary, with a log of what was done. -/
def loadLogged (host : Host) : Option FilePath → List String × Except LoadError Registry
  | none => ([loadedLog], .ok .packaged)
  | some path =>
    match Registry.overlay host path with
    | .ok overlay => ([loadedLog, mergedLog path overlay], .ok (Registry.packaged.merge overlay))
    | .error e => ([loadedLog], .error e)

/-- Lists vocabulary. -/
def runKeywords (env : Environment) (host : Host) (scope config : Option String) (json : Bool) :
    Except Crash Output :=
  let (log, loaded) := loadLogged host (configPath env config)
  let fail := fun message => .ok { status := 2, err := logText env log ++ closedText message }
  match loaded with
  | .error e => if e.isConfig then fail e.message else .error (.vocabulary e)
  | .ok r =>
    match listVocabulary r scope json with
    | .ok listing => .ok { status := 0, out := listing, err := logText env log }
    | .error message => fail message

/-- Carries out a command. -/
def Command.run (env : Environment) (host : Host) : Command → Except Crash Output
  | .tokens file json layout => runTokens env host file json layout
  | .keywords scope config json => runKeywords env host scope config json

/-- The files that a command reads. -/
def Command.paths (env : Environment) : Command → List FilePath
  | .tokens file _ _ => [.ofText file]
  | .keywords _ config _ => (configPath env config).toList

/-- Grants a request. -/
def Request.grant (env : Environment) (host : Host) : Request → Except Crash Output
  | .help => .ok { status := 0, out := helpText }
  | .version => .ok { status := 0, out := versionText }
  | .run command => command.run env host

end ServiceSyntax.CommandLine

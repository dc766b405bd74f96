/-!
# Kinds of tokens

Every kind has a name for reports and a written form: symbols and keywords are written as their
lexeme, all other kinds as a bracketed label because their text varies from token to token.
-/

namespace ServiceSyntax

/-- Punctuation and operators. -/
inductive Symbol where
  | comma | leftParen | rightParen | leftSquare | rightSquare | leftCurly | rightCurly | sequence
  | parallel | colon | at | choice | plus | minus | asterisk | divide | assign | equal
  | leftAngle | rightAngle | atMost | atLeast | not | notEqual
deriving Repr, DecidableEq

/-- Words that are not read as plain identifiers. -/
inductive Keyword where
  | ifWord | elseWord | inWord | out | and | or | linkIn | linkOut | oneWay | requestResponse
  | notification | solicitResponse | locations | operations | variables | main | define
  | links | nullProcess | whileWord | sleep | intType | stringType | variantType | cset
  | persistent | notPersistent | concurrent | sequential | state | execution | throw
  | installFaultHandler | installCompensation | scope | compensate | includeWord | fromWord
  | importWord | asWord | service | inputPort | outputPort | interface | type | embedded
  | courier | constants | init
deriving Repr, DecidableEq

/-- The lexical categories of the language. -/
inductive Kind where
  | endOfFile | identifier | integer | string | newline | error
  | symbol (s : Symbol)
  | keyword (k : Keyword)
deriving Repr, DecidableEq

/-! ## Written forms -/

/-- The characters of a symbol in a source text. -/
def Symbol.lexeme : Symbol → String
  | .comma => ","
  | .leftParen => "("
  | .rightParen => ")"
  | .leftSquare => "["
  | .rightSquare => "]"
  | .leftCurly => "\x7b"
  | .rightCurly => "\x7d"
  | .sequence => ";"
  | .parallel => "|"
  | .colon => ":"
  | .at => "@"
  | .choice => "++"
  | .plus => "+"
  | .minus => "-"
  | .asterisk => "*"
  | .divide => "/"
  | .assign => "="
  | .equal => "=="
  | .leftAngle => "<"
  | .rightAngle => ">"
  | .atMost => "<="
  | .atLeast => ">="
  | .not => "!"
  | .notEqual => "!="

/-- The characters of a keyword in a source text. -/
def Keyword.lexeme : Keyword → String
  | .ifWord => "if"
  | .elseWord => "else"
  | .inWord => "in"
  | .out => "out"
  | .and => "and"
  | .or => "or"
  | .linkIn => "linkIn"
  | .linkOut => "linkOut"
  | .oneWay => "OneWay"
  | .requestResponse => "RequestResponse"
  | .notification => "Notification"
  | .solicitResponse => "SolicitResponse"
  | .locations => "locations"
  | .operations => "operations"
  | .variables => "variables"
  | .main => "main"
  | .define => "define"
  | .links => "links"
  | .nullProcess => "nullProcess"
  | .whileWord => "while"
  | .sleep => "sleep"
  | .intType => "int"
  | .stringType => "string"
  | .variantType => "variant"
  | .cset => "cset"
  | .persistent => "persistent"
  | .notPersistent => "not_persistent"
  | .concurrent => "concurrent"
  | .sequential => "sequential"
  | .state => "state"
  | .execution => "execution"
  | .throw => "throw"
  | .installFaultHandler => "installFH"
  | .installCompensation => "installComp"
  | .scope => "scope"
  | .compensate => "comp"
  | .includeWord => "include"
  | .fromWord => "from"
  | .importWord => "import"
  | .asWord => "as"
  | .service => "service"
  | .inputPort => "inputPort"
  | .outputPort => "outputPort"
  | .interface => "interface"
  | .type => "type"
  | .embedded => "embedded"
  | .courier => "courier"
  | .constants => "constants"
  | .init => "init"

/-- The lexeme of a fixed kind, a label in angle brackets for a kind with varying text. -/
def Kind.written : Kind → String
  | .endOfFile => "<eof>"
  | .identifier => "<identifier>"
  | .integer => "<integer>"
  | .string => "<string>"
  | .newline => "<newline>"
  | .error => "<error>"
  | .symbol s => s.lexeme
  | .keyword k => k.lexeme

/-! ## Report names -/

def Symbol.name : Symbol → String
  | .comma => "COMMA"
  | .leftParen => "LPAREN"
  | .rightParen => "RPAREN"
  | .leftSquare => "LSQUARE"
  | .rightSquare => "RSQUARE"
  | .leftCurly => "LCURLY"
  | .rightCurly => "RCURLY"
  | .sequence => "SEQUENCE"
  | .parallel => "PARALLEL"
  | .colon => "COLON"
  | .at => "AT"
  | .choice => "CHOICE"
  | .plus => "PLUS"
  | .minus => "MINUS"
  | .asterisk => "ASTERISK"
  | .divide => "DIVIDE"
  | .assign => "ASSIGN"
  | .equal => "EQUAL"
  | .leftAngle => "LANGLE"
  | .rightAngle => "RANGLE"
  | .atMost => "MINOR_OR_EQUAL"
  | .atLeast => "MAJOR_OR_EQUAL"
  | .not => "NOT"
  | .notEqual => "NOT_EQUAL"

def Keyword.name : Keyword → String
  | .ifWord => "IF"
  | .elseWord => "ELSE"
  | .inWord => "IN"
  | .out => "OUT"
  | .and => "AND"
  | .or => "OR"
  | .linkIn => "LINKIN"
  | .linkOut => "LINKOUT"
  | .oneWay => "OP_OW"
  | .requestResponse => "OP_RR"
  | .notification => "OP_N"
  | .solicitResponse => "OP_SR"
  | .locations => "LOCATIONS"
  | .operations => "OPERATIONS"
  | .variables => "VARIABLES"
  | .main => "MAIN"
  | .define => "DEFINE"
  | .links => "LINKS"
  | .nullProcess => "NULL_PROCESS"
  | .whileWord => "WHILE"
  | .sleep => "SLEEP"
  | .intType => "VAR_TYPE_INT"
  | .stringType => "VAR_TYPE_STRING"
  | .variantType => "VAR_TYPE_VARIANT"
  | .cset => "CSET"
  | .persistent => "PERSISTENT"
  | .notPersistent => "NOT_PERSISTENT"
  | .concurrent => "CONCURRENT"
  | .sequential => "SEQUENTIAL"
  | .state => "STATE"
  | .execution => "EXECUTION"
  | .throw => "THROW"
  | .installFaultHandler => "INSTALL_FAULT_HANDLER"
  | .installCompensation => "INSTALL_COMPENSATION"
  | .scope => "SCOPE"
  | .compensate => "COMPENSATE"
  | .includeWord => "INCLUDE"
  | .fromWord => "FROM"
  | .importWord => "IMPORT"
  | .asWord => "AS"
  | .service => "SERVICE"
  | .inputPort => "INPUT_PORT"
  | .outputPort => "OUTPUT_PORT"
  | .interface => "INTERFACE"
  | .type => "TYPE"
  | .embedded => "EMBEDDED"
  | .courier => "COURIER"
  | .constants => "CONSTANTS"
  | .init => "INIT"

/-- The name of a kind in reports. -/
def Kind.name : Kind → String
  | .endOfFile => "EOF"
  | .identifier => "ID"
  | .integer => "INT"
  | .string => "STRING"
  | .newline => "NEWLINE"
  | .error => "ERROR"
  | .symbol s => s.name
  | .keyword k => k.name

/-! ## Enumerations -/

def Symbol.all : List Symbol :=
  [.comma, .leftParen, .rightParen, .leftSquare, .rightSquare, .leftCurly, .rightCurly,
   .sequence, .parallel, .colon, .at, .choice, .plus, .minus, .asterisk, .divide, .assign,
   .equal, .leftAngle, .rightAngle, .atMost, .atLeast, .not, .notEqual]

def Keyword.all : List Keyword :=
  [.ifWord, .elseWord, .inWord, .out, .and, .or, .linkIn, .linkOut, .oneWay, .requestResponse,
   .notification, .solicitResponse, .locations, .operations, .variables, .main, .define,
   .links, .nullProcess, .whileWord, .sleep, .intType, .stringType, .variantType, .cset,
   .persistent, .notPersistent, .concurrent, .sequential, .state, .execution, .throw,
   .installFaultHandler, .installCompensation, .scope, .compensate, .includeWord, .fromWord,
   .importWord, .asWord, .service, .inputPort, .outputPort, .interface, .type, .embedded,
   .courier, .constants, .init]

def Kind.all : List Kind :=
  [.endOfFile, .identifier, .integer, .string, .newline, .error]
    ++ Symbol.all.map .symbol ++ Keyword.all.map .keyword

theorem Symbol.mem_all (s : Symbol) : s ∈ Symbol.all := by cases s <;> decide

theorem Keyword.mem_all (k : Keyword) : k ∈ Keyword.all := by cases k <;> decide

theorem Kind.mem_all (kind : Kind) : kind ∈ Kind.all := by
  cases kind with
  | symbol s => simp [Kind.all, Symbol.mem_all]
  | keyword k => simp [Kind.all, Keyword.mem_all]
  | _ => simp [Kind.all]

/-- The keyword with the given lexeme. -/
def Keyword.ofLexeme? (word : String) : Option Keyword :=
  Keyword.all.find? fun k => k.lexeme == word

/-- The kind with the given report name. -/
def Kind.ofName? (name : String) : Option Kind :=
  Kind.all.find? fun kind => kind.name == name

/-! ## Classes -/

/-- Keywords that may stand where an identifier is expected. -/
def Keyword.isFree : Keyword → Bool
  | .oneWay | .requestResponse | .notification | .solicitResponse | .locations | .operations
  | .variables | .links | .intType | .stringType | .variantType | .state | .asWord | .service
  | .inputPort | .outputPort | .interface | .type | .embedded | .courier | .constants | .init
    => true
  | _ => false

def Kind.isKeyword : Kind → Bool
  | .keyword _ => true
  | _ => false

/-- Kinds whose text is kept in the token. -/
def Kind.isVariable : Kind → Bool
  | .symbol _ | .keyword _ => false
  | _ => true

/-- Keywords that never stand in for an identifier. -/
def Kind.isReserved : Kind → Bool
  | .keyword k => !k.isFree
  | _ => false

/-- Identifiers, and keywords that may stand in for one. -/
def Kind.isIdentifierLike : Kind → Bool
  | .identifier => true
  | .keyword k => k.isFree
  | _ => false

end ServiceSyntax

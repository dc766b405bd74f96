import ServiceSyntax.Parse.Parser

/-!
# Calls

The operations with which a production reads, consumes and checks tokens, and those with which it
asks for the line break in front of the current token or for its place, or complains about it. None
of them opens or closes a backup on its own account.
-/

namespace ServiceSyntax

/-- What a call gives back. -/
inductive Answer where
  | token (token : Token)
  | flag (flag : Bool)
  | context (context : Context)
deriving Repr, DecidableEq

inductive Call where
  | nextToken
  | nextTokenNotEndOfFile
  | assertToken (kind : Kind) (message : String)
  | assertTokenIn (kind : Kind) (message : String) (name : Option String) (scope : String)
  | assertIdentifier (message : String)
  | eat (kind : Kind) (message : String)
  | eatIn (kind : Kind) (message : String) (name : Option String) (scope : String)
  | eatIdentifier (message : String)
  | eatWord (word message : String)
  | maybeEat (kinds : List Kind)
  | metNewline
  | context
  | mismatch (message : String) (expected : List String)
  | mismatchIn (message : String) (name : Option String) (scope : String)
deriving Repr, DecidableEq

/-- The action that a call is. -/
def Call.run : Call → Parse Answer
  | nextToken => do return .token (← Parse.nextToken)
  | nextTokenNotEndOfFile => do return .token (← Parse.nextTokenNotEndOfFile)
  | assertToken kind message => do return .token (← Parse.assertToken kind message)
  | assertTokenIn kind message name scope => do
    return .token (← Parse.assertTokenIn kind message name scope)
  | assertIdentifier message => do return .token (← Parse.assertIdentifier message)
  | eat kind message => do return .token (← Parse.eat kind message)
  | eatIn kind message name scope => do return .token (← Parse.eatIn kind message name scope)
  | eatIdentifier message => do return .token (← Parse.eatIdentifier message)
  | eatWord word message => do return .token (← Parse.eatWord word message)
  | maybeEat kinds => do return .flag (← Parse.maybeEat kinds)
  | metNewline => do return .flag (← get).cursor.metNewline
  | context => do return .context (← get).context
  | mismatch message expected => Parse.mismatch message expected
  | mismatchIn message name scope => Parse.mismatchIn message name scope

end ServiceSyntax

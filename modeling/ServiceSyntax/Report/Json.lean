import ServiceSyntax.Text.Quoted

/-!
# JSON reports

The values that reports are made of, and their text on one line: a space stands behind every
comma and colon between values, fields keep their order, and of the characters above U+001F only
the quote and the backslash are escaped.
-/

namespace ServiceSyntax

inductive Json where
  | null
  | int (n : Int)
  | string (s : String)
  | array (items : List Json)
  | object (fields : List (String × Json))
deriving Repr, Inhabited

namespace Json

def escaped (c : Char) : List Char :=
  if c = '"' then ['\\', '"']
  else if c = '\\' then ['\\', '\\']
  else if c = '\n' then ['\\', 'n']
  else if c = '\r' then ['\\', 'r']
  else if c = '\t' then ['\\', 't']
  else if c = '\x0c' then ['\\', 'f']
  else if c = '\x08' then ['\\', 'b']
  else if c.toNat < 0x20 then '\\' :: 'u' :: Text.hexDigits 4 c.toNat
  else [c]

/-- A text between quotes. -/
def literal (s : String) : String :=
  String.ofList ('"' :: s.toList.flatMap escaped ++ ['"'])

mutual

/-- The text of a value. -/
def render : Json → String
  | .null => "null"
  | .int n => toString n
  | .string s => literal s
  | .array items => "[" ++ ", ".intercalate (renderItems items) ++ "]"
  | .object fields => "\x7b" ++ ", ".intercalate (renderFields fields) ++ "\x7d"

def renderItems : List Json → List String
  | [] => []
  | item :: items => render item :: renderItems items

def renderFields : List (String × Json) → List String
  | [] => []
  | (name, value) :: fields => (literal name ++ ": " ++ render value) :: renderFields fields

end

def ofTexts (texts : List String) : Json := .array (texts.map .string)

end Json

end ServiceSyntax

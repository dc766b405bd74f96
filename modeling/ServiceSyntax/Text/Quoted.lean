import ServiceSyntax.Text.Printable

/-!
Texts shown between quotes on one line. The quote is `'` unless the text holds a `'` and no `"`.
A backslash and the quote in use are escaped, line feed, carriage return and tab have letters,
and any other character without a shape is written by its code in the shortest of three forms.
-/

namespace ServiceSyntax.Text

def hexDigit (n : Nat) : Char :=
  if n < 10 then Char.ofNat ('0'.toNat + n) else Char.ofNat ('a'.toNat + (n - 10))

/-- The last `width` hexadecimal digits of a number, in lower case. -/
def hexDigits : (width : Nat) → Nat → List Char
  | 0, _ => []
  | width + 1, n => hexDigits width (n / 16) ++ [hexDigit (n % 16)]

/-- The code of a character after `\x`, `\u` or `\U`, whichever is the shortest that holds it. -/
def codeEscape (c : Char) : List Char :=
  if c.toNat < 0x100 then '\\' :: 'x' :: hexDigits 2 c.toNat
  else if c.toNat < 0x10000 then '\\' :: 'u' :: hexDigits 4 c.toNat
  else '\\' :: 'U' :: hexDigits 8 c.toNat

def quotedChar (quote c : Char) : List Char :=
  if c = quote ∨ c = '\\' then ['\\', c]
  else if c = '\n' then ['\\', 'n']
  else if c = '\r' then ['\\', 'r']
  else if c = '\t' then ['\\', 't']
  else if isPrintable c then [c]
  else codeEscape c

/-- The quote that needs the fewer escapes, the single one when either would do. -/
def quoteFor (cs : List Char) : Char :=
  if cs.contains '\'' && !cs.contains '"' then '"' else '\''

def quotedChars (cs : List Char) : List Char :=
  let quote := quoteFor cs
  quote :: cs.flatMap (quotedChar quote) ++ [quote]

/-- The text between quotes, with all that would not show escaped. -/
def quoted (text : String) : String := String.ofList (quotedChars text.toList)

/-- Bytes between quotes: those that are characters of ASCII with a shape as such, the others by
their codes. -/
def quotedBytes (bytes : List UInt8) : String :=
  let cs := bytes.map fun b => Char.ofNat b.toNat
  let quote := quoteFor cs
  let written := fun (c : Char) => if c.toNat < 0x7F then quotedChar quote c else codeEscape c
  String.ofList (quote :: cs.flatMap written ++ [quote])

end ServiceSyntax.Text

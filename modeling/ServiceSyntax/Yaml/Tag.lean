import ServiceSyntax.Yaml.Timestamp
import ServiceSyntax.Yaml.Token

/-!
# YAML tags

What a node is said to be. A scalar without quotes and without a tag is a truth value, a number, a
time, nothing at all or a text, whatever its form fits first.
-/

namespace ServiceSyntax.Yaml

inductive Tag where
  | null | bool | int | float | binary | timestamp | text
  | sequence
  /-- A sequence of single entries whose keys all differ. -/
  | orderedMapping
  /-- A sequence of single entries. -/
  | pairs
  | mapping | set
  /-- Stands for the entries of another mapping. -/
  | merge
  /-- Stands for the value of a mapping that is used as a scalar. -/
  | default
  /-- A tag without a meaning. -/
  | unknown
deriving Repr, DecidableEq

namespace Tag

/-- The tags that have a meaning, by the last part of their names. -/
def named : List (String × Tag) :=
  [("null", .null), ("bool", .bool), ("int", .int), ("float", .float), ("binary", .binary),
   ("timestamp", .timestamp), ("str", .text), ("seq", .sequence), ("omap", .orderedMapping),
   ("pairs", .pairs), ("map", .mapping), ("set", .set), ("merge", .merge), ("value", .default)]

/-- The first part of the names of tags. -/
def standard : String := "tag:yaml.org,2002:"

/-- The tag of a full name. -/
def ofUri (uri : String) : Tag :=
  ((named.find? fun entry => standard ++ entry.1 == uri).map Prod.snd).getD .unknown

/-! ## Forms of numbers -/

private def unsigned : List Char → List Char
  | '+' :: rest | '-' :: rest => rest
  | digits => digits

private def orUnderscore (p : Char → Bool) (c : Char) : Bool := p c || c = '_'

private def isBinary (c : Char) : Bool := c = '0' || c = '1'

private def isOctal (c : Char) : Bool := '0' ≤ c && c ≤ '7'

private def isHex (c : Char) : Bool := c.isDigit || ('a' ≤ c && c ≤ 'f') || ('A' ≤ c && c ≤ 'F')

private def allOf (p : Char → Bool) (cs : List Char) : Bool := !cs.isEmpty && cs.all p

private def isPart : Char → Bool := orUnderscore Char.isDigit

/-- What stands behind sixties, each of which stands behind a colon. -/
private def dropSixties : List Char → List Char
  | ':' :: a :: b :: rest =>
    if '0' ≤ a ∧ a ≤ '5' ∧ b.isDigit then dropSixties rest
    else if a.isDigit then dropSixties (b :: rest)
    else ':' :: a :: b :: rest
  | [':', a] => if a.isDigit then [] else [':', a]
  | rest => rest

private def isOrdinaryInt (version : Version) (cs : List Char) : Bool :=
  if version.isFirst then
    match cs with
    | [] => false
    | c :: rest =>
      cs = ['0'] || ('1' ≤ c && c ≤ '9' && (dropSixties (rest.dropWhile isPart)).isEmpty)
  else allOf isPart cs

private def startsNumber (cs : List Char) : Bool :=
  cs.head?.any fun c => c.isDigit || c = '+' || c = '-'

/-- The form of an integer: binary, octal, decimal or hexadecimal, with underscores anywhere but
in front. -/
def isInt (version : Version) (cs : List Char) : Bool :=
  let body := unsigned cs
  let based := match body with
    | '0' :: 'b' :: rest => allOf (orUnderscore isBinary) rest
    | '0' :: 'x' :: rest => allOf (orUnderscore isHex) rest
    | '0' :: 'o' :: rest => !version.isFirst && allOf (orUnderscore isOctal) rest
    | rest => version.isFirst && allOf (orUnderscore isOctal) rest
  startsNumber cs && (based || isOrdinaryInt version body)

/-- An exponent, or nothing; without a digit in front of the point it has a sign. -/
private def isExponent (signed : Bool) : List Char → Bool
  | [] => true
  | e :: rest =>
    (e = 'e' || e = 'E') &&
      match rest with
      | '+' :: digits | '-' :: digits => allOf Char.isDigit digits
      | digits => !signed && allOf Char.isDigit digits

private def isOneWord (words : List String) (cs : List Char) : Bool :=
  words.contains (String.ofList cs)

/-- Sixties with a fraction. -/
private def isSixties (cs : List Char) : Bool :=
  match dropSixties cs with
  | '.' :: rest => cs.head? = some ':' && rest.all isPart
  | _ => false

/-- The form of a number with a fraction or an exponent, or of an infinity. -/
def isFloat (version : Version) (cs : List Char) : Bool :=
  let body := unsigned cs
  let special := isOneWord [".inf", ".Inf", ".INF"] body
    || isOneWord [".nan", ".NaN", ".NAN"] cs
  let ordinary := match body with
    | '.' :: rest =>
      (!version.isFirst || body = cs) && !(rest.takeWhile isPart).isEmpty
        && isExponent true (rest.dropWhile isPart)
    | c :: rest =>
      c.isDigit &&
        match rest.dropWhile isPart with
        | '.' :: rest => isExponent false (rest.dropWhile isPart)
        | [] => false
        | rest => isExponent false rest || (version.isFirst && isSixties rest)
    | [] => false
  special || ordinary

/-! ## Forms of words -/

def isTrue (version : Version) (text : String) : Bool :=
  ["true", "True", "TRUE"].contains text || (version.isFirst &&
    ["y", "Y", "yes", "Yes", "YES", "on", "On", "ON"].contains text)

def isFalse (version : Version) (text : String) : Bool :=
  ["false", "False", "FALSE"].contains text || (version.isFirst &&
    ["n", "N", "no", "No", "NO", "off", "Off", "OFF"].contains text)

/-- A text without the line feed at its end, of which there may be others in front. -/
def withoutLineFeed (text : String) : List Char :=
  let cs := text.toList
  if cs.getLast? = some '\n' then cs.dropLast else cs

/-- The tag that the form of a text suggests; a line feed at the end does not count. -/
def ofForm (version : Version) (text : String) : Tag :=
  let cs := withoutLineFeed text
  let word := String.ofList cs
  if isTrue version word || isFalse version word then .bool
  else if isFloat version cs then .float
  else if isInt version cs then .int
  else if word = "<<" then .merge
  else if text = "" ∨ ["~", "null", "Null", "NULL"].contains word then .null
  else if Timestamp.hasForm cs then .timestamp
  else if word = "=" then .default
  else if ["!", "&", "*"].contains word then .unknown
  else .text

end Tag

end ServiceSyntax.Yaml

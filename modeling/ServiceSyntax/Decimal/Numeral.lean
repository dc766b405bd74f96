import ServiceSyntax.Decimal.Double
import ServiceSyntax.Text.Blank
import ServiceSyntax.Text.Digit

/-!
# Numerals

Numbers as people write them: blanks around a numeral do not count, a sign may stand in front, and
the digits may be those of any script.
-/

namespace ServiceSyntax.Numeral

/-- A blank or a digit beyond ASCII as the one of ASCII; what is neither is no part of a numeral,
for which the question mark stands. -/
def plainChar (c : Char) : Char :=
  if c.toNat < 0x7F then c
  else if Text.isBlank c then ' '
  else match Text.digitValue? c with
    | some n => Nat.digitChar n
    | none => '?'

private def isSpace (c : Char) : Bool := c = ' ' || (0x09 ≤ c.toNat && c.toNat ≤ 0x0D)

/-- A numeral in characters of ASCII, without the spaces around it. -/
def trimmed (cs : List Char) : List Char :=
  Text.dropTrailing isSpace ((cs.map plainChar).dropWhile isSpace)

/-- The sign of a numeral and what stands behind it. -/
def splitSign : List Char → Bool × List Char
  | '-' :: rest => (true, rest)
  | '+' :: rest => (false, rest)
  | cs => (false, cs)

private def letterValue? (c : Char) : Option Nat :=
  if c.isDigit then some (c.toNat - '0'.toNat)
  else if c.isAlpha then some (c.toLower.toNat - 'a'.toNat + 10)
  else none

/-- The number that digits of some base stand for; letters go on where the digits end. -/
def natural? (base : Nat) (digits : List Char) : Option Nat :=
  if digits.isEmpty then none
  else digits.foldl (fun n c => do
    let value ← letterValue? c
    if value < base then return (← n) * base + value else none) (some 0)

/-- A numeral without the mark of its base, which is a zero and a letter. -/
private def withoutMark (base : Nat) : List Char → List Char
  | '0' :: letter :: digits =>
    let mark := match base with
      | 2 => 'b'
      | 8 => 'o'
      | 16 => 'x'
      | _ => '0'
    if letter.toLower = mark && mark != '0' then digits else '0' :: letter :: digits
  | digits => digits

private def signed (negative : Bool) (n : Nat) : Int := if negative then -(n : Int) else n

/-- The integer that a numeral of some base stands for. -/
def integer? (base : Nat) (cs : List Char) : Option Int :=
  let (negative, body) := splitSign (trimmed cs)
  (natural? base (withoutMark base body)).map (signed negative)

/-- The power of ten that the end of a numeral names, one if there is no end. -/
private def exponent? : List Char → Option Int
  | [] => some 0
  | e :: rest =>
    let (negative, digits) := splitSign rest
    if e.toLower = 'e' then (natural? 10 digits).map (signed negative) else none

/-- The nearest double-precision number to a numeral with an optional fraction and an optional
exponent, or the one that a word stands for. -/
def decimal? (cs : List Char) : Option Double := do
  let (negative, body) := splitSign (trimmed cs)
  let word := String.ofList (body.map Char.toLower)
  if word = "inf" ∨ word = "infinity" then return .infinite negative
  if word = "nan" then return .notANumber
  let whole := body.takeWhile Char.isDigit
  let (fraction, rest) := match body.drop whole.length with
    | '.' :: rest => (rest.takeWhile Char.isDigit, rest.dropWhile Char.isDigit)
    | rest => ([], rest)
  let digits ← natural? 10 (whole ++ fraction)
  return .ofDecimal negative digits ((← exponent? rest) - fraction.length)

end ServiceSyntax.Numeral

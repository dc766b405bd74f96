/-!
# Bytes written as text

A character of the alphabet stands for six bits, so that four of them make three bytes. Other
characters are passed over. Equals signs fill up the last four; what follows them is not read.
-/

namespace ServiceSyntax.Text.Base64

/-- The six bits that a character stands for. -/
def sixBits? (c : Char) : Option Nat :=
  if 'A' ≤ c ∧ c ≤ 'Z' then some (c.toNat - 'A'.toNat)
  else if 'a' ≤ c ∧ c ≤ 'z' then some (c.toNat - 'a'.toNat + 26)
  else if c.isDigit then some (c.toNat - '0'.toNat + 52)
  else if c = '+' then some 62
  else if c = '/' then some 63
  else none

/-- The values of the characters up to the signs that fill up the last four. `place` counts the
characters of the present four, and `filled` the signs behind the last of them; signs behind none
or one are passed over. A text that ends before four are full is none. -/
def values? : List Char → (place filled : Nat) → Option (List Nat)
  | [], place, _ => if place = 0 then some [] else none
  | c :: rest, place, filled =>
    if c = '=' then
      if place < 2 then values? rest place filled
      else if place + filled = 3 then some []
      else values? rest place (filled + 1)
    else match sixBits? c with
      | some n => (values? rest ((place + 1) % 4) 0).map (n :: ·)
      | none => values? rest place filled

/-- The whole bytes in a sequence of six-bit values. -/
def bytesOf : List Nat → List UInt8
  | a :: b :: rest =>
    UInt8.ofNat (a * 4 + b / 16) :: match rest with
      | [] => []
      | [c] => [UInt8.ofNat (b * 16 + c / 4)]
      | c :: d :: rest =>
        UInt8.ofNat (b * 16 + c / 4) :: UInt8.ofNat (c * 64 + d) :: bytesOf rest
  | _ => []

/-- The bytes that a text of ASCII characters stands for. -/
def decode? (text : String) : Option (List UInt8) :=
  if text.toList.all fun c => c.toNat < 0x80 then (values? text.toList 0 0).map bytesOf else none

end ServiceSyntax.Text.Base64

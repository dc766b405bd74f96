/-!
UTF-8 read piece by piece. A piece is a character or a maximal prefix of bytes that no valid
encoding continues: no overlong form, no surrogate and nothing above U+10FFFF is valid.
-/

namespace ServiceSyntax.Text.Utf8

/-- What stands at the front of a byte sequence. -/
inductive Piece where
  | char (c : Char)
  | invalid (first : UInt8)
deriving Repr, DecidableEq

/-- Bytes that continue a character. -/
def isTail (b : Nat) : Bool := 0x80 ≤ b && b ≤ 0xBF

/-- The second bytes that may follow the lead byte of a three-byte character. -/
def isSecondOfThree (lead b : Nat) : Bool :=
  isTail b && (lead != 0xE0 || 0xA0 ≤ b) && (lead != 0xED || b ≤ 0x9F)

/-- The second bytes that may follow the lead byte of a four-byte character. -/
def isSecondOfFour (lead b : Nat) : Bool :=
  isTail b && (lead != 0xF0 || 0x90 ≤ b) && (lead != 0xF4 || b ≤ 0x8F)

def twoBytes (lead : UInt8) : List UInt8 → Piece × List UInt8
  | b :: rest =>
    if isTail b.toNat then
      (.char (Char.ofNat ((lead.toNat - 0xC0) * 64 + (b.toNat - 0x80))), rest)
    else (.invalid lead, b :: rest)
  | [] => (.invalid lead, [])

def threeBytes (lead : UInt8) : List UInt8 → Piece × List UInt8
  | b :: rest =>
    if isSecondOfThree lead.toNat b.toNat then
      match rest with
      | c :: rest =>
        if isTail c.toNat then
          (.char (Char.ofNat ((lead.toNat - 0xE0) * 4096 + (b.toNat - 0x80) * 64
            + (c.toNat - 0x80))), rest)
        else (.invalid lead, c :: rest)
      | [] => (.invalid lead, [])
    else (.invalid lead, b :: rest)
  | [] => (.invalid lead, [])

def fourBytes (lead : UInt8) : List UInt8 → Piece × List UInt8
  | b :: rest =>
    if isSecondOfFour lead.toNat b.toNat then
      match rest with
      | c :: rest =>
        if isTail c.toNat then
          match rest with
          | d :: rest =>
            if isTail d.toNat then
              (.char (Char.ofNat ((lead.toNat - 0xF0) * 262144 + (b.toNat - 0x80) * 4096
                + (c.toNat - 0x80) * 64 + (d.toNat - 0x80))), rest)
            else (.invalid lead, d :: rest)
          | [] => (.invalid lead, [])
        else (.invalid lead, c :: rest)
      | [] => (.invalid lead, [])
    else (.invalid lead, b :: rest)
  | [] => (.invalid lead, [])

/-- The first piece of a nonempty byte sequence and the bytes after it. -/
def front (lead : UInt8) (rest : List UInt8) : Piece × List UInt8 :=
  let n := lead.toNat
  if n < 0x80 then (.char (Char.ofNat n), rest)
  else if n < 0xC2 then (.invalid lead, rest)
  else if n < 0xE0 then twoBytes lead rest
  else if n < 0xF0 then threeBytes lead rest
  else if n < 0xF5 then fourBytes lead rest
  else (.invalid lead, rest)

private theorem length_twoBytes_le (lead : UInt8) (rest : List UInt8) :
    (twoBytes lead rest).2.length ≤ rest.length := by
  unfold twoBytes
  grind

private theorem length_threeBytes_le (lead : UInt8) (rest : List UInt8) :
    (threeBytes lead rest).2.length ≤ rest.length := by
  unfold threeBytes
  grind

private theorem length_fourBytes_le (lead : UInt8) (rest : List UInt8) :
    (fourBytes lead rest).2.length ≤ rest.length := by
  unfold fourBytes
  grind

/-- A piece takes at least the lead byte. -/
theorem length_front_le (lead : UInt8) (rest : List UInt8) :
    (front lead rest).2.length ≤ rest.length := by
  have h2 := length_twoBytes_le lead rest
  have h3 := length_threeBytes_le lead rest
  have h4 := length_fourBytes_le lead rest
  unfold front
  grind

/-- The pieces of a byte sequence, in order. -/
def pieces : List UInt8 → List Piece
  | [] => []
  | lead :: rest => (front lead rest).1 :: pieces (front lead rest).2
termination_by bytes => bytes.length
decreasing_by
  have h := length_front_le lead rest
  simp only [List.length_cons]
  omega

/-- Stands for what cannot be decoded. -/
def replacement : Char := '\uFFFD'

def Piece.shown : Piece → Char
  | .char c => c
  | .invalid _ => replacement

/-- The characters before the first invalid piece, and that piece with all that follow it. -/
def splitValid : List Piece → List Char × List Piece
  | .char c :: rest => let (valid, others) := splitValid rest; (c :: valid, others)
  | others => ([], others)

/-- The text of a byte sequence that is valid throughout. -/
def decode? (bytes : List UInt8) : Option (List Char) :=
  match splitValid (pieces bytes) with
  | (valid, []) => some valid
  | _ => none

/-- The number of bytes that encode the characters. -/
def byteCount : List Char → Nat
  | [] => 0
  | c :: cs => c.utf8Size + byteCount cs

end ServiceSyntax.Text.Utf8

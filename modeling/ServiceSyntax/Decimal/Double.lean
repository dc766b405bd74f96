/-!
# Double-precision numbers

A finite number is a mantissa of at most 53 bits times a power of two from `2^-1074` on. A decimal
is read as the nearest such number, and of two that are equally near as the one with the even
mantissa. All arithmetic is on natural numbers.
-/

namespace ServiceSyntax

inductive Double where
  | finite (negative : Bool) (mantissa : Nat) (exponent : Int)
  | infinite (negative : Bool)
  | notANumber
deriving Repr, DecidableEq

namespace Double

/-- Numerator and denominator of `n * base ^ exponent`. -/
def scaled (n base : Nat) (exponent : Int) : Nat × Nat :=
  if 0 ≤ exponent then (n * Nat.pow base exponent.toNat, 1)
  else (n, Nat.pow base (-exponent).toNat)

/-- The quotient rounded to the nearest integer, halves to the even one. -/
def roundDiv (num den : Nat) : Nat :=
  let quotient := num / den
  let rest := 2 * (num % den)
  if rest < den then quotient
  else if den < rest then quotient + 1
  else quotient + quotient % 2

/-- The first number of more than 53 bits; no mantissa reaches it. -/
def mantissaLimit : Nat := 0x20000000000000

/-- The exponent at which the integral part of a quotient has 53 bits, or the least one. -/
def exponentFor (num den : Nat) : Int :=
  let guess := max ((num.log2 : Int) - den.log2 - 53) (-1074)
  let (p, q) := scaled num 2 (-guess)
  if p / (q * den) < mantissaLimit then guess else guess + 1

/-- The number nearest to a quotient. -/
def nearest (negative : Bool) (num den : Nat) : Double :=
  if num = 0 then .finite negative 0 0
  else
    let exponent := exponentFor num den
    let (p, q) := scaled num 2 (-exponent)
    let mantissa := roundDiv p (q * den)
    -- rounding up may have carried into a bit too many
    if mantissa = mantissaLimit ∧ exponent < 971 then
      .finite negative (mantissaLimit / 2) (exponent + 1)
    else if mantissa = mantissaLimit ∨ 971 < exponent then .infinite negative
    else .finite negative mantissa exponent

/-- The number of decimal digits. -/
def digitCount (n : Nat) : Nat := (Nat.toDigits 10 n).length

/-- The number nearest to `digits * 10 ^ exponent`. -/
def ofDecimal (negative : Bool) (digits : Nat) (exponent : Int) : Double :=
  let size : Int := exponent + digitCount digits
  if digits = 0 ∨ size < -330 then .finite negative 0 0
  else if 330 < size then .infinite negative
  else
    let (num, den) := scaled digits 10 exponent
    nearest negative num den

/-- The number nearest to a natural number. -/
def ofNat (n : Nat) : Double := nearest false n 1

def negate : Double → Double
  | finite negative mantissa exponent => .finite (!negative) mantissa exponent
  | infinite negative => .infinite (!negative)
  | notANumber => .notANumber

/-- Numerator and denominator of the absolute value of a finite number. -/
def quotient? : Double → Option (Nat × Nat)
  | finite _ mantissa exponent => some (scaled mantissa 2 exponent)
  | _ => none

def isNegative : Double → Bool
  | finite negative .. | infinite negative => negative
  | notANumber => false

def isZero : Double → Bool
  | finite _ 0 _ => true
  | _ => false

/-! ## Arithmetic -/

/-- The product, rounded to the nearest number. -/
def mul : Double → Double → Double
  | finite s m e, finite t n f =>
    let (num, den) := scaled (m * n) 2 (e + f)
    nearest (s != t) num den
  | x, y =>
    if x = .notANumber ∨ y = .notANumber ∨ x.isZero ∨ y.isZero then .notANumber
    else .infinite (x.isNegative != y.isNegative)

/-- A finite number in units of `2 ^ exponent`, which its own exponent is not below. -/
private def inUnits (negative : Bool) (mantissa : Nat) (own exponent : Int) : Int :=
  let magnitude : Int := mantissa * Nat.pow 2 (own - exponent).toNat
  if negative then -magnitude else magnitude

/-- The sum, rounded to the nearest number. A sum of zero is negative only if both numbers are. -/
def add : Double → Double → Double
  | finite s m e, finite t n f =>
    let exponent := min e f
    let sum := inUnits s m e exponent + inUnits t n f exponent
    if sum = 0 then .finite (s && t) 0 0
    else
      let (num, den) := scaled sum.natAbs 2 exponent
      nearest (decide (sum < 0)) num den
  | notANumber, _ | _, notANumber => .notANumber
  | infinite s, infinite t => if s = t then .infinite s else .notANumber
  | infinite s, _ | _, infinite s => .infinite s

/-! ## Comparison -/

/-- The number is equal to an integer. -/
def equalsInt (x : Double) (n : Int) : Bool :=
  match x.quotient? with
  | some (num, den) =>
    num == n.natAbs * den && (num == 0 || x.isNegative == decide (n < 0))
  | none => false

/-- Equality of numbers: zeros are equal whatever their sign, and a number that is none differs
from itself. -/
def equals (x y : Double) : Bool :=
  x != .notANumber && (x == y || (x.isZero && y.isZero))

end Double

end ServiceSyntax

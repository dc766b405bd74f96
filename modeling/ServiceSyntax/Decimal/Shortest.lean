import ServiceSyntax.Decimal.Double

/-!
# Shortest decimals

A double-precision number is written with the fewest digits that read back as the number, and of
those with the nearest ones. It is positional from `10^-4` up to `10^16` and keeps a point.
-/

namespace ServiceSyntax.Double

/-- A decimal fraction: its digits, and how many of them stand before the point. -/
structure Digits where
  digits : List Char
  point : Int

/-- The place of the point: the quotient lies below `10 ^ place` and not below a tenth of it. -/
private def placeOf (num den : Nat) : Int :=
  let guess := (digitCount num : Int) - digitCount den
  let (p, q) := scaled den 10 guess
  if num * q < p then guess else guess + 1

private def stripZeros (digits : List Char) : List Char :=
  match (digits.reverse.dropWhile (· = '0')).reverse with
  | [] => ['0']
  | kept => kept

/-- The digits of a candidate on the decimal grid `10 ^ unit`. -/
private def digitsOf (candidate : Nat) (unit : Int) : Digits :=
  let digits := Nat.toDigits 10 candidate
  ⟨stripZeros digits, unit + digits.length⟩

/-- The nearest point of the decimal grid `10 ^ unit` that reads back as the number; of two that
are equally near it is the one with the even last digit. -/
private def onGrid? (x : Double) (num den : Nat) (unit : Int) : Option Digits :=
  let (p, q) := scaled den 10 unit
  let lower := num * q / p
  let rest := num * q % p
  let readsBack := fun candidate => ofDecimal x.isNegative candidate unit == x
  let below := 2 * rest < p || (2 * rest = p && lower % 2 = 0)
  let ordered := if below then [lower, lower + 1] else [lower + 1, lower]
  (ordered.find? readsBack).map fun candidate => digitsOf candidate unit

/-- The fewest digits that read back, at most seventeen. -/
def shortest? (x : Double) : Option Digits := do
  let (num, den) ← x.quotient?
  if num = 0 then return ⟨['0'], 1⟩
  let place := placeOf num den
  (List.range 17).findSome? fun (n : Nat) => onGrid? x num den (place - n - 1)

private def zeros (n : Int) : List Char := List.replicate n.toNat '0'

private def positional (d : Digits) : List Char :=
  if d.point ≤ 0 then '0' :: '.' :: zeros (-d.point) ++ d.digits
  else
    let size : Int := d.digits.length
    if size ≤ d.point then d.digits ++ zeros (d.point - size) ++ ['.', '0']
    else d.digits.take d.point.toNat ++ '.' :: d.digits.drop d.point.toNat

private def scientific (d : Digits) : List Char :=
  let exponent := d.point - 1
  let digits := Nat.toDigits 10 exponent.natAbs
  d.digits.take 1 ++ (if d.digits.length = 1 then [] else '.' :: d.digits.drop 1)
    ++ ['e', if exponent < 0 then '-' else '+']
    ++ (if digits.length = 1 then '0' :: digits else digits)

/-- The written form of a number. -/
def written (x : Double) : String :=
  let unsigned := match x, x.shortest? with
    | .infinite _, _ => "inf".toList
    | .notANumber, _ | _, none => "nan".toList
    | _, some d => if -4 < d.point ∧ d.point ≤ 16 then positional d else scientific d
  String.ofList (if x.isNegative then '-' :: unsigned else unsigned)

end ServiceSyntax.Double

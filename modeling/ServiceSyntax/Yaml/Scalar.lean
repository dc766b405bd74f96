import ServiceSyntax.Decimal.Shortest
import ServiceSyntax.Text.Base64
import ServiceSyntax.Yaml.Tag

/-!
# YAML scalars

What the text of a scalar stands for under its tag, when two scalars are the same, and how scalars
are written. Truth values count as the numbers one and zero.
-/

namespace ServiceSyntax.Yaml

inductive Scalar where
  | null
  | bool (b : Bool)
  | int (n : Int)
  | float (x : Double)
  /-- A float that is no number. It is the same only as itself, so it goes by its node; the word for
  it stands for one and the same wherever it is written. -/
  | notANumber (origin : Option Nat)
  | bytes (bs : List UInt8)
  | timestamp (t : Timestamp)
  | text (s : String)
deriving Repr, DecidableEq

namespace Scalar

/-! ## Reading -/

private def withoutUnderscores (text : String) : List Char := text.toList.filter (· != '_')

/-- Numbers of one kind, each sixty times the next. -/
private def parts? {α : Type} (part? : List Char → Option α) (cs : List Char) : Option (List α) :=
  (cs.splitOn ':').mapM part?

/-- The integer that a text stands for. Behind its sign and the mark of its base there may be a
numeral with a sign and a mark of its own. -/
def int? (version : Version) (text : String) : Option Int := do
  let cs := withoutUnderscores text
  if cs.isEmpty then none
  let (negative, body) := Numeral.splitSign cs
  let n ← match body with
    | '0' :: 'b' :: digits => Numeral.integer? 2 digits
    | '0' :: 'x' :: digits => Numeral.integer? 16 digits
    | '0' :: 'o' :: digits => Numeral.integer? 8 digits
    | body =>
      if version.isFirst ∧ body.head? = some '0' then Numeral.integer? 8 body
      else if version.isFirst ∧ body.contains ':' then
        (parts? (Numeral.integer? 10) body).map (·.foldl (fun total n => total * 60 + n) 0)
      else Numeral.integer? 10 body
  return if negative then -n else n

/-- The sum of numbers each of which counts sixty times the one behind it, added up from the last
one on. -/
private def inSixties (parts : List Double) : Double :=
  let step := fun (state : Double × Nat) (part : Double) =>
    (state.1.add (part.mul (.ofNat state.2)), state.2 * 60)
  (parts.reverse.foldl step (Double.ofNat 0, 1)).1

/-- The float that the text of a node stands for. -/
def float? (version : Version) (origin : Nat) (text : String) : Option Scalar := do
  let cs := (withoutUnderscores text).map Char.toLower
  if cs.isEmpty then none
  let (negative, body) := Numeral.splitSign cs
  if body = ".inf".toList then return .float (.infinite negative)
  if body = ".nan".toList then return .notANumber none
  let x ← if version != .standard && body.contains ':' then
      (parts? Numeral.decimal? body).map inSixties
    else Numeral.decimal? body
  if x = .notANumber then return .notANumber (some origin)
  return .float (if negative then x.negate else x)

/-- The truth value that a text stands for, in any version and any case. -/
def bool? (text : String) : Option Bool :=
  let word := text.toLower
  if ["yes", "true", "on", "y"].contains word then some true
  else if ["no", "false", "off", "n"].contains word then some false
  else none

/-- The scalar that the text of a node stands for; tags of collections, merge keys and default
values have none. -/
def ofText? (version : Version) (origin : Nat) (tag : Tag) (text : String) : Option Scalar :=
  match tag with
  | .null => some .null
  | .bool => (bool? text).map .bool
  | .int => (int? version text).map .int
  | .float => float? version origin text
  | .binary => (Text.Base64.decode? text).map .bytes
  | .timestamp => (Timestamp.ofChars? (Tag.withoutLineFeed text)).map .timestamp
  | .text => some (.text text)
  | _ => none

/-! ## Comparison -/

/-- Whether a scalar counts as something rather than nothing. -/
def isSomething : Scalar → Bool
  | null => false
  | bool b => b
  | int n => n != 0
  | float x => !x.isZero
  | bytes bs => !bs.isEmpty
  | text s => !s.isEmpty
  | notANumber _ | timestamp _ => true

/-- Whether two scalars are the same key. -/
def same : Scalar → Scalar → Bool
  | bool b, int n | int n, bool b => n == b.toInt
  | bool b, float x | float x, bool b => x.equalsInt b.toInt
  | int n, float x | float x, int n => x.equalsInt n
  | float x, float y => x.equals y
  | timestamp t, timestamp u => t.same u
  | s, t => s == t

/-! ## Written forms -/

/-- The written form of a scalar inside a tuple. -/
def shown : Scalar → String
  | null => "None"
  | bool b => if b then "True" else "False"
  | int n => toString n
  | float x => x.written
  | notANumber _ => "nan"
  | bytes bs => "b" ++ Text.quotedBytes bs
  | timestamp t => t.parts
  | text s => Text.quoted s

/-- Whether a scalar has a written form; a number of more than 4300 digits has none. -/
def isWritable : Scalar → Bool
  | int n => n.natAbs < Nat.pow 10 4300
  | _ => true

/-- The written form of a scalar. -/
def written : Scalar → String
  | text s => s
  | timestamp t => t.text
  | s => s.shown

end Scalar

end ServiceSyntax.Yaml

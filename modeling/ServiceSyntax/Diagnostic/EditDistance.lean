/-!
# Edit distance

The least number of single-character insertions, deletions and substitutions that turn one text
into another. It is computed with one row for each character of the longer text: a row holds the
distances from what has been read of that text to every prefix of the shorter one.
-/

namespace ServiceSyntax.EditDistance

/-- Puts the next entry behind a row that is being filled, where `above` is the row before it and
`column` a character of the shorter text with its number. -/
def pushEntry (above : Array Nat) (c : Char) (row : Array Nat) (column : Char × Nat) : Array Nat :=
  let deleted := above.getD column.2 0 + 1
  let inserted := row.getD (column.2 - 1) 0 + 1
  let kept := above.getD (column.2 - 1) 0 + if c = column.1 then 0 else 1
  row.push (min deleted (min inserted kept))

/-- The row for one more character of the longer text, which comes with its number. -/
def nextRow (b : List Char) (above : Array Nat) (line : Char × Nat) : Array Nat :=
  (b.zipIdx 1).foldl (pushEntry above line.1) #[line.2]

/-- The distances from a text to every prefix of another. -/
def lastRow (a b : List Char) : Array Nat :=
  (a.zipIdx 1).foldl (nextRow b) (Array.range (b.length + 1))

/-- The distance between two texts of which the first one is not the shorter one. -/
def ofLonger (a b : List Char) : Nat :=
  if b.isEmpty then a.length else (lastRow a b).back?.getD 0

end ServiceSyntax.EditDistance

namespace ServiceSyntax

/-- The least number of insertions, deletions and substitutions between two texts. -/
def editDistance (a b : String) : Nat :=
  if a = b then 0
  else if a.length < b.length then EditDistance.ofLonger b.toList a.toList
  else EditDistance.ofLonger a.toList b.toList

end ServiceSyntax

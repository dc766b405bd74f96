import ServiceSyntax.Yaml.Assembly
import ServiceSyntax.Yaml.Value

/-!
# YAML documents

The value that a text stands for, as far down as it is looked at.
-/

namespace ServiceSyntax.Yaml

namespace Value

/-- An item of an assembly, down to some depth. -/
def ofItem (cells : Array Cell) : (depth : Nat) → Item → Value
  | _, .scalar s => .scalar s
  | 0, .cell _ => .hidden
  | depth + 1, .cell place =>
    match cells[place]? with
    | some (.sequence items) => .sequence (items.map (ofItem cells depth))
    | some (.pairs pairs) =>
      .sequence (pairs.map fun pair =>
        .pair (ofItem cells depth pair.1) (ofItem cells depth pair.2))
    | some (.mapping entries) =>
      .mapping (entries.map fun entry => (entry.1, ofItem cells depth entry.2))
    | some (.set members) => .set members
    | none => .hidden

/-- The value that a text stands for, down to some depth; a text that holds nothing stands for
nothing. -/
def ofText? (depth : Nat) (text : List Char) : Except Error Value := do
  match ← Graph.ofText? text with
  | none => return .scalar .null
  | some graph =>
    let (item, assembly) ← Assembly.ofGraph? graph
    return ofItem assembly.cells depth item

end Value

/-- How deep one has to look into a keyword document: it holds scopes, which hold terms, which hold
texts. -/
def keywordDepth : Nat := 3

/-- The value of a text as far down as a keyword document is looked at, or why it has none. -/
def read (text : List Char) : Except String Value :=
  (Value.ofText? keywordDepth text).mapError Error.message

end ServiceSyntax.Yaml

import ServiceSyntax.Yaml.Key
import ServiceSyntax.Yaml.Merge

/-!
# Assembling the items of a YAML graph

Every node becomes an item. A collection is a cell, which others may refer to before it has
content: cells are filled in the order in which they were made, so that a collection can contain
itself. Only a collection inside a key is filled at once, since a key cannot change any more; there
a node within itself is nothing.
-/

namespace ServiceSyntax.Yaml

/-- What a node has become. -/
inductive Item where
  | scalar (s : Scalar)
  /-- The collection in a cell. -/
  | cell (place : Nat)
deriving Repr

inductive Cell where
  | sequence (items : List Item)
  | pairs (pairs : List (Item × Item))
  | mapping (entries : List (Key × Item))
  | set (members : List Key)
deriving Repr

structure Assembly where
  graph : Graph
  cells : Array Cell := #[]
  /-- The items of the nodes that are done with. -/
  items : Array (Option Item)
  /-- The nodes that are being worked on. -/
  active : List NodeId := []
  /-- Cells without content, and their nodes. -/
  empty : Array (NodeId × Nat) := #[]

namespace Assembly

/-- An action that assembles something or fails. -/
abbrev Assemble := StateT Assembly (Except Error)

def fail {α : Type} (reason : String) : Assemble α := fun _ => .error ⟨reason, 0, 0⟩

/-- Changes the graph. -/
private def change {α : Type} (action : Graph.Change α) : Assemble α := fun s => do
  let (result, graph) ← action.run s.graph
  return (result, { s with graph })

private def content (id : NodeId) : Assemble Content := do
  match (← get).graph.nodes[id]? with
  | some node => return node.content
  | none => fail "no such node"

private def sequenceOf (id : NodeId) : Assemble (List NodeId) := do
  match ← content id with
  | .sequence items => return items
  | _ => fail "expected a sequence"

/-! ## Scalars -/

/-- The text of a scalar. A mapping that is used as one has that of its default value. -/
private def textOf (id : NodeId) : (fuel : Nat) → Assemble String
  | 0 => fail "default values have no end"
  | fuel + 1 => do
    match ← content id with
    | .scalar text => return text
    | .sequence _ => fail "expected a scalar"
    | .mapping entries =>
      let nodes := (← get).graph.nodes
      match entries.find? fun entry => nodes[entry.1]?.any fun node => node.tag = .default with
      | some (_, value) => textOf value fuel
      | none => fail "expected a scalar"

private def scalar (id : NodeId) (tag : Tag) : Assemble Item := do
  let graph := (← get).graph
  match tag, ← content id with
  | .timestamp, .mapping _ => fail "expected a scalar"
  | _, _ =>
    let text ← textOf id (graph.nodes.size + 1)
    match Scalar.ofText? graph.version id tag text with
    | some s => return .scalar s
    | none => fail "a scalar does not have the form of its tag"

/-! ## Cells -/

/-- The content of a new cell. -/
private def emptyCell? : Tag → Option Cell
  | .sequence => some (.sequence [])
  | .pairs => some (.pairs [])
  | .mapping | .orderedMapping => some (.mapping [])
  | .set => some (.set [])
  | _ => none

private def setCell (place : Nat) (cell : Cell) : Assemble Unit :=
  modify fun s => { s with cells := s.cells.modify place fun _ => cell }

/-- An item that cannot change, as the parts of a key. -/
private def fixed : Item → Assemble Key
  | .scalar s => return .scalar s
  | .cell _ => fail "a collection is used as a key"

/-- The key that an item makes; of a sequence, what it holds by now. -/
private def keyOf : Item → Assemble Key
  | .scalar s => return .scalar s
  | .cell place => do
    match (← get).cells[place]? with
    | some (.sequence items) => return .tuple (← items.mapM fixed)
    | some (.pairs pairs) =>
      return .tuple (← pairs.mapM fun pair => do return .tuple [← fixed pair.1, ← fixed pair.2])
    | _ => fail "a collection is used as a key"

private def hasTwins : List (Key × Item) → Bool
  | [] => false
  | (key, _) :: rest => rest.any (fun entry => key.same entry.1) || hasTwins rest

/-- The entries of a mapping. Only in one that has been merged with others may keys occur again;
there the last value of a key counts. -/
private def distinct (merged : Bool) (entries : List (Key × Item)) :
    Assemble (List (Key × Item)) := do
  if merged then
    return entries.foldl (fun known entry => Key.put entry.1 entry.2 known) []
  if hasTwins entries then fail "a key occurs twice"
  return entries

/-- The single entry of a node that is a mapping. -/
private def singleEntry (id : NodeId) : Assemble (NodeId × NodeId) := do
  match ← change (Graph.Change.needEntries id) with
  | [entry] => return entry
  | _ => fail "expected a single entry"

/-- No node is worked on twice at a time, and every one takes two steps. -/
private def fuelFor (graph : Graph) : Nat := 2 * graph.nodes.size + 2

mutual

/-- The item of a node, which is there at once with all its content if it is inside a key. -/
private def item (id : NodeId) (inKey : Bool) : (fuel : Nat) → Assemble Item
  | 0 => fail "nodes are nested too deeply"
  | fuel + 1 => do
    let s ← get
    if let some item := s.items[id]?.join then return item
    if s.active.contains id then return .scalar .null
    set { s with active := id :: s.active }
    let tag := (s.graph.nodes[id]?.map Node.tag).getD .unknown
    let result ← match emptyCell? tag with
      | none => scalar id tag
      | some cell =>
        let place := s.cells.size
        modify fun s => { s with cells := s.cells.push cell }
        if inKey then fill id place true fuel
        else modify fun s => { s with empty := s.empty.push (id, place) }
        pure (.cell place)
    modify fun s =>
      { s with items := s.items.modify id fun _ => some result, active := s.active.erase id }
    return result

/-- Fills the cell of a node. -/
private def fill (id place : Nat) (inKey : Bool) : (fuel : Nat) → Assemble Unit
  | 0 => fail "nodes are nested too deeply"
  | fuel + 1 => do
    match (← get).graph.nodes[id]?.map Node.tag with
    | some .sequence =>
      let items ← (← sequenceOf id).mapM fun child => item child inKey fuel
      setCell place (.sequence items)
    | some .pairs =>
      let pairs ← (← sequenceOf id).mapM fun child => do
        let (key, value) ← singleEntry child
        return (← item key inKey fuel, ← item value inKey fuel)
      setCell place (.pairs pairs)
    | some .orderedMapping =>
      let entries ← (← sequenceOf id).mapM fun child => do
        let (key, value) ← singleEntry child
        return (← fixed (← item key inKey fuel), ← item value inKey fuel)
      setCell place (.mapping (← distinct false entries))
    | some tag =>
      change (Graph.flatten id)
      let merged := (← get).graph.nodes[id]?.any Node.merged
      let entries ← (← change (Graph.Change.needEntries id)).mapM fun (key, value) => do
        return (← keyOf (← item key true fuel), ← item value inKey fuel)
      let entries ← distinct merged entries
      setCell place (if tag = .set then .set (entries.map Prod.fst) else .mapping entries)
    | none => fail "no such node"

end

/-- Fills the cells that are empty, and those that come up by that. -/
private def fillAll : (fuel : Nat) → Assemble Unit
  | 0 => fail "nodes are nested too deeply"
  | fuel + 1 => do
    let nodeFuel := fuelFor (← get).graph
    let due := (← get).empty
    if due.isEmpty then return
    modify fun s => { s with empty := #[] }
    for (id, place) in due do fill id place false nodeFuel
    fillAll fuel

/-- The item of a graph and the assembly with its cells. -/
def ofGraph? (graph : Graph) : Except Error (Item × Assembly) := do
  let action : Assemble Item := do
    let root ← item graph.root false (fuelFor graph)
    fillAll (graph.nodes.size + 1)
    return root
  action.run { graph, items := Array.replicate graph.nodes.size none }

end Assembly

end ServiceSyntax.Yaml

import ServiceSyntax.Yaml.Node

/-!
# Merge keys

A merge key of a mapping names other mappings, whose entries come in front of the mapping's own.
The mapping itself may be among them. Flattening takes the merge keys of a mapping away and puts
those entries in their place.
-/

namespace ServiceSyntax.Yaml.Graph

/-- An action that changes a graph or fails. -/
abbrev Change := StateT Graph (Except Error)

namespace Change

def fail {α : Type} (reason : String) : Change α := fun _ => .error ⟨reason, 0, 0⟩

/-- The entries of a mapping. -/
def entriesOf? (id : NodeId) : Change (Option (List (NodeId × NodeId))) := do
  match ((← get).nodes[id]?).map Node.content with
  | some (.mapping entries) => return some entries
  | _ => return none

/-- The entries of a node that has to be a mapping. -/
def needEntries (id : NodeId) : Change (List (NodeId × NodeId)) := do
  match ← entriesOf? id with
  | some entries => return entries
  | none => fail "expected a mapping"

private def change (id : NodeId) (f : Node → Node) : Change Unit :=
  modify fun g => { g with nodes := g.nodes.modify id f }

end Change

open Change

private def hasTag (g : Graph) (tag : Tag) (id : NodeId) : Bool :=
  (g.nodes[id]?).any fun node => node.tag = tag

/-- Number of the merge keys in all mappings. -/
def mergeCount (g : Graph) : Nat :=
  g.nodes.foldl (fun n node =>
    match node.content with
    | .mapping entries => n + entries.countP fun entry => g.hasTag .merge entry.1
    | _ => n) 0

/-- Takes the first merge key out of a mapping and gives the node behind it. -/
private def takeMerge? (id : NodeId) : Change (Option NodeId) := do
  let g ← get
  let entries ← needEntries id
  match entries.findIdx? fun entry => g.hasTag .merge entry.1 with
  | none => return none
  | some place =>
    change id fun node => { node with content := .mapping (entries.eraseIdx place) }
    return entries[place]?.map Prod.snd

/-- Puts entries in front of those of a mapping. A default value that is a key is a text. -/
private def putInFront (id : NodeId) (added : List (NodeId × NodeId)) : Change Unit := do
  let g ← get
  let entries ← needEntries id
  for entry in entries do
    if g.hasTag .default entry.1 then change entry.1 fun node => { node with tag := .text }
  unless added.isEmpty do
    change id fun node => { node with content := .mapping (added ++ entries), merged := true }

mutual

/-- Flattens a mapping, given the entries that its merge keys have named up to now. Every step
takes a merge key away, so that their number is fuel enough. -/
private def flattenWith (id : NodeId) (added : List (NodeId × NodeId)) :
    (fuel : Nat) → Change Unit
  | 0 => fail "merge keys have no end"
  | fuel + 1 => do
    match ← takeMerge? id with
    | none => putInFront id added
    | some source =>
      unless added.isEmpty do fail "two merge keys"
      flattenWith id (← merged source fuel) fuel

/-- The entries of a mapping, or of the mappings in a sequence, the last one first. -/
private def merged (source : NodeId) : (fuel : Nat) → Change (List (NodeId × NodeId))
  | 0 => fail "merge keys have no end"
  | fuel + 1 => do
    let flattened := fun (id : NodeId) => do
      let _ ← needEntries id
      flattenWith id [] fuel
      needEntries id
    match ((← get).nodes[source]?).map Node.content with
    | some (.sequence items) => return (← items.mapM flattened).reverse.flatten
    | _ => flattened source

end

/-- Puts the entries that the merge keys of a mapping name in front of its own. -/
def flatten (id : NodeId) : Change Unit := do
  flattenWith id [] (2 * (← get).mergeCount + 1)

end ServiceSyntax.Yaml.Graph

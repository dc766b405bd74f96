import ServiceSyntax.Yaml.Layout
import ServiceSyntax.Yaml.Tag

/-!
# YAML nodes

The graph that a YAML text stands for, before its scalars are read as numbers, truth values and so
on. An alias refers to the node with its anchor, so that a node may stand in several places, also
inside itself.
-/

namespace ServiceSyntax.Yaml

/-- The place of a node in its graph. -/
abbrev NodeId := Nat

inductive Content where
  | scalar (text : String)
  | sequence (items : List NodeId)
  | mapping (entries : List (NodeId × NodeId))
deriving Repr, DecidableEq

structure Node where
  tag : Tag
  content : Content
  /-- Entries of other mappings have been added to this one. -/
  merged : Bool := false
deriving Repr, DecidableEq

structure Graph where
  nodes : Array Node := #[]
  root : NodeId := 0
  version : Version := .standard
deriving Repr

/-- The state in which nodes are put together. -/
structure Composer where
  tokens : List Token
  version : Version := .standard
  /-- Meanings of tag handles. -/
  handles : List (String × String) := []
  /-- Nodes by anchor, the last one first. -/
  anchors : List (String × NodeId) := []
  nodes : Array Node := #[]

namespace Composer

abbrev Compose := StateT Composer (Except Error)

def fail {α : Type} (reason : String) : Compose α := fun _ => .error ⟨reason, 0, 0⟩

def look : Compose (Option Token) := do return (← get).tokens.head?

def drop : Compose Unit := modify fun s => { s with tokens := s.tokens.tail }

/-- The next token is one of some tokens. -/
def lookIn (tokens : List Token) : Compose Bool := do
  return (← look).any tokens.contains

/-- Drops the next token if it is the given one; tells whether it was. -/
def accept (token : Token) : Compose Bool := do
  if (← look) = some token then
    drop
    return true
  else return false

def need (token : Token) (reason : String) : Compose Unit := do
  unless ← accept token do fail reason

/-! ## Properties of nodes -/

private def anchor? : Compose (Option String) := do
  match ← look with
  | some (.anchor name) =>
    drop
    return some name
  | _ => return none

/-- The suffix of a tag once the escapes that it still holds are resolved. -/
private def unescaped? : List Char → Option (List Char)
  | '%' :: a :: b :: rest => do
    let code ← Numeral.integer? 16 [a, b]
    if code < 0 then none
    return Char.ofNat code.toNat :: (← unescaped? rest)
  | '%' :: _ => none
  | c :: rest => (unescaped? rest).map (c :: ·)
  | [] => some []

/-- The full name of the next tag if the next token is one. -/
private def tag? : Compose (Option String) := do
  match ← look with
  | some (.tag handle suffix) =>
    drop
    let expansion ← match handle with
      | none => pure ""
      | some handle =>
        match (← get).handles.lookup handle with
        | some expansion => pure expansion
        | none => fail "unknown tag handle"
    match unescaped? suffix.toList with
    | some name => return some (expansion ++ String.ofList name)
    | none => fail "expected two hexadecimal digits"
  | _ => return none

/-- The anchor and the tag in front of a node, in either order. -/
private def properties : Compose (Option String × Option String) := do
  match ← anchor? with
  | some name => return (some name, ← tag?)
  | none =>
    match ← tag? with
    | some uri => return (← anchor?, some uri)
    | none => return (none, none)

/-- The tag of a scalar; without a tag of its own it depends on the form of a plain one. -/
private def scalarTag (uri : Option String) (style : Style) (text : String) : Compose Tag := do
  let version := (← get).version
  match uri, style with
  | some "!", _ | none, .plain =>
    unless version.isFirst || version = .standard do fail "unknown version"
    return .ofForm version text
  | none, .quoted => return .text
  | some uri, _ => return .ofUri uri

private def collectionTag (usual : Tag) (uri : Option String) : Tag :=
  match uri with
  | none | some "!" => usual
  | some uri => .ofUri uri

/-! ## Nodes -/

/-- Adds a node, under its anchor if it has one. -/
private def add (anchor : Option String) (node : Node) : Compose NodeId := do
  let id := (← get).nodes.size
  modify fun s =>
    { s with
      nodes := s.nodes.push node
      anchors := (anchor.map fun name => (name, id)).toList ++ s.anchors }
  return id

private def addScalar (anchor uri : Option String) (style : Style) (text : String) :
    Compose NodeId := do
  add anchor { tag := ← scalarTag uri style text, content := .scalar text }

/-- Adds a scalar that is not written at all. -/
private def addEmpty : Compose NodeId := addScalar none none .plain ""

/-- Adds a collection, which can be referred to from inside. -/
private def addCollection (anchor : Option String) (tag : Tag) (content : Compose Content) :
    Compose NodeId := do
  let id ← add anchor { tag, content := .sequence [] }
  let content ← content
  modify fun s => { s with nodes := s.nodes.modify id fun node => { node with content } }
  return id

mutual

/-- A node; in block context it may be a block collection, behind a mapping's key also a sequence
that is not indented further. -/
private def node (block indentless : Bool) : (fuel : Nat) → Compose NodeId
  | 0 => fail "nodes are nested too deeply"
  | fuel + 1 => do
    if let some (.aliasName name) ← look then
      drop
      match (← get).anchors.lookup name with
      | some target => return target
      | none => fail "unknown anchor"
    else
      let (anchor, uri) ← properties
      let sequence := fun (content : Compose (List NodeId)) =>
        addCollection anchor (collectionTag .sequence uri) (Content.sequence <$> content)
      let mapping := fun (content : Compose (List (NodeId × NodeId))) =>
        addCollection anchor (collectionTag .mapping uri) (Content.mapping <$> content)
      match ← look with
      | some (.scalar style text) =>
        drop
        addScalar anchor uri style text
      | some .flowSequenceStart =>
        drop
        sequence (flowItems true fuel)
      | some .flowMappingStart =>
        drop
        mapping (flowPairs true fuel)
      | token =>
        if indentless ∧ token = some .blockEntry then sequence (items false fuel)
        else if block ∧ token = some .blockSequenceStart then
          drop
          sequence (items true fuel)
        else if block ∧ token = some .blockMappingStart then
          drop
          mapping (pairs fuel)
        else if anchor.isSome ∨ uri.isSome then addScalar anchor uri .plain ""
        else fail "expected a node"

/-- A node unless one of some tokens shows that it is empty. -/
private def nodeUnless (stops : List Token) (block indentless : Bool) :
    (fuel : Nat) → Compose NodeId
  | 0 => fail "nodes are nested too deeply"
  | fuel + 1 => do
    if ← lookIn stops then addEmpty else node block indentless fuel

/-- The items of a block sequence; one that is indented has an end of its own. -/
private def items (indented : Bool) : (fuel : Nat) → Compose (List NodeId)
  | 0 => fail "nodes are nested too deeply"
  | fuel + 1 => do
    if ← accept .blockEntry then
      let stops := if indented then [.blockEntry, .blockEnd]
        else [.blockEntry, .key, .value, .blockEnd]
      let item ← nodeUnless stops true false fuel
      return item :: (← items indented fuel)
    else
      if indented then need .blockEnd "expected the end of a sequence"
      return []

/-- The entries of a block mapping. The first versions of the language demand a key. -/
private def pairs : (fuel : Nat) → Compose (List (NodeId × NodeId))
  | 0 => fail "nodes are nested too deeply"
  | fuel + 1 => do
    let stops : List Token := [.key, .value, .blockEnd]
    let keyed ← accept .key
    let bare := !keyed && 1 < (← get).version.minor && (← look) = some .value
    if keyed || bare then
      let key ← if keyed then nodeUnless stops true true fuel else addEmpty
      let value ← if ← accept .value then nodeUnless stops true true fuel else addEmpty
      return (key, value) :: (← pairs fuel)
    else
      need .blockEnd "expected the end of a mapping"
      return []

/-- The items of a flow sequence; one with a key or a colon is a mapping of its own. -/
private def flowItems (first : Bool) : (fuel : Nat) → Compose (List NodeId)
  | 0 => fail "nodes are nested too deeply"
  | fuel + 1 => do
    if ← accept .flowSequenceEnd then return []
    unless first do need .flowEntry "expected a comma or a closing bracket"
    if ← accept .flowSequenceEnd then return []
    let item ← do
      if ← accept .key then
        addCollection none .mapping do
          let key ← nodeUnless [.value, .flowEntry, .flowSequenceEnd] false false fuel
          let value ← if ← accept .value then
              nodeUnless [.flowEntry, .flowSequenceEnd] false false fuel
            else addEmpty
          return .mapping [(key, value)]
      else node false false fuel
    return item :: (← flowItems false fuel)

/-- The entries of a flow mapping. -/
private def flowPairs (first : Bool) : (fuel : Nat) → Compose (List (NodeId × NodeId))
  | 0 => fail "nodes are nested too deeply"
  | fuel + 1 => do
    if ← accept .flowMappingEnd then return []
    unless first do need .flowEntry "expected a comma or a closing brace"
    if ← accept .flowMappingEnd then return []
    let valueStops : List Token := [.flowEntry, .flowMappingEnd]
    let entry ← do
      if ← accept .key then
        let key ← nodeUnless (.value :: valueStops) false false fuel
        let value ← if ← accept .value then nodeUnless valueStops false false fuel else addEmpty
        pure (key, value)
      else if 1 < (← get).version.minor ∧ (← look) = some .value then
        drop
        pure (← addEmpty, ← nodeUnless valueStops false false fuel)
      else pure (← node false false fuel, ← addEmpty)
    return entry :: (← flowPairs false fuel)

end

/-! ## Documents -/

/-- The handles that need no directive. -/
private def commonHandles : List (String × String) := [("!", "!"), ("!!", Tag.standard)]

/-- The directives in front of a document; gives the version that one of them names. -/
private def directives (version : Option Version) : (fuel : Nat) → Compose (Option Version)
  | 0 => return version
  | fuel + 1 => do
    match ← look with
    | some (.directive d) =>
      drop
      match d with
      | .version major minor =>
        if version.isSome then fail "two version directives"
        if major != 1 then fail "unknown version"
        directives (some ⟨minor⟩) fuel
      | .tag handle expansion =>
        if ((← get).handles.lookup handle).isSome then fail "two directives for a tag handle"
        modify fun s => { s with handles := (handle, expansion) :: s.handles }
        directives version fuel
      | .reserved => directives version fuel
    | _ => return version

/-- Marks that may stand between two documents. -/
private def skipMarks : (fuel : Nat) → Compose Unit
  | 0 => return ()
  | fuel + 1 => do
    if ← accept .documentEnd then skipMarks fuel

/-- The only document of a text, none if the text holds nothing. -/
private def document : Compose (Option NodeId) := do
  let fuel := 4 * (← get).tokens.length + 4
  if (← look).isNone then return none
  let explicit := match ← look with
    | some (.directive _) | some .documentStart => true
    | _ => false
  if explicit then
    let version ← directives none fuel
    need .documentStart "expected the start of a document"
    modify fun s => { s with version := version.getD .standard }
  modify fun s => { s with handles := s.handles ++ commonHandles }
  let root ← match ← look with
    | none => addEmpty
    | some (.directive _) | some .documentStart | some .documentEnd =>
      if explicit then addEmpty else node true false fuel
    | _ => node true false fuel
  if (← get).version.isFirst then skipMarks fuel
  else let _ ← accept .documentEnd
  unless (← look).isNone do fail "more than one document"
  return some root

end Composer

/-- The graph that a text stands for, none if the text holds nothing. -/
def Graph.ofText? (text : List Char) : Except Error (Option Graph) := do
  let tokens ← Token.ofText? text
  let (root, s) ← Composer.document.run { tokens }
  return root.map fun root => { nodes := s.nodes, root, version := s.version }

end ServiceSyntax.Yaml

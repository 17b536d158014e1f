import Liveness.Yaml.Tree

namespace Liveness.Yaml

inductive Content where
  | scalar (text : String)
  | sequence (items : List Nat)
  | mapping (pairs : List (Nat × Nat))

structure Node where
  tag : Tag
  content : Content

structure Document where
  nodes : Array Node
  root : Nat

namespace Document

def tag? (d : Document) (n : Nat) : Option Tag := (d.nodes[n]?).map (·.tag)

def content? (d : Document) (n : Nat) : Option Content := (d.nodes[n]?).map (·.content)

def isMapping (d : Document) (n : Nat) : Bool :=
  match d.content? n with
  | some (.mapping _) => true
  | _ => false

structure Numbering where
  nodes : Array Node := #[]
  anchors : List (String × Nat) := []

def Numbering.add (s : Numbering) (anchor : Option String) (node : Node) :
    Except Fault (Nat × Numbering) :=
  let n := s.nodes.size
  match anchor with
  | none => .ok (n, { s with nodes := s.nodes.push node })
  | some name =>
    if (s.anchors.lookup name).isSome then .error (.repeatedAnchor name)
    else .ok (n, ⟨s.nodes.push node, (name, n) :: s.anchors⟩)

def Numbering.fill (s : Numbering) (n : Nat) (node : Node) : Numbering :=
  { s with nodes := s.nodes.setIfInBounds n node }

mutual

def number (s : Numbering) : Tree → Except Fault (Nat × Numbering)
  | .alias name =>
    match s.anchors.lookup name with
    | some n => .ok (n, s)
    | none => .error (.undefinedAlias name)
  | .scalar anchor tag text => s.add anchor ⟨tag, .scalar text⟩
  | .sequence anchor tag items => do
    let (n, s) ← s.add anchor ⟨tag, .sequence []⟩
    let (numbers, s) ← numberItems s items
    return (n, s.fill n ⟨tag, .sequence numbers⟩)
  | .mapping anchor tag pairs => do
    let (n, s) ← s.add anchor ⟨tag, .mapping []⟩
    let (numbers, s) ← numberPairs s pairs
    return (n, s.fill n ⟨tag, .mapping numbers⟩)

def numberItems (s : Numbering) : List Tree → Except Fault (List Nat × Numbering)
  | [] => .ok ([], s)
  | item :: rest => do
    let (n, s) ← number s item
    let (numbers, s) ← numberItems s rest
    return (n :: numbers, s)

def numberPairs (s : Numbering) : List (Tree × Tree) → Except Fault (List (Nat × Nat) × Numbering)
  | [] => .ok ([], s)
  | (key, value) :: rest => do
    let (k, s) ← number s key
    let (v, s) ← number s value
    let (numbers, s) ← numberPairs s rest
    return ((k, v) :: numbers, s)

end

def ofTree (tree : Tree) : Except Fault Document := do
  let (root, s) ← number {} tree
  return ⟨s.nodes, root⟩

/-- The nodes that a merge refers to: a mapping, or a sequence of mappings, of which later ones come
first. -/
def mergeSources (d : Document) (n : Nat) : Except Fault (List Nat) :=
  match d.content? n with
  | some (.mapping _) => .ok [n]
  | some (.sequence items) =>
    if items.all d.isMapping then .ok items.reverse else .error .wrongKind
  | _ => .error .wrongKind

/-- The pairs of a mapping, after those of the mappings merged into it. A mapping that is being
merged already adds nothing. -/
def mergedPairs (d : Document) : Nat → List Nat → Nat → Except Fault (List (Nat × Nat))
  | 0, _, _ => .ok []
  | fuel + 1, within, n =>
    match d.content? n with
    | some (.mapping pairs) => do
      if within.contains n then return []
      let isMerge (pair : Nat × Nat) : Bool := d.tag? pair.1 == some .merge
      let merged ← (pairs.filter isMerge).mapM fun (_, value) => do
        let sources ← d.mergeSources value
        let parts ← sources.mapM (d.mergedPairs fuel (n :: within))
        return parts.flatten
      return merged.flatten ++ pairs.filter fun pair => !isMerge pair
    | _ => .error .wrongKind

def pairsOf (d : Document) (n : Nat) : Except Fault (List (Nat × Nat)) :=
  d.mergedPairs (d.nodes.size + 1) [] n

def scalarText (d : Document) : Nat → Nat → Except Fault String
  | 0, _ => .error .wrongKind
  | fuel + 1, n =>
    match d.content? n with
    | some (.scalar text) => .ok text
    | some (.mapping pairs) =>
      match pairs.find? fun (key, _) => d.tag? key == some .defaultValue with
      | some (_, value) => d.scalarText fuel value
      | none => .error .wrongKind
    | _ => .error .wrongKind

end Document

end Liveness.Yaml

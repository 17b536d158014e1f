import Liveness.Yaml.Document
import Liveness.Yaml.Members

namespace Liveness.Yaml

inductive Value where
  | scalar (value : Scalar)
  | list (items : List Nat)
  | pairs (entries : List (Nat × Nat))
  | map (entries : List (Scalar × Nat))
  | set (members : List Scalar)
deriving DecidableEq, Inhabited

structure Values where
  nodes : Array (Option Value)
  root : Nat
deriving DecidableEq

inductive Item where
  | node (n : Nat)
  | pair (key value : Nat)

/-- Values found so far, and collections whose parts are still to be found. -/
structure Loading where
  nodes : Array (Option Value)
  pending : List Nat := []

namespace Loading

def value? (s : Loading) (n : Nat) : Option Value := (s.nodes[n]?).join

def fill (s : Loading) (n : Nat) (value : Value) : Loading :=
  { s with nodes := s.nodes.setIfInBounds n (some value) }

def postpone (s : Loading) (n : Nat) (placeholder : Value) : Loading :=
  let filled := s.fill n placeholder
  { filled with pending := filled.pending ++ [n] }

def visit (d : Document) (isKey : Bool) (s : Loading) (n : Nat) : Except Fault Loading :=
  if (s.value? n).isSome then .ok s
  else match d.tag? n with
    | none => .ok s
    | some .list => .ok (s.postpone n (.list []))
    | some .map => .ok (s.postpone n (.map []))
    | some .orderedMap | some .pairs => .ok (s.postpone n (.pairs []))
    | some .set => .ok (s.postpone n (.set []))
    | some tag => do
      let text ← d.scalarText (d.nodes.size + 1) n
      let value ← Scalar.ofText (if isKey ∧ tag = .defaultValue then .text else tag) text
      return s.fill n (.scalar value)

/-- Finds the values of pairs whose keys are scalars; the first of equal keys keeps its place, and
the last value counts. -/
def visitPairs (d : Document) (s : Loading) (entries : List (Scalar × Nat)) :
    List (Nat × Nat) → Except Fault (List (Scalar × Nat) × Loading)
  | [] => .ok (entries, s)
  | (key, value) :: rest => do
    let s ← s.visit d true key
    let some (.scalar k) := s.value? key | .error .collectionAsKey
    let s ← s.visit d false value
    let entries :=
      if entries.any fun entry => entry.1.sameKey k then
        entries.map fun entry => if entry.1.sameKey k then (entry.1, value) else entry
      else entries ++ [(k, value)]
    visitPairs d s entries rest

def visitSingles (d : Document) (s : Loading) :
    List Nat → Except Fault (List (Nat × Nat) × Loading)
  | [] => .ok ([], s)
  | item :: rest => do
    let some (.mapping [(key, value)]) := d.content? item | .error .wrongKind
    let s ← s.visit d false key
    let s ← s.visit d false value
    let (entries, s) ← visitSingles d s rest
    return ((key, value) :: entries, s)

def expand (d : Document) (s : Loading) (n : Nat) : Except Fault Loading :=
  match d.tag? n, d.content? n with
  | some .list, some (.sequence items) => do
    let s ← items.foldlM (visit d false) s
    return s.fill n (.list items)
  | some .orderedMap, some (.sequence items) | some .pairs, some (.sequence items) => do
    let (entries, s) ← s.visitSingles d items
    return s.fill n (.pairs entries)
  | some .map, some (.mapping _) => do
    let (entries, s) ← s.visitPairs d [] (← d.pairsOf n)
    return s.fill n (.map entries)
  | some .set, some (.mapping _) => do
    let (entries, s) ← s.visitPairs d [] (← d.pairsOf n)
    return s.fill n (.set (orderMembers (entries.map (·.1))))
  | _, _ => .error .wrongKind

/-- Expands collections in the order in which they were found; each is found once. -/
def expandAll (d : Document) : Nat → Loading → Except Fault Loading
  | 0, s => .ok s
  | fuel + 1, s =>
    match s.pending with
    | [] => .ok s
    | n :: rest => do
      let s ← Loading.expand d { s with pending := rest } n
      expandAll d fuel s

end Loading

def Values.ofDocument (d : Document) : Except Fault Values := do
  let start : Loading := { nodes := Array.replicate d.nodes.size none }
  let s ← start.visit d false d.root
  let s ← s.expandAll d (d.nodes.size + 1)
  return ⟨s.nodes, d.root⟩

def load (text : List Char) : Except Fault (Option Values) := do
  match ← parse text with
  | none => return none
  | some tree => return some (← Values.ofDocument (← Document.ofTree tree))

/-- What makes a document of a text, or nothing of a text without one. -/
abbrev Loader := List Char → Except Failure (Option Values)

def loader : Loader := fun text => (load text).mapError Fault.toFailure

namespace Values

def value? (v : Values) (n : Nat) : Option Value := (v.nodes[n]?).join

def get? (v : Values) (n : Nat) (key : String) : Option Nat :=
  match v.value? n with
  | some (.map entries) => entries.lookup (.text key)
  | _ => none

def items? (v : Values) (n : Nat) : Option (List Item) :=
  match v.value? n with
  | some (.list items) => some (items.map .node)
  | some (.pairs entries) => some (entries.map fun (key, value) => .pair key value)
  | _ => none

def joined (parts : List String) : String := ", ".intercalate parts

def shown (v : Values) : Nat → List Nat → Nat → Except Failure String
  | 0, _, _ => .ok ""
  | fuel + 1, within, n =>
    match v.value? n with
    | none => .ok ""
    | some (.scalar value) => value.shown
    | some (.list items) => do
      if within.contains n then return "[...]"
      let parts ← items.mapM (v.shown fuel (n :: within))
      return "[" ++ joined parts ++ "]"
    | some (.pairs entries) => do
      if within.contains n then return "[...]"
      let parts ← entries.mapM fun (key, value) => do
        let first ← v.shown fuel (n :: within) key
        return "(" ++ first ++ ", " ++ (← v.shown fuel (n :: within) value) ++ ")"
      return "[" ++ joined parts ++ "]"
    | some (.map entries) => do
      if within.contains n then return "\x7b...\x7d"
      let parts ← entries.mapM fun (key, value) => do
        return (← key.shown) ++ ": " ++ (← v.shown fuel (n :: within) value)
      return "\x7b" ++ joined parts ++ "\x7d"
    | some (.set members) => do
      if members.isEmpty then return "set()"
      return "\x7b" ++ joined (← members.mapM Scalar.shown) ++ "\x7d"

def fuel (v : Values) : Nat := v.nodes.size + 1

def textOf (v : Values) (n : Nat) : Except Failure String :=
  match v.value? n with
  | some (.scalar value) => value.toText
  | _ => v.shown v.fuel [] n

def itemText (v : Values) : Item → Except Failure String
  | .node n => v.textOf n
  | .pair key value => do
    let first ← v.shown v.fuel [] key
    return "(" ++ first ++ ", " ++ (← v.shown v.fuel [] value) ++ ")"

end Values

end Liveness.Yaml

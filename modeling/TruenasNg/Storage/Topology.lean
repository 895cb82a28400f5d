import TruenasNg.Library.Dictionary
import TruenasNg.Value

/-!
# The vdev tree of a pool

`_walk_topology_errors` fills a dictionary while it walks the vdev trees in preorder. Its
result is the insertion of the pool's disk leaves in visiting order.
-/

namespace TruenasNg

/-- `node["stats"]`: an absent counter reads as zero. -/
structure VdevStats where
  readErrors : Option Nat := none
  writeErrors : Option Nat := none
  checksumErrors : Option Nat := none
  fields : Obj := []

/-- A node of the topology; `none` stands for an absent or null field, and the rest of its
JSON object is in `fields`. -/
inductive VdevNode where
  | mk (type disk : Option String) (stats : Option VdevStats) (status : Option String)
      (children : Option (List VdevNode)) (fields : Obj := [])

structure ErrorCounts where
  read : Nat
  write : Nat
  checksum : Nat
  deriving DecidableEq, Repr

/-- What the walk records about a disk leaf. -/
structure LeafState where
  errors : ErrorCounts
  status : Option String
  deriving DecidableEq, Repr

/-- `pool["topology"]` by category; an absent or null category is an empty list. -/
abbrev Topology := List (String × List VdevNode)

def TOPOLOGY_CATEGORIES : List String := ["data", "cache", "log", "spare", "special", "dedup"]

def leafState (stats : Option VdevStats) (status : Option String) : LeafState :=
  let stats := stats.getD {}
  { errors := {
      read := stats.readErrors.getD 0
      write := stats.writeErrors.getD 0
      checksum := stats.checksumErrors.getD 0 }
    status := status }

/-- The name under which the walk records a node itself: that of a named DISK leaf. -/
def leafName (type disk : Option String) : Option String :=
  if type = some "DISK" then
    match disk with
    | some name => if name = "" then none else some name
    | none => none
  else none

mutual

def visit : VdevNode → Dictionary String LeafState → Dictionary String LeafState
  | .mk type disk stats status children _, result =>
    visitChildren children <|
      match leafName type disk with
      | some name => result.insert name (leafState stats status)
      | none => result

/-- `for child in node.get("children") or []`. -/
def visitChildren : Option (List VdevNode) → Dictionary String LeafState →
    Dictionary String LeafState
  | none, result => result
  | some children, result => visitAll children result

def visitAll : List VdevNode → Dictionary String LeafState → Dictionary String LeafState
  | [], result => result
  | node :: rest, result => visitAll rest (visit node result)

end

/-- `topology.get(category) or []`. -/
def categoryVdevs (topology : Topology) (category : String) : List VdevNode :=
  (topology.lookup category).getD []

/-- `_walk_topology_errors` on `pool.get("topology") or {}`. -/
def walkTopologyErrors (topology : Option Topology) : Dictionary String LeafState :=
  TOPOLOGY_CATEGORIES.foldl
    (fun result category => visitAll (categoryVdevs (topology.getD []) category) result) .empty

/-! ### The leaves in visiting order -/

mutual

def leaves : VdevNode → List (String × LeafState)
  | .mk type disk stats status children _ =>
    ((leafName type disk).map fun name => (name, leafState stats status)).toList ++
      childLeaves children

def childLeaves : Option (List VdevNode) → List (String × LeafState)
  | none => []
  | some children => allLeaves children

def allLeaves : List VdevNode → List (String × LeafState)
  | [] => []
  | node :: rest => leaves node ++ allLeaves rest

end

/-- The disk leaves of a pool, category by category and each vdev tree in preorder. -/
def topologyLeaves (topology : Option Topology) : List (String × LeafState) :=
  TOPOLOGY_CATEGORIES.flatMap fun category =>
    allLeaves (categoryVdevs (topology.getD []) category)

mutual

theorem visit_eq (node : VdevNode) (result : Dictionary String LeafState) :
    visit node result = result.insertAll (leaves node) := by
  obtain ⟨type, disk, stats, status, children, fields⟩ := node
  rw [visit, leaves, Dictionary.insertAll_append, visitChildren_eq]
  cases leafName type disk <;> rfl

theorem visitChildren_eq (children : Option (List VdevNode))
    (result : Dictionary String LeafState) :
    visitChildren children result = result.insertAll (childLeaves children) := by
  cases children with
  | none => rw [visitChildren, childLeaves]; rfl
  | some children => rw [visitChildren, childLeaves, visitAll_eq]

theorem visitAll_eq (nodes : List VdevNode) (result : Dictionary String LeafState) :
    visitAll nodes result = result.insertAll (allLeaves nodes) := by
  cases nodes with
  | nil => rw [visitAll, allLeaves]; rfl
  | cons node rest => rw [visitAll, allLeaves, Dictionary.insertAll_append, visit_eq, visitAll_eq]

end

/-- The walk keeps, for each name, the leaf visited last. -/
theorem get?_walkTopologyErrors (topology : Option Topology) (name : String) :
    (walkTopologyErrors topology).get? name = Dictionary.lastOf name (topologyLeaves topology) := by
  have folded : ∀ (categories : List String) (result : Dictionary String LeafState),
      categories.foldl (fun result category =>
        visitAll (categoryVdevs (topology.getD []) category) result) result =
      result.insertAll (categories.flatMap fun category =>
        allLeaves (categoryVdevs (topology.getD []) category)) := by
    intro categories
    -- the accumulator is general, since each category continues where the last one stopped
    induction categories with
    | nil => exact fun _ => rfl
    | cons category rest ih =>
      intro result
      rw [List.foldl_cons, ih, visitAll_eq, List.flatMap_cons, Dictionary.insertAll_append]
  rw [walkTopologyErrors, folded, Dictionary.get?_insertAll, Dictionary.get?_empty, Option.or_none]
  rfl

end TruenasNg

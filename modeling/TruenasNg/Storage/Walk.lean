import TruenasNg.Library.Traversal
import TruenasNg.Records

/-!
# The topology walk is exact

The walk records the named DISK nodes of the six categories, at every depth, and nothing
else. Of several nodes with one name it keeps the one visited last.
-/

namespace TruenasNg

namespace VdevNode

def type : VdevNode → Option String
  | .mk type _ _ _ _ _ => type

def disk : VdevNode → Option String
  | .mk _ disk _ _ _ _ => disk

def stats : VdevNode → Option VdevStats
  | .mk _ _ stats _ _ _ => stats

def status : VdevNode → Option String
  | .mk _ _ _ status _ _ => status

def children : VdevNode → Option (List VdevNode)
  | .mk _ _ _ _ children _ => children

mutual

/-- A node and all nodes below it, each before its children. -/
def preorder : VdevNode → List VdevNode
  | .mk type disk stats status children fields =>
    .mk type disk stats status children fields :: childrenPreorder children

def childrenPreorder : Option (List VdevNode) → List VdevNode
  | none => []
  | some children => forestPreorder children

def forestPreorder : List VdevNode → List VdevNode
  | [] => []
  | node :: rest => preorder node ++ forestPreorder rest

end

theorem forestPreorder_eq (nodes : List VdevNode) :
    forestPreorder nodes = nodes.flatMap preorder :=
  Traversal.eq_flatMap (by rw [forestPreorder]) (fun _ _ => by rw [forestPreorder]) nodes

/-- The vdev trees as trees of nodes. -/
def traversal : Traversal VdevNode where
  children node := node.children.getD []
  preorder := preorder
  preorder_eq := by
    rintro ⟨type, disk, stats, status, children, fields⟩
    rw [preorder, VdevNode.children]
    cases children with
    | none => rfl
    | some children => rw [childrenPreorder, forestPreorder_eq, Option.getD_some]

/-- A DISK node with a non-empty disk name. -/
def Names (node : VdevNode) (name : String) : Prop :=
  name ≠ "" ∧ node.type = some "DISK" ∧ node.disk = some name

instance (node : VdevNode) (name : String) : Decidable (node.Names name) :=
  inferInstanceAs (Decidable (_ ∧ _ ∧ _))

/-- A counter of a node, zero when it is absent. -/
def counter (node : VdevNode) (field : VdevStats → Option Nat) : Nat :=
  (node.stats.bind field).getD 0

/-- The counters and the status of a node. -/
def state (node : VdevNode) : LeafState where
  errors := {
    read := node.counter VdevStats.readErrors
    write := node.counter VdevStats.writeErrors
    checksum := node.counter VdevStats.checksumErrors }
  status := node.status

/-- What the walk records at a node itself. -/
def leaf (node : VdevNode) : Option (String × LeafState) :=
  (leafName node.type node.disk).map fun name => (name, leafState node.stats node.status)

theorem leafState_eq (node : VdevNode) : leafState node.stats node.status = node.state := by
  rw [leafState, state, counter, counter, counter]
  cases node.stats <;> rfl

theorem leafName_eq_some_iff (node : VdevNode) (name : String) :
    leafName node.type node.disk = some name ↔ node.Names name := by
  unfold leafName Names
  split
  next isDisk =>
    cases disk : node.disk with
    | none => simp
    | some given =>
      by_cases empty : given = ""
      · simp only [empty, if_true, reduceCtorEq, Option.some.injEq, false_iff]
        exact fun names => names.1 names.2.2.symm
      · simp only [empty, if_false, isDisk, Option.some.injEq, true_and]
        exact ⟨fun same => ⟨same ▸ empty, same⟩, fun names => names.2⟩
  next other => simp [other]

/-- A node binds a name exactly when it is a DISK node of that name, and binds its own state. -/
theorem leaf_binds (name : String) (node : VdevNode) :
    (node.leaf.bind fun entry => if entry.1 = name then some entry.2 else none) =
      if decide (node.Names name) then some node.state else none := by
  rw [leaf, leafState_eq]
  by_cases names : node.Names name
  · simp [(node.leafName_eq_some_iff name).mpr names, names]
  · cases given : leafName node.type node.disk with
    | none => simp [names]
    | some other =>
      have different : other ≠ name := fun same =>
        names ((node.leafName_eq_some_iff name).mp (same ▸ given))
      simp [names, different]

end VdevNode

/-! ### The nodes in visiting order -/

/-- All nodes of a pool, category by category and each vdev tree in preorder. -/
def visitedNodes (topology : Option Topology) : List VdevNode :=
  TOPOLOGY_CATEGORIES.flatMap fun category =>
    VdevNode.traversal.forest (categoryVdevs (topology.getD []) category)

theorem allLeaves_eq_flatMap (nodes : List VdevNode) : allLeaves nodes = nodes.flatMap leaves :=
  Traversal.eq_flatMap (by rw [allLeaves]) (fun _ _ => by rw [allLeaves]) nodes

theorem leaves_eq (node : VdevNode) :
    leaves node = (VdevNode.traversal.preorder node).flatMap fun node => node.leaf.toList := by
  refine VdevNode.traversal.collect_eq ?_ node
  rintro ⟨type, disk, stats, status, children, fields⟩
  rw [leaves]
  cases children with
  | none => rfl
  | some children => rw [childLeaves, allLeaves_eq_flatMap]; rfl

theorem topologyLeaves_eq (topology : Option Topology) :
    topologyLeaves topology = (visitedNodes topology).filterMap VdevNode.leaf := by
  rw [List.filterMap_eq_flatMap_toList, visitedNodes, List.flatMap_assoc, topologyLeaves]
  simp only [Traversal.forest, List.flatMap_assoc, allLeaves_eq_flatMap, ← leaves_eq]

theorem mem_visitedNodes_iff (topology : Option Topology) (node : VdevNode) :
    node ∈ visitedNodes topology ↔
      ∃ category ∈ TOPOLOGY_CATEGORIES, ∃ vdev ∈ categoryVdevs (topology.getD []) category,
        VdevNode.traversal.Occurs node vdev := by
  simp only [visitedNodes, List.mem_flatMap, Traversal.mem_forest_iff]

/-- Of the nodes with one name the walk keeps the one visited last. -/
theorem get?_walkTopologyErrors_last (topology : Option Topology) (name : String) :
    (walkTopologyErrors topology).get? name =
      ((visitedNodes topology).filter (·.Names name)).getLast?.map VdevNode.state := by
  rw [get?_walkTopologyErrors, topologyLeaves_eq]
  exact Dictionary.lastOf_filterMap (VdevNode.leaf_binds name) _

theorem mem_keys_walkTopologyErrors (topology : Option Topology) (name : String) :
    name ∈ (walkTopologyErrors topology).keys ↔
      ∃ node ∈ visitedNodes topology, node.Names name := by
  have last := Dictionary.exists_last_iff (fun node => decide (VdevNode.Names node name))
    (visitedNodes topology)
  simp only [decide_eq_true_eq] at last
  rw [Dictionary.mem_keys_iff, get?_walkTopologyErrors_last, ← last]
  cases ((visitedNodes topology).filter (·.Names name)).getLast? <;> simp

theorem visit_eq_visitChildren {node : VdevNode} (unnamed : ∀ name, ¬node.Names name)
    (result : Dictionary String LeafState) :
    visit node result = visitChildren node.children result := by
  obtain ⟨type, disk, stats, status, children, fields⟩ := node
  have nothing : leafName type disk = none := by
    rw [Option.eq_none_iff_forall_ne_some]
    exact fun name given => unnamed name ((VdevNode.leafName_eq_some_iff _ name).mp given)
  rw [visit, nothing]
  rfl

/-- The keys of the walk are the non-empty disk names of the DISK nodes at any depth under
the six categories. A name stands for the counters and the status of its node visited last.
Any other node contributes no more than its children. -/
theorem walkTopologyErrors_exact (pool : Pool) :
    let categories := ["data", "cache", "log", "spare", "special", "dedup"]
    let visited := categories.flatMap fun category =>
      VdevNode.traversal.forest (categoryVdevs (pool.topology.getD []) category)
    (∀ name, name ∈ (walkTopologyErrors pool.topology).keys ↔
      ∃ category ∈ categories, ∃ vdev ∈ categoryVdevs (pool.topology.getD []) category,
        ∃ node, VdevNode.traversal.Occurs node vdev ∧ node.Names name) ∧
    (∀ name, (walkTopologyErrors pool.topology).get? name =
      (visited.filter (·.Names name)).getLast?.map VdevNode.state) ∧
    ∀ node : VdevNode, (∀ name, ¬node.Names name) → ∀ result,
      visit node result = visitChildren node.children result := by
  intro categories visited
  refine ⟨fun name => ?_, get?_walkTopologyErrors_last _, fun node unnamed result => ?_⟩
  · rw [mem_keys_walkTopologyErrors]
    constructor
    · rintro ⟨node, visited, names⟩
      obtain ⟨category, listed, vdev, member, inside⟩ := (mem_visitedNodes_iff _ _).mp visited
      exact ⟨category, listed, vdev, member, node, inside, names⟩
    · rintro ⟨category, listed, vdev, member, node, inside, names⟩
      have visited := (mem_visitedNodes_iff _ _).mpr ⟨category, listed, vdev, member, inside⟩
      exact ⟨node, visited, names⟩
  · exact visit_eq_visitChildren unnamed result

/-- The same disk as a leaf of a mirror and, with an error, as a hot spare. -/
def spareInUse : Pool where
  guid := "p"
  id := 1
  topology := some [
    ("data", [.mk (some "MIRROR") none none none (some [
      .mk (some "DISK") (some "sda") none (some "ONLINE") none,
      .mk (some "DISK") none none (some "UNAVAIL") none])]),
    ("spare", [.mk (some "DISK") (some "sda") (some { readErrors := some 3 }) (some "FAULTED")
      none])]

/-- The spare is visited last, and its missing counters read as zero. -/
theorem walkTopologyErrors_exact_spare :
    (walkTopologyErrors spareInUse.topology).get? "sda" =
      some ⟨⟨3, 0, 0⟩, some "FAULTED"⟩ := by
  rw [(walkTopologyErrors_exact spareInUse).2.1 "sda"]
  rfl

end TruenasNg

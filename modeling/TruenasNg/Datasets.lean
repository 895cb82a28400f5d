import TruenasNg.Coordinators
import TruenasNg.Library.Traversal

/-!
# Flattening the datasets

`pool.dataset.query` lists datasets as trees, as a flat list whose elements still carry
their children, or as a mixture. `DatasetCoordinator._fetch` turns any of them into one map
by id.
-/

namespace TruenasNg

open Program

namespace DatasetNode

def id : DatasetNode → String
  | .mk id _ _ => id

def children : DatasetNode → Option (List DatasetNode)
  | .mk _ _ children => children

mutual

/-- A dataset and all datasets below it, each before its children. -/
def preorder : DatasetNode → List DatasetNode
  | .mk id fields children => .mk id fields children :: childrenPreorder children

def childrenPreorder : Option (List DatasetNode) → List DatasetNode
  | none => []
  | some children => forestPreorder children

def forestPreorder : List DatasetNode → List DatasetNode
  | [] => []
  | node :: rest => preorder node ++ forestPreorder rest

end

theorem forestPreorder_eq (nodes : List DatasetNode) :
    forestPreorder nodes = nodes.flatMap preorder :=
  Traversal.eq_flatMap (by rw [forestPreorder]) (fun _ _ => by rw [forestPreorder]) nodes

/-- The datasets of a reply as trees of nodes. -/
def traversal : Traversal DatasetNode where
  children node := node.children.getD []
  preorder := preorder
  preorder_eq := by
    rintro ⟨id, fields, children⟩
    rw [preorder, DatasetNode.children]
    cases children with
    | none => rfl
    | some children => rw [childrenPreorder, forestPreorder_eq, Option.getD_some]

/-- A node stands at some depth of a reply. -/
def OccursIn (node : DatasetNode) (raw : List DatasetNode) : Prop :=
  ∃ root ∈ raw, traversal.Occurs node root

end DatasetNode

namespace DatasetCoordinator

theorem visitAll_eq_foldl (nodes : List DatasetNode) (flattened : Dictionary String DatasetNode) :
    visitAll nodes flattened =
      nodes.foldl (fun flattened node => visit node flattened) flattened := by
  induction nodes generalizing flattened with
  | nil => rfl
  | cons node rest ih => rw [visitAll, List.foldl_cons, ih]

theorem visit_eq (node : DatasetNode) (flattened : Dictionary String DatasetNode) :
    visit node flattened = (node.children.getD []).foldl
      (fun flattened child => visit child flattened) (flattened.insert node.id node) := by
  obtain ⟨id, fields, children⟩ := node
  rw [visit]
  cases children with
  | none => rfl
  | some children => exact visitAll_eq_foldl children _

/-- The walk sets every node of the reply under its id. -/
theorem visitAll_eq_insertAll (raw : List DatasetNode) :
    visitAll raw .empty = Dictionary.empty.insertAll
      ((DatasetNode.traversal.forest raw).map fun node => (node.id, node)) := by
  rw [visitAll_eq_foldl, DatasetNode.traversal.foldl_visit_eq visit_eq, Dictionary.insertAll,
    List.foldl_map]

/-- Of several datasets with one id the last in preorder counts. -/
theorem get?_visitAll (raw : List DatasetNode) (id : String) :
    (visitAll raw .empty).get? id =
      ((DatasetNode.traversal.forest raw).filter (·.id = id)).getLast? := by
  rw [visitAll_eq_insertAll]
  exact Dictionary.get?_keyed DatasetNode.id _ id

/-- The ids are those of all datasets of the forest. -/
theorem mem_keys_visitAll (raw : List DatasetNode) (id : String) :
    id ∈ (visitAll raw .empty).keys ↔ ∃ node : DatasetNode, node.OccursIn raw ∧ node.id = id := by
  have last := Dictionary.exists_last_iff (fun node => decide (DatasetNode.id node = id))
    (DatasetNode.traversal.forest raw)
  simp only [decide_eq_true_eq, Traversal.mem_forest_iff] at last
  rw [Dictionary.mem_keys_iff, get?_visitAll, last]
  rfl

/-- The listing style does not matter. -/
theorem get?_visitAll_eq {raw raw' : List DatasetNode}
    (equalIds : ∀ node node' : DatasetNode, node.OccursIn raw → node'.OccursIn raw →
      node.id = node'.id → node = node')
    (sameNodes : ∀ node : DatasetNode, node.OccursIn raw ↔ node.OccursIn raw') (id : String) :
    (visitAll raw .empty).get? id = (visitAll raw' .empty).get? id := by
  simp only [visitAll_eq_insertAll, Dictionary.get?_insertAll, Dictionary.get?_empty,
    Option.or_none]
  apply Dictionary.lastOf_eq_of_mem_iff
  · intro entry
    simp only [List.mem_map, Traversal.mem_forest_iff]
    exact exists_congr fun node => and_congr_left fun _ => sameNodes node
  · intro key node node' bound bound'
    obtain ⟨_, member, same⟩ := List.mem_map.mp bound
    obtain ⟨_, member', same'⟩ := List.mem_map.mp bound'
    obtain ⟨rfl, rfl⟩ := Prod.mk.inj same
    obtain ⟨ids, rfl⟩ := Prod.mk.inj same'
    rw [Traversal.mem_forest_iff] at member member'
    exact equalIds _ _ member member' ids.symm

def datasetQuery : Request := request "pool.dataset.query"
  [.list [], .dict [("extra", .dict [("snapshots_count", .bool true)])]]

/-- A `_fetch` whose query was answered with `raw` returned `flattened`. -/
def Fetched (env : Env Reply) (raw : List DatasetNode)
    (flattened : Dictionary String DatasetNode) : Prop :=
  ∃ w w', exec (TrueNASClient.call env datasetQuery) w = (.ok (.datasets raw), w') ∧
    exec (fetch env) w = (.ok flattened, w')

theorem exec_fetch {env : Env Reply} {w w' : World Reply} {raw : List DatasetNode}
    (answered : exec (TrueNASClient.call env datasetQuery) w = (.ok (.datasets raw), w')) :
    exec (fetch env) w = (.ok (visitAll raw .empty), w') := by
  have queries : fetch env = TrueNASClient.call env datasetQuery >>= fun raw =>
      liftExcept raw.asDatasets >>= fun datasets => pure (visitAll datasets .empty) := rfl
  rw [queries, exec_bind, answered]
  rfl

/-- What was fetched is the flattened reply. -/
theorem Fetched.eq {env : Env Reply} {raw : List DatasetNode}
    {flattened : Dictionary String DatasetNode} (fetched : Fetched env raw flattened) :
    flattened = visitAll raw .empty := by
  obtain ⟨w, w', answered, returned⟩ := fetched
  rw [exec_fetch answered] at returned
  exact (Except.ok.inj (Prod.mk.inj returned).1).symm

/-- A `_fetch` whose query is answered returns the map of all ids at every depth, each with
its node visited last. When nodes with equal ids are equal, replies with the same nodes
give equal maps, whatever their listing style. -/
theorem dataset_fetch_exact (env : Env Reply) :
    (∀ w w' raw, exec (TrueNASClient.call env datasetQuery) w = (.ok (.datasets raw), w') →
      ∃ flattened, exec (fetch env) w = (.ok flattened, w') ∧
        (∀ id, id ∈ flattened.keys ↔
          ∃ node : DatasetNode, node.OccursIn raw ∧ node.id = id) ∧
        ∀ id, flattened.get? id =
          ((DatasetNode.traversal.forest raw).filter (·.id = id)).getLast?) ∧
    ∀ env' raw raw' flattened flattened',
      Fetched env raw flattened → Fetched env' raw' flattened' →
      (∀ node node' : DatasetNode, node.OccursIn raw → node'.OccursIn raw →
        node.id = node'.id → node = node') →
      (∀ node : DatasetNode, node.OccursIn raw ↔ node.OccursIn raw') →
      ∀ id, flattened.get? id = flattened'.get? id := by
  constructor
  · intro w w' raw answered
    exact ⟨_, exec_fetch answered, mem_keys_visitAll raw, get?_visitAll raw⟩
  · intro env' raw raw' flattened flattened' fetched fetched' equalIds sameNodes id
    rw [fetched.eq, fetched'.eq]
    exact get?_visitAll_eq equalIds sameNodes id

/-- Surroundings that answer every request with one listing. -/
def listing (raw : List DatasetNode) : Env Reply := answering fun _ => .datasets raw

theorem fetched_listing (raw : List DatasetNode) :
    Fetched (listing raw) raw (visitAll raw .empty) := by
  obtain ⟨w', answered, _⟩ := exec_call_answering (fun _ => .datasets raw) datasetQuery {}
  exact ⟨{}, w', answered, exec_fetch answered⟩

def media : DatasetNode := .mk "tank/media" [] none

def tank : DatasetNode := .mk "tank" [] (some [media])

/-- A nested listing and a flat one whose elements still carry their children. -/
theorem nested_flat_agree :
    (visitAll [tank] .empty).get? "tank/media" =
      (visitAll [media, tank] .empty).get? "tank/media" := by
  have nested : ∀ node : DatasetNode, node.OccursIn [tank] ↔ node = tank ∨ node = media := by
    intro node
    rw [DatasetNode.OccursIn, ← Traversal.mem_forest_iff]
    exact List.mem_pair
  have flat : ∀ node : DatasetNode, node.OccursIn [media, tank] ↔
      node = tank ∨ node = media := by
    intro node
    rw [DatasetNode.OccursIn, ← Traversal.mem_forest_iff]
    show node ∈ [media, tank, media] ↔ _
    simp [or_comm]
  refine (dataset_fetch_exact (listing [tank])).2 (listing [media, tank]) _ _ _ _
    (fetched_listing _) (fetched_listing _) ?_ (fun node => (nested node).trans (flat node).symm) _
  intro node node' occurs occurs' ids
  have different : tank.id ≠ media.id := by decide
  rcases (nested node).mp occurs with rfl | rfl <;>
    rcases (nested node').mp occurs' with rfl | rfl
  · rfl
  · exact absurd ids different
  · exact absurd ids.symm different
  · rfl

end DatasetCoordinator

end TruenasNg

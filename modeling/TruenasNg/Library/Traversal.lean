import Mathlib.Algebra.Order.BigOperators.Group.List
import Mathlib.Algebra.Order.Group.Nat
import Mathlib.Logic.Relation

/-!
# Walking trees in preorder

Trees are given by the children of a node and by the preorder listing of a node and all
nodes below it. A recursive walk that handles a node before its children is a fold over
that listing.
-/

structure Traversal (ν : Type) where
  children : ν → List ν
  -- A node, and below it its children's listings from left to right
  preorder : ν → List ν
  preorder_eq : ∀ node, preorder node = node :: (children node).flatMap preorder

namespace Traversal

variable {ν : Type} (t : Traversal ν)

/-- The nodes of several trees, one tree after the other. -/
def forest (roots : List ν) : List ν := roots.flatMap t.preorder

/-- A node stands at some depth of a tree. -/
def Occurs (node root : ν) : Prop :=
  Relation.ReflTransGen (fun child parent => child ∈ t.children parent) node root

theorem length_child_lt {root child : ν} (member : child ∈ t.children root) :
    (t.preorder child).length < (t.preorder root).length := by
  rw [t.preorder_eq root, List.length_cons, List.length_flatMap]
  have counted : (t.preorder child).length ∈
      (t.children root).map fun node => (t.preorder node).length :=
    List.mem_map_of_mem (f := fun node => (t.preorder node).length) member
  have := List.le_sum_of_mem counted
  omega

/-- What passes from the children to their parent holds of every tree. -/
theorem induction {motive : ν → Prop}
    (step : ∀ root, (∀ child ∈ t.children root, motive child) → motive root) (root : ν) :
    motive root := by
  -- a child's listing is shorter than its parent's
  induction size : (t.preorder root).length using Nat.strongRecOn generalizing root with
  | _ n ih =>
    refine step root fun child member => ?_
    exact ih _ (size ▸ t.length_child_lt member) child rfl

/-! ### Every node once per occurrence -/

theorem mem_preorder_iff (node root : ν) : node ∈ t.preorder root ↔ t.Occurs node root := by
  induction root using t.induction with
  | step root ih =>
    rw [t.preorder_eq, List.mem_cons, List.mem_flatMap]
    constructor
    · rintro (rfl | ⟨child, member, listed⟩)
      · exact .refl
      · exact .tail ((ih child member).mp listed) member
    · intro occurs
      rcases Relation.ReflTransGen.cases_tail occurs with rfl | ⟨child, inside, member⟩
      · exact .inl rfl
      · exact .inr ⟨child, member, (ih child member).mpr inside⟩

theorem mem_forest_iff (node : ν) (roots : List ν) :
    node ∈ t.forest roots ↔ ∃ root ∈ roots, t.Occurs node root := by
  simp only [forest, List.mem_flatMap, mem_preorder_iff]

/-! ### Walks are folds -/

section Walk

variable {σ : Type} {visit step : ν → σ → σ}

theorem visit_eq_foldl
    (walks : ∀ node state, visit node state =
      (t.children node).foldl (fun state child => visit child state) (step node state))
    (node : ν) (state : σ) :
    visit node state = (t.preorder node).foldl (fun state node => step node state) state := by
  induction node using t.induction generalizing state with
  | step node ih =>
    rw [walks, t.preorder_eq, List.foldl_cons, List.foldl_flatMap]
    exact List.foldl_ext _ _ _ fun state child member => ih child member state

theorem foldl_visit_eq
    (walks : ∀ node state, visit node state =
      (t.children node).foldl (fun state child => visit child state) (step node state))
    (roots : List ν) (state : σ) :
    roots.foldl (fun state node => visit node state) state =
      (t.forest roots).foldl (fun state node => step node state) state := by
  rw [forest, List.foldl_flatMap]
  congr 1
  funext state node
  exact t.visit_eq_foldl walks node state

end Walk

/-- A listing that puts a node's own items before its children's. -/
theorem collect_eq {β : Type} {collect own : ν → List β}
    (collects : ∀ node, collect node = own node ++ (t.children node).flatMap collect) (node : ν) :
    collect node = (t.preorder node).flatMap own := by
  induction node using t.induction with
  | step node ih =>
    rw [collects, t.preorder_eq, List.flatMap_cons, List.flatMap_assoc]
    congr 1
    exact List.flatMap_congr ih

/-- A listing of several trees that takes one tree after the other. -/
theorem eq_flatMap {β : Type} {collectAll : List ν → List β} {collect : ν → List β}
    (nil : collectAll [] = [])
    (cons : ∀ node rest, collectAll (node :: rest) = collect node ++ collectAll rest)
    (nodes : List ν) : collectAll nodes = nodes.flatMap collect := by
  induction nodes with
  | nil => exact nil
  | cons node rest ih => rw [cons, List.flatMap_cons, ih]

end Traversal

import Constituency.Proofs.Tree.Leaves
import Mathlib.Data.List.Flatten

/-!
# Labels on the way to a normal tree

Splicing and collapsing take labels away and add none, and computing spans leaves them alone. Only
renaming brings new ones: where no branch has a label that is asked for, all labels stay, and every
request is left for the branches further up.
-/
namespace Constituency.Tree

/-! ### Splicing -/

theorem labels_spliced_sublist (flatten : LabelSet) (tree : Tree) :
    List.Sublist ((tree.spliced flatten).flatMap labels) tree.labels := by
  cases tree with
  | leaf token span => exact .refl _
  | branch label span children =>
    rw [spliced]
    split
    · rw [labels_branch]
      exact List.sublist_cons_self ..
    · rw [List.flatMap_singleton]

theorem labels_flattenLabels_sublist (flatten : LabelSet) (tree : Tree) :
    (tree.flattenLabels flatten).labels.Sublist tree.labels := by
  induction tree using Tree.children_induction with
  | leaf token span => exact .refl _
  | branch label span children ih =>
    rw [flattenLabels_branch, labels_branch, labels_branch, List.flatMap_assoc]
    refine (List.Sublist.flatMap_right children fun child member => ?_).cons_cons label
    exact (labels_spliced_sublist flatten _).trans (ih child member)

/-! ### Renaming -/

theorem serve_of_unasked {rounds : Nat} {label : String} {requests : List Rename}
    (unasked : ∀ rename ∈ requests, rename.old ≠ label) :
    serve rounds label requests = (label, requests) := by
  cases rounds with
  | zero => rfl
  | succ rounds =>
    have none : requests.find? (·.old == label) = none := by simpa using unasked
    rw [serve, none]

/-- What the leaves ask for. -/
def asks (renameFor : String → Option Rename) (leaf : Token × Span) : Option Rename :=
  renameFor leaf.1.tag

theorem serveChildren_of_unasked {renameFor : String → Option Rename} {children : List Tree}
    (each : ∀ child ∈ children,
      child.serveAll renameFor = (child, child.leaves.filterMap (asks renameFor))) :
    serveChildren renameFor children =
      (children, (children.flatMap leaves).filterMap (asks renameFor)) := by
  rw [serveChildren_eq, Prod.mk.injEq]
  constructor
  · rw [List.map_congr_left fun child member => congrArg Prod.fst (each child member), List.map_id']
  · rw [List.flatMap_congr fun child member => congrArg Prod.snd (each child member),
      List.filterMap_flatMap]

/-- Where no branch has a label that a leaf asks for, the tree stays and all requests are left. -/
theorem serveAll_of_unasked {renameFor : String → Option Rename} {tree : Tree}
    (unasked : ∀ leaf ∈ tree.leaves, ∀ rename, asks renameFor leaf = some rename →
      rename.old ∉ tree.labels) :
    tree.serveAll renameFor = (tree, tree.leaves.filterMap (asks renameFor)) := by
  induction tree using Tree.children_induction with
  | leaf token span =>
    rw [serveAll, leaves_leaf]
    cases found : renameFor token.tag <;> simp [asks, found]
  | branch label span children ih =>
    simp only [leaves_branch, labels_branch, List.mem_flatMap, List.mem_cons] at unasked
    have each : ∀ child ∈ children,
        child.serveAll renameFor = (child, child.leaves.filterMap (asks renameFor)) := by
      intro child member
      refine ih child member fun leaf inside rename found named => ?_
      exact unasked leaf ⟨child, member, inside⟩ rename found (.inr ⟨child, member, named⟩)
    -- All requests of the leaves come up, and none of them is for this branch either.
    rw [serveAll, serveChildren_of_unasked each, leaves_branch]
    dsimp only
    rw [serve_of_unasked]
    intro rename asked
    obtain ⟨leaf, inside, found⟩ := List.mem_filterMap.mp asked
    exact fun own => unasked leaf (List.mem_flatMap.mp inside) rename found (.inl own)

/-! ### Only children -/

theorem labels_collapse_sublist (tree : Tree) : tree.collapse.labels.Sublist tree.labels := by
  induction tree using Tree.children_induction with
  | leaf token span => exact .refl _
  | branch label span children ih =>
    by_cases only : children.length = 1
    · obtain ⟨child, rfl⟩ := List.length_eq_one_iff.mp only
      rw [collapse_only, labels_branch, List.flatMap_singleton]
      exact (ih child (List.mem_singleton_self child)).cons label
    · rw [collapse_branch only, labels_branch, labels_branch, List.flatMap_map]
      exact (List.Sublist.flatMap_right children ih).cons_cons label

/-! ### Spans -/

theorem labels_recomputeSpans (tree : Tree) : tree.recomputeSpans.labels = tree.labels := by
  induction tree using Tree.children_induction with
  | leaf token span => rfl
  | branch label span children ih =>
    rw [recomputeSpans_branch, labels_branch, labels_branch, List.flatMap_map]
    exact congrArg _ (List.flatMap_congr ih)

end Constituency.Tree

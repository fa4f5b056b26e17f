import Constituency.Proofs.Tree.Leaves
import Mathlib.Data.List.Forall2

/-!
# Collapsed chains

A branch with an only child spans what that child spans, once spans have been computed. So it makes
no difference whether chains are collapsed before or after that, on any tree. Neither the leaves
nor the words of a phrase list change, and of the branches just those below the root with an only
child go. What is left is a normal form, since collapsing makes no new only children.
-/
namespace Constituency

namespace Tree

/-! ### Spans -/

theorem coverOr_congr {span : Span} {children others : List Tree}
    (same : children.map Tree.span = others.map Tree.span) :
    coverOr span children = coverOr span others := by
  have first : children.head?.map Tree.span = others.head?.map Tree.span := by
    rw [← List.head?_map, same, List.head?_map]
  have last : children.getLast?.map Tree.span = others.getLast?.map Tree.span := by
    rw [← List.getLast?_map, same, List.getLast?_map]
  unfold coverOr
  cases head : children.head? <;> cases head' : others.head? <;>
    cases back : children.getLast? <;> cases back' : others.getLast? <;> simp_all

/-- Collapsing leaves a computed span as it is. -/
theorem span_collapse_recomputeSpans (tree : Tree) :
    tree.recomputeSpans.collapse.span = tree.recomputeSpans.span := by
  induction tree using Tree.children_induction with
  | leaf token span => rfl
  | branch label span children ih =>
    rw [recomputeSpans_branch]
    by_cases only : children.length = 1
    · obtain ⟨child, rfl⟩ := List.length_eq_one_iff.mp only
      -- A branch over an only child has its span.
      rw [List.map_singleton, collapse_only, ih child (List.mem_singleton_self child)]
      rfl
    · rw [collapse_branch (by simpa using only)]
      rfl

/-- A branch over collapsed children spans what it spans over the children themselves. -/
theorem recomputeSpans_branch_map_collapse {label : String} {span : Span} {children : List Tree}
    (each : ∀ child ∈ children, child.collapse.recomputeSpans = child.recomputeSpans.collapse) :
    (Tree.branch label span (children.map collapse)).recomputeSpans =
      .branch label (coverOr span (children.map recomputeSpans))
        ((children.map recomputeSpans).map collapse) := by
  have moved : (children.map collapse).map recomputeSpans =
      (children.map recomputeSpans).map collapse := by
    rw [List.map_map, List.map_map]
    exact List.map_congr_left each
  have spans : ((children.map recomputeSpans).map collapse).map Tree.span =
      (children.map recomputeSpans).map Tree.span := by
    rw [List.map_map, List.map_map, List.map_map]
    exact List.map_congr_left fun child _ => span_collapse_recomputeSpans child
  rw [recomputeSpans_branch, moved, coverOr_congr spans]

theorem recomputeSpans_collapse (tree : Tree) :
    tree.collapse.recomputeSpans = tree.recomputeSpans.collapse := by
  induction tree using Tree.children_induction with
  | leaf token span => rfl
  | branch label span children ih =>
    by_cases only : children.length = 1
    · obtain ⟨child, rfl⟩ := List.length_eq_one_iff.mp only
      rw [collapse_only, ih child (List.mem_singleton_self child), recomputeSpans_branch,
        List.map_singleton, collapse_only]
    · rw [collapse_branch only, recomputeSpans_branch_map_collapse ih, recomputeSpans_branch,
        collapse_branch (by simpa using only)]

/-- Chains may be collapsed before or after spans are computed. -/
theorem recomputeSpans_elide (tree : Tree) :
    tree.elide.recomputeSpans = tree.recomputeSpans.elide := by
  cases tree with
  | leaf token span => rfl
  | branch label span children =>
    rw [elide_branch, recomputeSpans_branch_map_collapse fun child _ =>
      recomputeSpans_collapse child, recomputeSpans_branch, elide_branch]

end Tree

/-! ### Phrase lists -/

/-- The first list is the second one with some labels left out, and no word. -/
inductive FewerLabels : List PhraseEntry → List PhraseEntry → Prop
  | nil : FewerLabels [] []
  | keep (entry : PhraseEntry) {short full : List PhraseEntry} (rest : FewerLabels short full) :
    FewerLabels (entry :: short) (entry :: full)
  | leave (text : String) {short full : List PhraseEntry} (rest : FewerLabels short full) :
    FewerLabels short (.label text :: full)

namespace FewerLabels

variable {short full front back : List PhraseEntry}

theorem refl : (entries : List PhraseEntry) → FewerLabels entries entries
  | [] => .nil
  | entry :: rest => .keep entry (refl rest)

theorem append (first : FewerLabels short full) (second : FewerLabels front back) :
    FewerLabels (short ++ front) (full ++ back) := by
  induction first with
  | nil => exact second
  | keep entry _ ih => exact .keep entry ih
  | leave text _ ih => exact .leave text ih

theorem flatMap {α : Type} {f g : α → List PhraseEntry} {items : List α}
    (each : ∀ item ∈ items, FewerLabels (f item) (g item)) :
    FewerLabels (items.flatMap f) (items.flatMap g) := by
  induction items with
  | nil => exact .nil
  | cons item rest ih =>
    obtain ⟨here, later⟩ := List.forall_mem_cons.mp each
    exact here.append (ih later)

/-- The label of a branch can be left out. -/
theorem append_label (fewer : FewerLabels short full) (hidden : LabelSet) (label : String) :
    FewerLabels short (full ++ if hidden.contains label then [] else [.label label]) := by
  have left : FewerLabels [] (if hidden.contains label then [] else [.label label]) := by
    split
    · exact .nil
    · exact .leave label .nil
  simpa using fewer.append left

end FewerLabels

namespace Tree

theorem fewerLabels_entries_collapse (hidden : LabelSet) (tree : Tree) :
    FewerLabels (tree.collapse.entries hidden) (tree.entries hidden) := by
  induction tree using Tree.children_induction with
  | leaf token span => exact .refl _
  | branch label span children ih =>
    by_cases only : children.length = 1
    · obtain ⟨child, rfl⟩ := List.length_eq_one_iff.mp only
      rw [collapse_only, entries_branch, List.flatMap_singleton]
      exact (ih child (List.mem_singleton_self child)).append_label hidden label
    · rw [collapse_branch only, entries_branch, entries_branch, List.flatMap_map]
      exact (FewerLabels.flatMap ih).append (.refl _)

/-- One by one the phrases of a tree lose labels only when its chains are collapsed. -/
theorem fewerLabels_phrases_elide (hidden : LabelSet) (tree : Tree) :
    List.Forall₂ FewerLabels (tree.elide.phrases hidden) (tree.phrases hidden) := by
  cases tree with
  | leaf token span => exact .nil
  | branch label span children =>
    rw [elide_branch, phrases, phrases, Tree.children, Tree.children, List.map_map,
      List.forall₂_map_left_iff, List.forall₂_map_right_iff, List.forall₂_same]
    exact fun child _ => fewerLabels_entries_collapse hidden child

/-! ### The branches that stay -/

/-- The branches that a collapsed tree keeps, with what stands at them. -/
theorem headers_collapse (tree : Tree) : tree.collapse.headers =
    (tree.branches.filter fun branch => branch.children.length ≠ 1).filterMap header? := by
  induction tree using Tree.children_induction with
  | leaf token span => rfl
  | branch label span children ih =>
    by_cases only : children.length = 1
    · obtain ⟨child, rfl⟩ := List.length_eq_one_iff.mp only
      rw [collapse_only, branches_branch, List.filter_cons_of_neg (by simp [Tree.children]),
        List.flatMap_singleton]
      exact ih child (List.mem_singleton_self child)
    · have own : header? (.branch label span children) = some (label, span) := rfl
      rw [collapse_branch only, headers_branch, List.flatMap_map, branches_branch,
        List.filter_cons_of_pos (by simp [Tree.children, only]),
        List.filterMap_cons_some own, List.filter_flatMap, List.filterMap_flatMap]
      exact congrArg _ (List.flatMap_congr ih)

theorem several_of_mem_collapse {tree : Tree} :
    ∀ branch ∈ tree.collapse.branches, branch.children.length ≠ 1 := by
  induction tree using Tree.children_induction with
  | leaf token span => simp [collapse]
  | branch label span children ih =>
    by_cases only : children.length = 1
    · obtain ⟨child, rfl⟩ := List.length_eq_one_iff.mp only
      rw [collapse_only]
      exact ih child (List.mem_singleton_self child)
    · rw [collapse_branch only, branches_branch, List.forall_mem_cons]
      refine ⟨by simpa [Tree.children] using only, fun branch member => ?_⟩
      obtain ⟨child, inside, below⟩ := List.mem_flatMap.mp member
      obtain ⟨former, there, rfl⟩ := List.mem_map.mp inside
      exact ih former there branch below

/-- A tree without only children is not changed. -/
theorem collapse_of_several {tree : Tree}
    (several : ∀ branch ∈ tree.branches, branch.children.length ≠ 1) : tree.collapse = tree := by
  induction tree using Tree.children_induction with
  | leaf token span => rfl
  | branch label span children ih =>
    rw [branches_branch, List.forall_mem_cons] at several
    obtain ⟨here, below⟩ := several
    have each : ∀ child ∈ children, child.collapse = child := by
      intro child member
      apply ih child member
      exact fun branch inside => below branch (List.mem_flatMap.mpr ⟨child, member, inside⟩)
    have several : children.length ≠ 1 := here
    rw [collapse_branch several, List.map_congr_left each, List.map_id']

theorem children_elide (tree : Tree) : tree.elide.children = tree.children.map collapse := by
  cases tree with
  | leaf token span => rfl
  | branch label span children => rw [elide_branch, Tree.children, Tree.children]

theorem header?_elide (tree : Tree) : tree.elide.header? = tree.header? := by
  cases tree <;> rfl

theorem several_of_mem_inner_elide {tree : Tree} :
    ∀ branch ∈ tree.elide.inner, branch.children.length ≠ 1 := by
  intro branch member
  rw [inner, children_elide] at member
  obtain ⟨child, inside, below⟩ := List.mem_flatMap.mp member
  obtain ⟨former, -, rfl⟩ := List.mem_map.mp inside
  exact several_of_mem_collapse branch below

/-- A tree without only children below its root is not changed either. -/
theorem elide_of_several {tree : Tree}
    (several : ∀ branch ∈ tree.inner, branch.children.length ≠ 1) : tree.elide = tree := by
  cases tree with
  | leaf token span => rfl
  | branch label span children =>
    have each : ∀ child ∈ children, child.collapse = child := fun child member =>
      collapse_of_several fun branch below =>
        several branch (List.mem_flatMap.mpr ⟨child, member, below⟩)
    rw [elide_branch, List.map_congr_left each, List.map_id']

/-- Below the root just the branches without an only child stay, in their order. -/
theorem headers_elide (tree : Tree) : tree.elide.headers = tree.header?.toList ++
    (tree.inner.filter fun branch => branch.children.length ≠ 1).filterMap header? := by
  cases tree with
  | leaf token span => rfl
  | branch label span children =>
    rw [elide_branch, headers_branch, List.flatMap_map, inner, Tree.children, List.filter_flatMap,
      List.filterMap_flatMap]
    exact congrArg _ (List.flatMap_congr fun child _ => headers_collapse child)

/--
Collapsing chains brings a tree into a normal form. The leaves stay as they are, and so does what
stands at the root. The branches are the root and the former branches below it without an only
child, in the same order and each with its label and span. So no branch below the root has an only
child, collapsing again changes nothing, and spans may be computed before or after.
-/
theorem elide_normalizes (tree : Tree) :
    tree.elide.leaves = tree.leaves ∧ tree.elide.header? = tree.header? ∧
    tree.elide.headers = tree.header?.toList ++
      (tree.inner.filter fun branch => branch.children.length ≠ 1).filterMap header? ∧
    (∀ branch ∈ tree.elide.inner, branch.children.length ≠ 1) ∧
    tree.elide.elide = tree.elide ∧ tree.elide.recomputeSpans = tree.recomputeSpans.elide :=
  ⟨leaves_elide tree, header?_elide tree, headers_elide tree, several_of_mem_inner_elide,
    elide_of_several several_of_mem_inner_elide, recomputeSpans_elide tree⟩

end Tree

end Constituency

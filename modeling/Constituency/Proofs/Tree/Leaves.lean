import Constituency.Proofs.Tree.Children
import Mathlib.Data.List.Basic

/-!
# Leaves on the way to a normal tree

Every step to a normal tree keeps the leaves in their order; only the first one takes something
away, the sentence-final leaf at the end. A tree is filled if none of its branches is without
children. The steps keep the trees below the root filled, whatever they drop, splice or collapse.
-/
namespace Constituency

/-- A list without its last entry, if that is final. -/
def dropFinal {α : Type} (isFinal : α → Bool) (entries : List α) : List α :=
  if entries.getLast?.any isFinal then entries.dropLast else entries

section DropFinal

variable {α : Type} {isFinal : α → Bool}

theorem dropFinal_concat {front : List α} {last : α} :
    dropFinal isFinal (front ++ [last]) =
      if isFinal last then front else front ++ [last] := by
  simp [dropFinal]

theorem dropFinal_append {front back : List α} (some : back ≠ []) :
    dropFinal isFinal (front ++ back) = front ++ dropFinal isFinal back := by
  obtain ⟨back, last, rfl⟩ := (List.eq_nil_or_concat' back).resolve_left some
  rw [← List.append_assoc, dropFinal_concat, dropFinal_concat]
  split
  · rfl
  · rw [List.append_assoc]

theorem dropFinal_sublist (isFinal : α → Bool) (entries : List α) :
    (dropFinal isFinal entries).Sublist entries := by
  rw [dropFinal]
  split
  · exact List.dropLast_sublist entries
  · exact .refl entries

end DropFinal

/-- Whether a leaf ends the sentence. -/
def isFinalLeaf (leaf : Token × Span) : Bool := leaf.1.isSentenceFinal

namespace Tree

/-- Whether each branch has children. -/
def Filled (tree : Tree) : Prop := ∀ branch ∈ tree.branches, branch.children ≠ []

@[simp] theorem filled_leaf (token : Token) (span : Span) : (Tree.leaf token span).Filled := by
  simp [Filled]

@[simp] theorem filled_branch {label : String} {span : Span} {children : List Tree} :
    (Tree.branch label span children).Filled ↔
      children ≠ [] ∧ ∀ child ∈ children, child.Filled := by
  simp only [Filled, branches_branch, List.forall_mem_cons, List.mem_flatMap, Tree.children]
  refine and_congr_right fun _ => ⟨fun all child member branch below => ?_, ?_⟩
  · exact all branch ⟨child, member, below⟩
  · rintro all branch ⟨child, member, below⟩
    exact all child member branch below

theorem Filled.leaves_ne_nil {tree : Tree} (filled : tree.Filled) : tree.leaves ≠ [] := by
  induction tree using Tree.children_induction with
  | leaf token span => simp
  | branch label span children ih =>
    obtain ⟨some, below⟩ := filled_branch.mp filled
    obtain ⟨child, rest, rfl⟩ := List.exists_cons_of_ne_nil some
    have first := ih child (List.mem_cons_self ..) (below child (List.mem_cons_self ..))
    simp [first]

/-- Whether each branch below the root has children. -/
def FilledBelow (tree : Tree) : Prop := ∀ child ∈ tree.children, child.Filled

theorem Filled.below {tree : Tree} (filled : tree.Filled) : tree.FilledBelow := by
  cases tree with
  | leaf token span => simp [FilledBelow, Tree.children]
  | branch label span children => exact (filled_branch.mp filled).2

/-! ### The end of the sentence -/

theorem leaves_withoutFinal {tree : Tree} (filled : tree.Filled) :
    tree.withoutFinal.toList.flatMap leaves = dropFinal isFinalLeaf tree.leaves := by
  induction tree using Tree.children_induction with
  | leaf token span =>
    have alone : dropFinal isFinalLeaf ([] ++ [(token, span)]) = _ := dropFinal_concat
    rw [List.nil_append] at alone
    rw [withoutFinal, leaves_leaf, alone, isFinalLeaf]
    cases token.isSentenceFinal <;> simp
  | branch label span children ih =>
    -- Only the last child changes, and it has a leaf, so the last leaf of all is one of its own.
    obtain ⟨some, below⟩ := filled_branch.mp filled
    obtain ⟨front, last, rfl⟩ := (List.eq_nil_or_concat' children).resolve_left some
    have lastMember : last ∈ front ++ [last] := by simp
    have lastFilled := below last lastMember
    have dropped := ih last lastMember lastFilled
    rw [withoutFinal_branch some, leaves_branch, List.flatMap_append, List.flatMap_singleton,
      dropFinal_append lastFilled.leaves_ne_nil, ← dropped, ← List.flatMap_append,
      ← withoutFinalAll_append]
    split
    next none => simp [none]
    next kept => simp

theorem filled_of_mem_withoutFinal {tree kept : Tree} (filled : tree.Filled)
    (member : kept ∈ tree.withoutFinal) : kept.Filled := by
  induction tree using Tree.children_induction generalizing kept with
  | leaf token span =>
    obtain ⟨-, rfl⟩ := mem_withoutFinal_leaf.mp member
    exact filled_leaf token span
  | branch label span children ih =>
    obtain ⟨some, below⟩ := filled_branch.mp filled
    obtain ⟨front, last, rfl⟩ := (List.eq_nil_or_concat' children).resolve_left some
    obtain ⟨left, rfl⟩ := (mem_withoutFinal_branch some).mp member
    refine filled_branch.mpr ⟨left, fun child inside => ?_⟩
    rw [withoutFinalAll_append, List.mem_append, Option.mem_toList] at inside
    rcases inside with before | final
    · exact below child (by simp [before])
    · exact ih last (by simp) (below last (by simp)) final

theorem leaves_dropSentenceEnd {label : String} {span : Span} {children : List Tree}
    (filled : (Tree.branch label span children).FilledBelow) :
    (Tree.branch label span children).dropSentenceEnd.leaves =
      dropFinal isFinalLeaf (Tree.branch label span children).leaves := by
  rcases List.eq_nil_or_concat' children with rfl | ⟨front, last, rfl⟩
  · rfl
  · have lastFilled := filled last (by simp [Tree.children])
    rw [dropSentenceEnd, leaves_branch, leaves_branch, withoutFinalAll_append, List.flatMap_append,
      leaves_withoutFinal lastFilled, List.flatMap_append, List.flatMap_singleton,
      dropFinal_append lastFilled.leaves_ne_nil]

theorem filled_of_mem_withoutFinalAll {children : List Tree} {kept : Tree}
    (filled : ∀ child ∈ children, child.Filled) (member : kept ∈ withoutFinalAll children) :
    kept.Filled := by
  rcases List.eq_nil_or_concat' children with rfl | ⟨front, last, rfl⟩
  · contradiction
  · rw [withoutFinalAll_append, List.mem_append, Option.mem_toList] at member
    rcases member with before | final
    · exact filled kept (by simp [before])
    · exact filled_of_mem_withoutFinal (filled last (by simp)) final

/-! ### Splicing -/

@[simp] theorem flatMap_leaves_spliced (labels : LabelSet) (tree : Tree) :
    (tree.spliced labels).flatMap leaves = tree.leaves := by
  cases tree with
  | leaf token span => simp [spliced]
  | branch label span children =>
    rw [spliced]
    split <;> simp

theorem leaves_flattenLabels (labels : LabelSet) (tree : Tree) :
    (tree.flattenLabels labels).leaves = tree.leaves := by
  induction tree using Tree.children_induction with
  | leaf token span => rfl
  | branch label span children ih =>
    rw [flattenLabels_branch, leaves_branch, leaves_branch, List.flatMap_assoc]
    refine List.flatMap_congr fun child member => ?_
    rw [flatMap_leaves_spliced, ih child member]

theorem Filled.spliced {labels : LabelSet} {tree : Tree} (filled : tree.Filled) :
    tree.spliced labels ≠ [] ∧ ∀ child ∈ tree.spliced labels, child.Filled := by
  cases tree with
  | leaf token span => simp [Tree.spliced]
  | branch label span children =>
    rw [Tree.spliced]
    split
    · exact filled_branch.mp filled
    · simpa using filled_branch.mp filled

theorem Filled.flattenLabels {labels : LabelSet} {tree : Tree} (filled : tree.Filled) :
    (tree.flattenLabels labels).Filled := by
  induction tree using Tree.children_induction with
  | leaf token span => exact filled_leaf token span
  | branch label span children ih =>
    obtain ⟨some, below⟩ := filled_branch.mp filled
    rw [flattenLabels_branch, filled_branch]
    constructor
    · obtain ⟨child, rest, rfl⟩ := List.exists_cons_of_ne_nil some
      have first := ih child (List.mem_cons_self ..) (below child (List.mem_cons_self ..))
      have nonempty : (child.flattenLabels labels).spliced labels ≠ [] := first.spliced.1
      simp [nonempty]
    · intro child member
      obtain ⟨former, inside, spliced⟩ := List.mem_flatMap.mp member
      exact (ih former inside (below former inside)).spliced.2 child spliced

/-! ### Renaming -/

theorem leaves_serveAll (renameFor : String → Option Rename) (tree : Tree) :
    (tree.serveAll renameFor).1.leaves = tree.leaves := by
  induction tree using Tree.children_induction with
  | leaf token span => rfl
  | branch label span children ih =>
    rw [serveAll, serveChildren_eq]
    dsimp only
    rw [leaves_branch, leaves_branch, List.flatMap_map]
    exact List.flatMap_congr ih

theorem Filled.serveAll {renameFor : String → Option Rename} {tree : Tree}
    (filled : tree.Filled) : (tree.serveAll renameFor).1.Filled := by
  induction tree using Tree.children_induction with
  | leaf token span => exact filled_leaf token span
  | branch label span children ih =>
    obtain ⟨some, below⟩ := filled_branch.mp filled
    rw [Tree.serveAll, serveChildren_eq]
    dsimp only
    rw [filled_branch, ne_eq, List.map_eq_nil_iff]
    exact ⟨some, List.forall_mem_map.mpr fun child member => ih child member (below child member)⟩

/-! ### Only children -/

theorem leaves_collapse (tree : Tree) : tree.collapse.leaves = tree.leaves := by
  induction tree using Tree.children_induction with
  | leaf token span => rfl
  | branch label span children ih =>
    by_cases only : children.length = 1
    · obtain ⟨child, rfl⟩ := List.length_eq_one_iff.mp only
      rw [collapse_only, ih child (List.mem_singleton_self child)]
      simp
    · rw [collapse_branch only, leaves_branch, leaves_branch, List.flatMap_map]
      exact List.flatMap_congr ih

theorem leaves_elide (tree : Tree) : tree.elide.leaves = tree.leaves := by
  cases tree with
  | leaf token span => rfl
  | branch label span children =>
    rw [elide_branch, leaves_branch, leaves_branch, List.flatMap_map]
    exact List.flatMap_congr fun child _ => leaves_collapse child

theorem Filled.collapse {tree : Tree} (filled : tree.Filled) : tree.collapse.Filled := by
  induction tree using Tree.children_induction with
  | leaf token span => exact filled_leaf token span
  | branch label span children ih =>
    obtain ⟨some, below⟩ := filled_branch.mp filled
    by_cases only : children.length = 1
    · obtain ⟨child, rfl⟩ := List.length_eq_one_iff.mp only
      have member := List.mem_singleton_self child
      rw [collapse_only]
      exact ih child member (below child member)
    · rw [collapse_branch only, filled_branch, ne_eq, List.map_eq_nil_iff]
      exact ⟨some, List.forall_mem_map.mpr fun child member => ih child member (below child member)⟩

/-! ### Spans -/

theorem leaves_recomputeSpans (tree : Tree) : tree.recomputeSpans.leaves = tree.leaves := by
  induction tree using Tree.children_induction with
  | leaf token span => rfl
  | branch label span children ih =>
    rw [recomputeSpans_branch, leaves_branch, leaves_branch, List.flatMap_map]
    exact List.flatMap_congr ih

theorem Filled.recomputeSpans {tree : Tree} (filled : tree.Filled) :
    tree.recomputeSpans.Filled := by
  induction tree using Tree.children_induction with
  | leaf token span => exact filled_leaf token span
  | branch label span children ih =>
    obtain ⟨some, below⟩ := filled_branch.mp filled
    rw [recomputeSpans_branch, filled_branch, ne_eq, List.map_eq_nil_iff]
    exact ⟨some, List.forall_mem_map.mpr fun child member => ih child member (below child member)⟩

/-! ### Normal trees -/

namespace FilledBelow

variable {tree : Tree}

theorem dropSentenceEnd (filled : tree.FilledBelow) : tree.dropSentenceEnd.FilledBelow := by
  cases tree with
  | leaf token span => exact filled
  | branch label span children => exact fun child => filled_of_mem_withoutFinalAll filled

theorem flattenLabels {labels : LabelSet} (filled : tree.FilledBelow) :
    (tree.flattenLabels labels).FilledBelow := by
  cases tree with
  | leaf token span => exact filled
  | branch label span children =>
    intro child member
    rw [flattenLabels_branch] at member
    obtain ⟨former, inside, spliced⟩ := List.mem_flatMap.mp member
    exact (filled former inside).flattenLabels.spliced.2 child spliced

theorem remapLabels {table : TagTable} (filled : tree.FilledBelow) :
    (tree.remapLabels table).FilledBelow := by
  cases tree with
  | leaf token span => exact filled
  | branch label span children =>
    rw [Tree.remapLabels, serveAll, serveChildren_eq]
    exact List.forall_mem_map.mpr fun child member => (filled child member).serveAll

theorem elide (filled : tree.FilledBelow) : tree.elide.FilledBelow := by
  cases tree with
  | leaf token span => exact filled
  | branch label span children =>
    rw [elide_branch]
    exact List.forall_mem_map.mpr fun child member => (filled child member).collapse

theorem recomputeSpans (filled : tree.FilledBelow) : tree.recomputeSpans.FilledBelow := by
  cases tree with
  | leaf token span => exact filled
  | branch label span children =>
    rw [recomputeSpans_branch]
    exact List.forall_mem_map.mpr fun child member => (filled child member).recomputeSpans

end FilledBelow

/-- The form of a tree in front of the last step, which computes the spans. -/
def unspanned (flatten : LabelSet) (table : TagTable) (fullDetail : Bool) (tree : Tree) : Tree :=
  let tree := (tree.dropSentenceEnd.flattenLabels flatten).remapLabels table
  if fullDetail then tree else tree.elide

variable {flatten : LabelSet} {table : TagTable} {fullDetail : Bool}

theorem normalize_eq (tree : Tree) : tree.normalize flatten table fullDetail =
    (tree.unspanned flatten table fullDetail).recomputeSpans := rfl

theorem FilledBelow.unspanned {tree : Tree} (filled : tree.FilledBelow) (flatten : LabelSet)
    (table : TagTable) (fullDetail : Bool) :
    (tree.unspanned flatten table fullDetail).FilledBelow := by
  have remapped : ((tree.dropSentenceEnd.flattenLabels flatten).remapLabels table).FilledBelow :=
    filled.dropSentenceEnd.flattenLabels.remapLabels
  rw [Tree.unspanned]
  split
  · exact remapped
  · exact remapped.elide

theorem leaves_unspanned {label : String} {span : Span} {children : List Tree}
    (filled : (Tree.branch label span children).FilledBelow) :
    ((Tree.branch label span children).unspanned flatten table fullDetail).leaves =
      dropFinal isFinalLeaf (Tree.branch label span children).leaves := by
  rw [unspanned, ← leaves_dropSentenceEnd filled]
  split
  · rw [remapLabels, leaves_serveAll, leaves_flattenLabels]
  · rw [leaves_elide, remapLabels, leaves_serveAll, leaves_flattenLabels]

end Tree

end Constituency

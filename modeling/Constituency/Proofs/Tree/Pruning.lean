import Constituency.Proofs.Tree.Address
import Constituency.Proofs.Tree.Renaming

/-!
# Branches emptied by the end of the sentence

When a sentence-final leaf at the end of a tree is dropped, a branch below the root goes with it
exactly if it has no other leaf. Only the last child of a branch can go, so every node that stays
keeps its address.
-/
namespace Constituency.Tree

/-- Whether a node stands above the leaf at `final`, or is that leaf, and has no other leaf. -/
def HasOnlyLeaf (tree : Tree) (final address : List Nat) : Prop :=
  address <+: final ∧ ∃ node, tree.node? address = some node ∧ node.leaves.length = 1

/--
Whether the leaf at `final` is taken from a tree together with the branches below the root that it
leaves empty, and nothing else happens.
-/
structure Prunes (tree pruned : Tree) (final : List Nat) : Prop where
  leaves : pruned.leaves = tree.leaves.dropLast
  gone : ∀ address, address ≠ [] → tree.HasOnlyLeaf final address → pruned.node? address = none
  kept : ∀ address, address = [] ∨ ¬ tree.HasOnlyLeaf final address →
    (pruned.node? address).map bare = (tree.node? address).map bare

/-! ### The last leaf -/

theorem placedLeaves_ne_nil {tree : Tree} (filled : tree.Filled) : tree.placedLeaves ≠ [] := by
  intro none
  apply filled.leaves_ne_nil
  rw [← map_snd_placedLeaves, none, List.map_nil]

/-- The last leaf of a branch is the last one of its last child. -/
theorem exists_last_of_branch {label : String} {span : Span} {front : List Tree} {last : Tree}
    {final : List Nat} {leaf : Token × Span} (filled : last.Filled)
    (ends : (Tree.branch label span (front ++ [last])).placedLeaves.getLast? = some (final, leaf)) :
    ∃ below, last.placedLeaves.getLast? = some (below, leaf) ∧ final = front.length :: below := by
  have some : (last.placedLeaves.map fun leaf => (front.length :: leaf.1, leaf.2)) ≠ [] :=
    fun none => placedLeaves_ne_nil filled (List.map_eq_nil_iff.mp none)
  rw [placedLeaves_branch, gather_append_singleton, List.getLast?_append_of_ne_nil _ some,
    List.getLast?_map] at ends
  obtain ⟨⟨below, leaf⟩, there, same⟩ := Option.map_eq_some_iff.mp ends
  obtain ⟨rfl, rfl⟩ := Prod.mk.inj same
  exact ⟨below, there, rfl⟩

theorem hasOnlyLeaf_cons {label : String} {span : Span} {front : List Tree} {last : Tree}
    {final rest : List Nat} {index : Nat} :
    (Tree.branch label span (front ++ [last])).HasOnlyLeaf (front.length :: final) (index :: rest) ↔
      index = front.length ∧ last.HasOnlyLeaf final rest := by
  rw [HasOnlyLeaf, HasOnlyLeaf, List.cons_prefix_cons, and_assoc]
  refine and_congr_right ?_
  rintro rfl
  simp [Tree.children]

/-! ### The nodes that stay -/

section Node

variable {tree : Tree} {final : List Nat} {leaf : Token × Span}

theorem getLast?_leaves (last : tree.placedLeaves.getLast? = some (final, leaf)) :
    tree.leaves.getLast? = some leaf := by
  rw [← map_snd_placedLeaves, List.getLast?_map, last, Option.map_some]

/-- A node goes if the dropped leaf was its only one. -/
theorem withoutFinal_eq_none_iff (filled : tree.Filled) (last : tree.leaves.getLast? = some leaf)
    (ends : isFinalLeaf leaf = true) : tree.withoutFinal = none ↔ tree.leaves.length = 1 := by
  have left := leaves_withoutFinal filled
  rw [dropFinal, last, Option.any_some, if_pos ends] at left
  have count := congrArg List.length left
  rw [List.length_dropLast] at count
  have some := List.length_pos_iff.mpr filled.leaves_ne_nil
  constructor
  · intro none
    rw [none] at count
    simp only [Option.toList_none, List.flatMap_nil, List.length_nil] at count
    omega
  · intro only
    cases stays : tree.withoutFinal with
    | none => rfl
    | some kept =>
      -- What stays has a leaf as well, so there were two.
      have keptFilled := filled_of_mem_withoutFinal filled stays
      have more := List.length_pos_iff.mpr keptFilled.leaves_ne_nil
      rw [stays] at count
      simp only [Option.toList_some, List.flatMap_singleton] at count
      omega

theorem bare_of_mem_withoutFinal {kept : Tree} (filled : tree.Filled)
    (member : kept ∈ tree.withoutFinal) : kept.bare = tree.bare := by
  cases tree with
  | leaf token span =>
    obtain ⟨-, rfl⟩ := mem_withoutFinal_leaf.mp member
    rfl
  | branch label span children =>
    obtain ⟨-, rfl⟩ := (mem_withoutFinal_branch (filled_branch.mp filled).1).mp member
    rfl

/-- What is asked of the place `address` of a tree whose last leaf is dropped. -/
def PrunedAt (tree : Tree) (final : List Nat) (pruned : Option Tree) (address : List Nat) : Prop :=
  (tree.HasOnlyLeaf final address → pruned.bind (·.node? address) = none) ∧
    (¬ tree.HasOnlyLeaf final address →
      (pruned.bind (·.node? address)).map bare = (tree.node? address).map bare)

theorem prunedAt_nil (filled : tree.Filled)
    (last : tree.placedLeaves.getLast? = some (final, leaf)) (ends : isFinalLeaf leaf = true) :
    tree.PrunedAt final tree.withoutFinal [] := by
  have none := withoutFinal_eq_none_iff filled (getLast?_leaves last) ends
  have only : tree.HasOnlyLeaf final [] ↔ tree.withoutFinal = .none := by
    simp [HasOnlyLeaf, none]
  rw [PrunedAt, only]
  cases stays : tree.withoutFinal with
  | none => simp
  | some kept => simp [bare_of_mem_withoutFinal filled stays]

end Node

theorem getElem?_withoutFinalAll (front : List Tree) (last : Tree) (index : Nat) :
    (withoutFinalAll (front ++ [last]))[index]? =
      if index = front.length then last.withoutFinal else (front ++ [last])[index]? := by
  rw [withoutFinalAll_append]
  split
  next here =>
    subst here
    rw [List.getElem?_append_right (Nat.le_refl _), Nat.sub_self]
    cases last.withoutFinal <;> rfl
  next apart =>
    by_cases before : index < front.length
    · rw [List.getElem?_append_left before, List.getElem?_append_left before]
    · rw [List.getElem?_eq_none, List.getElem?_eq_none]
      · simp; omega
      · cases last.withoutFinal <;> simp <;> omega

/-- Below a branch only the last child is changed. -/
theorem prunedAt_child (label : String) (span : Span) (front : List Tree) {last : Tree}
    {final rest : List Nat} (below : last.PrunedAt final last.withoutFinal rest) (index : Nat) :
    (Tree.branch label span (front ++ [last])).PrunedAt (front.length :: final)
      (some (.branch label span (withoutFinalAll (front ++ [last])))) (index :: rest) := by
  rw [PrunedAt, hasOnlyLeaf_cons]
  simp only [Option.bind_some, node?_cons, Tree.children, getElem?_withoutFinalAll]
  by_cases here : index = front.length
  · subst here
    simpa [PrunedAt] using below
  · -- Any other child is as it was, and the last leaf is not below it.
    simp [here]

/-- Dropping the last leaf takes the nodes that have no other leaf, and all others stay. -/
theorem prunedAt_withoutFinal {tree : Tree} {final : List Nat} {leaf : Token × Span}
    (filled : tree.Filled) (last : tree.placedLeaves.getLast? = some (final, leaf))
    (ends : isFinalLeaf leaf = true) (address : List Nat) :
    tree.PrunedAt final tree.withoutFinal address := by
  induction tree using Tree.children_induction generalizing final address with
  | leaf token span =>
    cases address with
    | nil => exact prunedAt_nil filled last ends
    | cons index rest =>
      have gone := (withoutFinal_eq_none_iff filled (getLast?_leaves last) ends).mpr rfl
      rw [gone]
      exact ⟨fun _ => rfl, fun _ => rfl⟩
  | branch label span children ih =>
    cases address with
    | nil => exact prunedAt_nil filled last ends
    | cons index rest =>
      -- The last leaf is the last one of the last child, so the induction goes down there.
      obtain ⟨some, below⟩ := filled_branch.mp filled
      obtain ⟨front, node, rfl⟩ := (List.eq_nil_or_concat' children).resolve_left some
      have nodeFilled := below node (by simp)
      obtain ⟨final, there, rfl⟩ := exists_last_of_branch nodeFilled last
      have step := prunedAt_child label span front (ih node (by simp) nodeFilled there rest) index
      rw [withoutFinal_branch some]
      split
      next nothing =>
        -- A branch that goes has no children left, so nothing stands below it either way.
        simpa [PrunedAt, nothing, Tree.children] using step
      next => exact step

/-! ### The root -/

variable {label : String} {span : Span} {children : List Tree}

/-- The root stays even if nothing else does. -/
theorem prunes_dropSentenceEnd {final : List Nat} {leaf : Token × Span}
    (filled : (Tree.branch label span children).FilledBelow)
    (last : (Tree.branch label span children).placedLeaves.getLast? = some (final, leaf))
    (ends : isFinalLeaf leaf = true) : Prunes (Tree.branch label span children)
      (Tree.branch label span children).dropSentenceEnd final := by
  have lastLeaf := getLast?_leaves last
  have some : children ≠ [] := by
    rintro rfl
    contradiction
  obtain ⟨front, node, rfl⟩ := (List.eq_nil_or_concat' children).resolve_left some
  have nodeFilled := filled node (by simp [Tree.children])
  obtain ⟨final, there, rfl⟩ := exists_last_of_branch nodeFilled last
  have step := fun rest => prunedAt_child label span front
    (prunedAt_withoutFinal nodeFilled there ends rest)
  constructor
  · rw [leaves_dropSentenceEnd filled, dropFinal, lastLeaf, Option.any_some, if_pos ends]
  · intro address below only
    obtain ⟨index, rest, rfl⟩ := List.exists_cons_of_ne_nil below
    exact (step rest index).1 only
  · intro address stays
    cases address with
    | nil => rfl
    | cons index rest =>
      have other := stays.resolve_left (List.cons_ne_nil index rest)
      exact (step rest index).2 other

theorem dropSentenceEnd_of_inner (filled : (Tree.branch label span children).FilledBelow)
    (inner : (Tree.branch label span children).leaves.getLast?.any isFinalLeaf = false) :
    (Tree.branch label span children).dropSentenceEnd = .branch label span children := by
  have filled : ∀ child ∈ children, child.Filled := filled
  rw [dropSentenceEnd]
  rw [leaves_branch] at inner
  cases last : (children.flatMap leaves).getLast? with
  | none =>
    -- Without a leaf there are no children.
    rw [List.getLast?_eq_none_iff, List.flatMap_eq_nil_iff] at last
    have none : children = [] := by
      refine List.eq_nil_iff_forall_not_mem.mpr fun child member => ?_
      exact (filled child member).leaves_ne_nil (last child member)
    rw [none]
    rfl
  | some leaf =>
    rw [last, Option.any_some] at inner
    have kept := fun child member ends => withoutFinal_of_inner (filled child member) ends inner
    rw [withoutFinalAll_of_inner filled kept last]

/--
Dropping the end of a sentence from a tree without empty branches below the root: if the last leaf
is sentence-final, this leaf goes and so do just the branches below the root whose only leaf it was,
while every other node stays at its address with what stands there; otherwise nothing changes. No
branch below the root is left empty.
-/
theorem dropSentenceEnd_prunes (filled : (Tree.branch label span children).FilledBelow) :
    let tree := Tree.branch label span children
    (if tree.leaves.getLast?.any isFinalLeaf then
      ∃ final leaf, tree.placedLeaves.getLast? = some (final, leaf) ∧
        tree.node? final = some (.leaf leaf.1 leaf.2) ∧ Prunes tree tree.dropSentenceEnd final
    else tree.dropSentenceEnd = tree) ∧ tree.dropSentenceEnd.FilledBelow := by
  intro tree
  refine ⟨?_, filled.dropSentenceEnd⟩
  split
  next ends =>
    rw [← map_snd_placedLeaves, List.getLast?_map, Option.any_map] at ends
    obtain ⟨⟨final, leaf⟩, last, ends⟩ := (Option.any_eq_true _ _).mp ends
    exact ⟨final, leaf, last, node?_of_mem_placedLeaves (List.mem_of_getLast? last),
      prunes_dropSentenceEnd filled last ends⟩
  next inner => exact dropSentenceEnd_of_inner filled (Bool.not_eq_true _ ▸ inner)

/-- Two marks at the end: the second one stands alone in its branches, the first one does not. -/
def twoMarks : Tree :=
  .branch "Sentence" ⟨0, 3⟩ [.branch "Predicate" ⟨0, 1⟩ [.leaf ⟨"가요", "VV"⟩ ⟨0, 1⟩],
    .branch "End" ⟨1, 3⟩ [.leaf ⟨".", "SF"⟩ ⟨1, 2⟩,
      .branch "Marks" ⟨2, 3⟩ [.branch "Mark" ⟨2, 3⟩ [.leaf ⟨".", "SF"⟩ ⟨2, 3⟩]]]]

theorem dropSentenceEnd_prunes_twoMarks : twoMarks.FilledBelow ∧
    Prunes twoMarks twoMarks.dropSentenceEnd [1, 1, 0, 0] ∧
    twoMarks.dropSentenceEnd.FilledBelow := by
  have filled : twoMarks.FilledBelow := by simp [twoMarks, FilledBelow, Tree.children]
  obtain ⟨prunes, still⟩ := dropSentenceEnd_prunes filled
  have ends : twoMarks.leaves.getLast?.any isFinalLeaf = true := by decide
  rw [twoMarks] at ends
  rw [if_pos ends] at prunes
  obtain ⟨final, leaf, last, -, prunes⟩ := prunes
  obtain ⟨rfl, -⟩ := Prod.mk.inj (Option.some.inj last)
  exact ⟨filled, prunes, still⟩

end Constituency.Tree

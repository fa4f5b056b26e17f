import Constituency.Proofs.Tree.Children
import Mathlib.Data.List.Enum
import Mathlib.Data.List.Nodup

/-!
# Addresses

Equal nodes can stand at several places of a tree, so a place is told by an address: which child to
take at each branch on the way down from the root. A node stands above another one if its address
is a proper beginning of the other address.
-/
namespace Constituency.Tree

/-- The node at an address. -/
def node? (tree : Tree) : List Nat → Option Tree
  | [] => some tree
  | index :: rest => tree.children[index]?.bind fun child => child.node? rest

@[simp] theorem node?_nil (tree : Tree) : tree.node? [] = some tree := rfl

@[simp] theorem node?_cons (tree : Tree) (index : Nat) (rest : List Nat) :
    tree.node? (index :: rest) = tree.children[index]?.bind fun child => child.node? rest := rfl

/-- A node without its children. -/
def bare : Tree → Tree
  | .leaf token span => .leaf token span
  | .branch label span _ => .branch label span []

/-- Whether an address leads from one node further down to another. -/
def Above (upper lower : List Nat) : Prop := ∃ index rest, lower = upper ++ index :: rest

theorem not_above_nil (upper : List Nat) : ¬ Above upper [] := by
  rintro ⟨index, rest, same⟩
  simp at same

theorem above_nil_cons (index : Nat) (rest : List Nat) : Above [] (index :: rest) :=
  ⟨index, rest, rfl⟩

@[simp] theorem cons_above_cons {index other : Nat} {upper lower : List Nat} :
    Above (index :: upper) (other :: lower) ↔ other = index ∧ Above upper lower := by
  simp only [Above, List.cons_append, List.cons.injEq]
  grind

/-! ### What is found below the children -/

section Gather

variable {α : Type} {found : Tree → List (List Nat × α)} {children : List Tree}

/-- What is found at addresses in the children of a branch, with addresses from the branch on. -/
def gather (found : Tree → List (List Nat × α)) (children : List Tree) : List (List Nat × α) :=
  children.zipIdx.flatMap fun child =>
    (found child.1).map fun item => (child.2 :: item.1, item.2)

theorem mem_gather {address : List Nat} {what : α} : (address, what) ∈ gather found children ↔
    ∃ index child rest, children[index]? = some child ∧ (rest, what) ∈ found child ∧
      address = index :: rest := by
  simp only [gather, List.mem_flatMap, List.mem_map, Prod.exists, Prod.mk.injEq,
    List.mem_zipIdx_iff_getElem?]
  constructor
  · rintro ⟨child, index, there, rest, what, inside, rfl, rfl⟩
    exact ⟨index, child, rest, there, inside, rfl⟩
  · rintro ⟨index, child, rest, there, inside, rfl⟩
    exact ⟨child, index, there, rest, what, inside, rfl, rfl⟩

theorem map_snd_gather : (gather found children).map Prod.snd =
    children.flatMap fun child => (found child).map Prod.snd := by
  conv_rhs => rw [← List.zipIdx_map_fst 0 children, List.flatMap_map]
  simp only [gather, List.map_flatMap, List.map_map]
  rfl

theorem gather_append_singleton (front : List Tree) (last : Tree) :
    gather found (front ++ [last]) = gather found front ++
      (found last).map fun item => (front.length :: item.1, item.2) := by
  simp [gather, List.zipIdx_append]

/-- An address tells the child, so nothing is found twice. -/
theorem nodup_gather (each : ∀ child ∈ children, (found child).Nodup) :
    (gather found children).Nodup := by
  have indices : (children.zipIdx.map Prod.snd).Nodup := by
    rw [List.zipIdx_map_snd]
    exact List.nodup_range' ..
  refine List.nodup_flatMap.mpr ⟨fun child member => ?_, ?_⟩
  · -- Below one child all addresses get the same first step.
    refine (each child.1 (List.fst_mem_of_mem_zipIdx member)).map ?_
    rintro ⟨address, what⟩ ⟨address', what'⟩ same
    simpa using same
  · -- Below different children the first steps differ.
    refine (List.pairwise_map.mp indices).imp fun {child other} apart item here there => ?_
    obtain ⟨inside, -, rfl⟩ := List.mem_map.mp here
    obtain ⟨inside', -, same⟩ := List.mem_map.mp there
    exact apart (List.cons.inj (Prod.mk.inj same).1).1.symm

end Gather

/-! ### Leaves -/

mutual

/-- The leaves from left to right with their addresses. -/
def placedLeaves : Tree → List (List Nat × Token × Span)
  | .leaf token span => [([], token, span)]
  | .branch _ _ children => placedLeavesFrom 0 children

def placedLeavesFrom (index : Nat) : List Tree → List (List Nat × Token × Span)
  | [] => []
  | child :: rest =>
    child.placedLeaves.map (fun leaf => (index :: leaf.1, leaf.2)) ++
      placedLeavesFrom (index + 1) rest

end

theorem placedLeavesFrom_eq (index : Nat) (children : List Tree) :
    placedLeavesFrom index children = (children.zipIdx index).flatMap fun child =>
      child.1.placedLeaves.map fun leaf => (child.2 :: leaf.1, leaf.2) := by
  induction children generalizing index with
  | nil => rfl
  | cons child rest ih => rw [placedLeavesFrom, ih, List.zipIdx_cons, List.flatMap_cons]

@[simp] theorem placedLeaves_branch (label : String) (span : Span) (children : List Tree) :
    (Tree.branch label span children).placedLeaves = gather placedLeaves children := by
  rw [placedLeaves, placedLeavesFrom_eq, gather]

theorem map_snd_placedLeaves (tree : Tree) : tree.placedLeaves.map Prod.snd = tree.leaves := by
  induction tree using Tree.children_induction with
  | leaf token span => rfl
  | branch label span children ih =>
    rw [placedLeaves_branch, map_snd_gather, leaves_branch]
    exact List.flatMap_congr ih

theorem node?_of_mem_placedLeaves {tree : Tree} {address : List Nat} {leaf : Token × Span}
    (member : (address, leaf) ∈ tree.placedLeaves) :
    tree.node? address = some (.leaf leaf.1 leaf.2) := by
  induction tree using Tree.children_induction generalizing address with
  | leaf token span =>
    obtain ⟨rfl, rfl⟩ := Prod.mk.inj (List.mem_singleton.mp member)
    rfl
  | branch label span children ih =>
    rw [placedLeaves_branch] at member
    obtain ⟨index, child, rest, there, inside, rfl⟩ := mem_gather.mp member
    rw [node?_cons, Tree.children, there, Option.bind_some]
    exact ih child (List.mem_of_getElem? there) inside

end Constituency.Tree

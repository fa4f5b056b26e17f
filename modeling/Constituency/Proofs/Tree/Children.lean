import Constituency.Tree.Normal
import Constituency.Tree.Phrases

/-!
# Trees by their children

A function on trees is defined together with its twin on the children of a branch. Each twin is a
plain operation on lists, which is said here once. What holds of all trees is then proved by one
induction, whose step is given what holds of the children.
-/
namespace Constituency.Tree

@[elab_as_elim]
theorem children_induction {P : Tree → Prop} (leaf : ∀ token span, P (.leaf token span))
    (branch : ∀ label span children, (∀ child ∈ children, P child) →
      P (.branch label span children)) : ∀ tree, P tree
  | .leaf token span => leaf token span
  | .branch label span children =>
    branch label span children fun child _ => children_induction leaf branch child

/-! ### The branches of a tree -/

mutual

/-- The branches from the root on, each in front of those below it. -/
def branches : Tree → List Tree
  | .leaf .. => []
  | .branch label span children => .branch label span children :: branchesAll children

def branchesAll : List Tree → List Tree
  | [] => []
  | child :: rest => child.branches ++ branchesAll rest

end

theorem branchesAll_eq (children : List Tree) :
    branchesAll children = children.flatMap branches := by
  induction children with
  | nil => rfl
  | cons child rest ih => rw [branchesAll, ih, List.flatMap_cons]

@[simp] theorem branches_leaf (token : Token) (span : Span) :
    (Tree.leaf token span).branches = [] := rfl

@[simp] theorem branches_branch (label : String) (span : Span) (children : List Tree) :
    (Tree.branch label span children).branches =
      .branch label span children :: children.flatMap branches := by
  rw [branches, branchesAll_eq]

/-- The labels of the branches, each in front of those below it. -/
def labels (tree : Tree) : List String := tree.branches.filterMap label?

@[simp] theorem labels_leaf (token : Token) (span : Span) : (Tree.leaf token span).labels = [] :=
  rfl

@[simp] theorem labels_branch (label : String) (span : Span) (children : List Tree) :
    (Tree.branch label span children).labels = label :: children.flatMap labels := by
  have own : label? (.branch label span children) = some label := rfl
  rw [labels, branches_branch, List.filterMap_cons_some own, List.filterMap_flatMap]
  rfl

/-- The branches below the root. -/
def inner (tree : Tree) : List Tree := tree.children.flatMap branches

/-- The label and span of a branch. -/
def header? : Tree → Option (String × Span)
  | .leaf .. => none
  | .branch label span _ => some (label, span)

/-- What stands at the branches, each in front of those below it. -/
def headers (tree : Tree) : List (String × Span) := tree.branches.filterMap header?

@[simp] theorem headers_leaf (token : Token) (span : Span) :
    (Tree.leaf token span).headers = [] := rfl

@[simp] theorem headers_branch (label : String) (span : Span) (children : List Tree) :
    (Tree.branch label span children).headers = (label, span) :: children.flatMap headers := by
  have own : header? (.branch label span children) = some (label, span) := rfl
  rw [headers, branches_branch, List.filterMap_cons_some own, List.filterMap_flatMap]
  rfl

theorem filterMap_header?_inner (tree : Tree) :
    tree.inner.filterMap header? = tree.children.flatMap headers := List.filterMap_flatMap

/-! ### Leaves -/

theorem leavesAll_eq (children : List Tree) : leavesAll children = children.flatMap leaves := by
  induction children with
  | nil => rfl
  | cons child rest ih => rw [leavesAll, ih, List.flatMap_cons]

@[simp] theorem leaves_leaf (token : Token) (span : Span) :
    (Tree.leaf token span).leaves = [(token, span)] := rfl

@[simp] theorem leaves_branch (label : String) (span : Span) (children : List Tree) :
    (Tree.branch label span children).leaves = children.flatMap leaves := by
  rw [leaves, leavesAll_eq]

/-! ### The steps to a normal tree -/

theorem withoutFinalAll_append (front : List Tree) (last : Tree) :
    withoutFinalAll (front ++ [last]) = front ++ last.withoutFinal.toList := by
  induction front with
  | nil => simp [withoutFinalAll]
  | cons first front ih =>
    -- Something stands behind the first node, so it is not the last one.
    obtain ⟨next, rest, shape⟩ := List.exists_cons_of_ne_nil (l := front ++ [last]) (by simp)
    rw [List.cons_append, shape, withoutFinalAll, ← shape, ih, List.cons_append]
    simp

/-- A branch with children is dropped when its children are. -/
theorem withoutFinal_branch {label : String} {span : Span} {children : List Tree}
    (some : children ≠ []) : (Tree.branch label span children).withoutFinal =
      if withoutFinalAll children = [] then none
      else .some (.branch label span (withoutFinalAll children)) := by
  cases children with
  | nil => contradiction
  | cons child rest =>
    rw [withoutFinal]
    · split
      next none => rw [if_pos none]
      next kept => rw [if_neg kept]
    · exact List.cons_ne_nil child rest

theorem mem_withoutFinal_leaf {token : Token} {span : Span} {kept : Tree} :
    kept ∈ (Tree.leaf token span).withoutFinal ↔
      token.isSentenceFinal = false ∧ kept = .leaf token span := by
  rw [withoutFinal]
  cases token.isSentenceFinal <;> simp [eq_comm]

theorem mem_withoutFinal_branch {label : String} {span : Span} {children : List Tree} {kept : Tree}
    (some : children ≠ []) : kept ∈ (Tree.branch label span children).withoutFinal ↔
      withoutFinalAll children ≠ [] ∧ kept = .branch label span (withoutFinalAll children) := by
  rw [withoutFinal_branch some]
  split
  next none => simp [none]
  next left => simp [left, eq_comm]

theorem flattenLabelsAll_eq (labels : LabelSet) (children : List Tree) :
    flattenLabelsAll labels children =
      children.flatMap fun child => (child.flattenLabels labels).spliced labels := by
  induction children with
  | nil => rfl
  | cons child rest ih => rw [flattenLabelsAll, ih, List.flatMap_cons]

@[simp] theorem flattenLabels_branch (labels : LabelSet) (label : String) (span : Span)
    (children : List Tree) : (Tree.branch label span children).flattenLabels labels =
      .branch label span
        (children.flatMap fun child => (child.flattenLabels labels).spliced labels) := by
  rw [flattenLabels, flattenLabelsAll_eq]

theorem serveChildren_eq (renameFor : String → Option Rename) (children : List Tree) :
    serveChildren renameFor children = (children.map fun child => (child.serveAll renameFor).1,
      children.flatMap fun child => (child.serveAll renameFor).2) := by
  induction children with
  | nil => rfl
  | cons child rest ih => rw [serveChildren, ih, List.map_cons, List.flatMap_cons]

theorem collapseAll_eq (children : List Tree) : collapseAll children = children.map collapse := by
  induction children with
  | nil => rfl
  | cons child rest ih => rw [collapseAll, ih, List.map_cons]

@[simp] theorem collapse_only (label : String) (span : Span) (child : Tree) :
    (Tree.branch label span [child]).collapse = child.collapse := by
  rw [collapse]

theorem collapse_branch {label : String} {span : Span} {children : List Tree}
    (several : children.length ≠ 1) : (Tree.branch label span children).collapse =
      .branch label span (children.map collapse) := by
  rw [collapse, collapseAll_eq]
  rintro child rfl
  exact several rfl

@[simp] theorem elide_branch (label : String) (span : Span) (children : List Tree) :
    (Tree.branch label span children).elide = .branch label span (children.map collapse) := by
  rw [elide, collapseAll_eq]

theorem recomputeSpansAll_eq (children : List Tree) :
    recomputeSpansAll children = children.map recomputeSpans := by
  induction children with
  | nil => rfl
  | cons child rest ih => rw [recomputeSpansAll, ih, List.map_cons]

@[simp] theorem recomputeSpans_branch (label : String) (span : Span) (children : List Tree) :
    (Tree.branch label span children).recomputeSpans =
      .branch label (coverOr span (children.map recomputeSpans)) (children.map recomputeSpans) := by
  rw [recomputeSpans, recomputeSpansAll_eq]

/-! ### Phrase lists -/

theorem entriesAll_eq (hidden : LabelSet) (children : List Tree) :
    entriesAll hidden children = children.flatMap (entries hidden) := by
  induction children with
  | nil => rfl
  | cons child rest ih => rw [entriesAll, ih, List.flatMap_cons]

@[simp] theorem entries_branch (hidden : LabelSet) (label : String) (span : Span)
    (children : List Tree) : (Tree.branch label span children).entries hidden =
      children.flatMap (entries hidden) ++
        if hidden.contains label then [] else [.label label] := by
  rw [entries, entriesAll_eq]

end Constituency.Tree

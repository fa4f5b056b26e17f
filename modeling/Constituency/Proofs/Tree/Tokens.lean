import Constituency.Proofs.Tree.Children
import Mathlib.Data.List.Basic

/-!
# Trees with other tokens

Changing the tokens at the leaves of a tree leaves its shape, its labels and its spans alone. So
each step to the normal form does the same with the changed tree, as far as it asks the same of the
new tokens: whether a token ends a sentence, and which rename its tag asks for.
-/
namespace Constituency

/-- An entry with another token. -/
def PhraseEntry.mapTokens (change : Token → Token) : PhraseEntry → PhraseEntry
  | .word token => .word (change token)
  | .label text => .label text

namespace Tree

mutual

/-- The same tree with other tokens at its leaves. -/
def mapTokens (change : Token → Token) : Tree → Tree
  | .leaf token span => .leaf (change token) span
  | .branch label span children => .branch label span (mapTokensAll change children)

def mapTokensAll (change : Token → Token) : List Tree → List Tree
  | [] => []
  | child :: rest => child.mapTokens change :: mapTokensAll change rest

end

variable {change : Token → Token}

theorem mapTokensAll_eq (children : List Tree) :
    mapTokensAll change children = children.map (mapTokens change) := by
  induction children with
  | nil => rfl
  | cons child rest ih => rw [mapTokensAll, ih, List.map_cons]

@[simp] theorem mapTokens_leaf (token : Token) (span : Span) :
    (Tree.leaf token span).mapTokens change = .leaf (change token) span := by
  rw [mapTokens]

@[simp] theorem mapTokens_branch (label : String) (span : Span) (children : List Tree) :
    (Tree.branch label span children).mapTokens change =
      .branch label span (children.map (mapTokens change)) := by
  rw [mapTokens, mapTokensAll_eq]

theorem span_mapTokens (tree : Tree) : (tree.mapTokens change).span = tree.span := by
  cases tree <;> rfl

theorem mapTokens_id (tree : Tree) : tree.mapTokens id = tree := by
  induction tree using children_induction with
  | leaf token span => rfl
  | branch label span children ih =>
    rw [mapTokens_branch, List.map_congr_left ih, List.map_id']

/-! ### Tokens by their places -/

section Places

variable {change : Nat → Token → Token}

mutual

/-- The same tree with another token at each leaf, by the place of the leaf. -/
def reword (change : Nat → Token → Token) : Tree → Tree
  | .leaf token span => .leaf (change span.start token) span
  | .branch label span children => .branch label span (rewordAll change children)

def rewordAll (change : Nat → Token → Token) : List Tree → List Tree
  | [] => []
  | child :: rest => child.reword change :: rewordAll change rest

end

theorem rewordAll_eq (children : List Tree) :
    rewordAll change children = children.map (reword change) := by
  induction children with
  | nil => rfl
  | cons child rest ih => rw [rewordAll, ih, List.map_cons]

@[simp] theorem reword_branch (label : String) (span : Span) (children : List Tree) :
    (Tree.branch label span children).reword change =
      .branch label span (children.map (reword change)) := by
  rw [reword, rewordAll_eq]

theorem span_reword (tree : Tree) : (tree.reword change).span = tree.span := by
  cases tree <;> rfl

end Places

theorem reword_const (change : Token → Token) : reword (fun _ => change) = mapTokens change := by
  funext tree
  induction tree using children_induction with
  | leaf token span => rfl
  | branch label span children ih =>
    rw [reword_branch, mapTokens_branch, List.map_congr_left ih]

theorem reword_self : reword (fun _ token => token) = id :=
  (reword_const id).trans (funext mapTokens_id)

/-! ### The steps to a normal tree -/

/-- Only the last node is changed, so only its twin has to be. -/
theorem withoutFinalAll_map_of_forall {children : List Tree}
    (each : ∀ child ∈ children,
      (child.mapTokens change).withoutFinal = child.withoutFinal.map (mapTokens change)) :
    withoutFinalAll (children.map (mapTokens change)) =
      (withoutFinalAll children).map (mapTokens change) := by
  rcases List.eq_nil_or_concat' children with rfl | ⟨front, last, rfl⟩
  · rfl
  · have ends := each last (by simp)
    rw [List.map_append, List.map_singleton, withoutFinalAll_append, withoutFinalAll_append, ends,
      List.map_append]
    cases last.withoutFinal <;> rfl

section Final

variable (final : ∀ token, (change token).isSentenceFinal = token.isSentenceFinal)
include final

theorem withoutFinal_mapTokens (tree : Tree) :
    (tree.mapTokens change).withoutFinal = tree.withoutFinal.map (mapTokens change) := by
  induction tree using children_induction with
  | leaf token span =>
    rw [mapTokens_leaf, withoutFinal, withoutFinal, final]
    cases token.isSentenceFinal <;> simp
  | branch label span children ih =>
    rw [mapTokens_branch]
    by_cases none : children = []
    · subst none
      simp [withoutFinal]
    · have all := withoutFinalAll_map_of_forall ih
      rw [withoutFinal_branch none, withoutFinal_branch (by simpa using none), all]
      by_cases nothing : withoutFinalAll children = []
      · simp [nothing]
      · simp [nothing]

theorem dropSentenceEnd_mapTokens (tree : Tree) :
    (tree.mapTokens change).dropSentenceEnd = tree.dropSentenceEnd.mapTokens change := by
  cases tree with
  | leaf token span => rfl
  | branch label span children =>
    rw [mapTokens_branch, dropSentenceEnd, dropSentenceEnd, mapTokens_branch,
      withoutFinalAll_map_of_forall fun child _ => withoutFinal_mapTokens final child]

end Final

theorem spliced_mapTokens (labels : LabelSet) (tree : Tree) :
    (tree.mapTokens change).spliced labels = (tree.spliced labels).map (mapTokens change) := by
  cases tree with
  | leaf token span => simp [spliced]
  | branch label span children =>
    rw [mapTokens_branch, spliced, spliced]
    split <;> simp

theorem flattenLabels_mapTokens (labels : LabelSet) (tree : Tree) :
    (tree.mapTokens change).flattenLabels labels =
      (tree.flattenLabels labels).mapTokens change := by
  induction tree using children_induction with
  | leaf token span => rfl
  | branch label span children ih =>
    rw [mapTokens_branch, flattenLabels_branch, flattenLabels_branch, mapTokens_branch,
      List.flatMap_map, List.map_flatMap]
    congr 1
    apply List.flatMap_congr
    intro child member
    rw [ih child member, spliced_mapTokens]

/-- Nodes get the same names where the new tags ask for the same renames. -/
theorem serveAll_mapTokens {renameFor otherFor : String → Option Rename} {tree : Tree}
    (asked : ∀ leaf ∈ tree.leaves, otherFor (change leaf.1).tag = renameFor leaf.1.tag) :
    (tree.mapTokens change).serveAll otherFor =
      ((tree.serveAll renameFor).1.mapTokens change, (tree.serveAll renameFor).2) := by
  induction tree using children_induction with
  | leaf token span =>
    have same := asked (token, span) (by simp)
    simp [serveAll, same]
  | branch label span children ih =>
    have each : ∀ child ∈ children, (child.mapTokens change).serveAll otherFor =
        ((child.serveAll renameFor).1.mapTokens change, (child.serveAll renameFor).2) := by
      intro child member
      apply ih child member
      intro leaf inside
      apply asked leaf
      rw [leaves_branch]
      exact List.mem_flatMap.mpr ⟨child, member, inside⟩
    have nodes : (children.map (mapTokens change)).map (fun child => (child.serveAll otherFor).1) =
        (children.map fun child => (child.serveAll renameFor).1).map (mapTokens change) := by
      rw [List.map_map, List.map_map]
      apply List.map_congr_left
      intro child member
      exact congrArg Prod.fst (each child member)
    have requests : (children.map (mapTokens change)).flatMap
        (fun child => (child.serveAll otherFor).2) =
          children.flatMap fun child => (child.serveAll renameFor).2 := by
      rw [List.flatMap_map]
      apply List.flatMap_congr
      intro child member
      rw [each child member]
    rw [mapTokens_branch, serveAll, serveAll, serveChildren_eq, serveChildren_eq, nodes, requests]
    simp

theorem collapse_mapTokens (tree : Tree) :
    (tree.mapTokens change).collapse = tree.collapse.mapTokens change := by
  induction tree using children_induction with
  | leaf token span => rfl
  | branch label span children ih =>
    rw [mapTokens_branch]
    by_cases only : children.length = 1
    · obtain ⟨child, rfl⟩ := List.length_eq_one_iff.mp only
      rw [List.map_singleton, collapse_only, collapse_only, ih child (List.mem_singleton_self _)]
    · rw [collapse_branch only, collapse_branch (by simpa using only), mapTokens_branch,
        List.map_map, List.map_map]
      congr 1
      exact List.map_congr_left ih

theorem elide_mapTokens (tree : Tree) :
    (tree.mapTokens change).elide = tree.elide.mapTokens change := by
  cases tree with
  | leaf token span => rfl
  | branch label span children =>
    rw [mapTokens_branch, elide_branch, elide_branch, mapTokens_branch, List.map_map, List.map_map]
    congr 1
    exact List.map_congr_left fun child _ => collapse_mapTokens child

theorem coverOr_map (span : Span) (nodes : List Tree) :
    coverOr span (nodes.map (mapTokens change)) = coverOr span nodes := by
  unfold coverOr
  rw [List.head?_map, List.getLast?_map]
  cases nodes.head? <;> cases nodes.getLast? <;> simp [span_mapTokens]

theorem recomputeSpans_mapTokens (tree : Tree) :
    (tree.mapTokens change).recomputeSpans = tree.recomputeSpans.mapTokens change := by
  induction tree using children_induction with
  | leaf token span => rfl
  | branch label span children ih =>
    have all : (children.map (mapTokens change)).map recomputeSpans =
        (children.map recomputeSpans).map (mapTokens change) := by
      rw [List.map_map, List.map_map]
      exact List.map_congr_left ih
    rw [mapTokens_branch, recomputeSpans_branch, recomputeSpans_branch, mapTokens_branch, all,
      coverOr_map]

/-- The normal form of a tree with other tokens is the normal form with other tokens. -/
theorem normalize_mapTokens {flatten : LabelSet} {table other : TagTable} (fullDetail : Bool)
    {tree : Tree} (final : ∀ token, (change token).isSentenceFinal = token.isSentenceFinal)
    (asked : ∀ leaf ∈ (tree.dropSentenceEnd.flattenLabels flatten).leaves,
      other.renameFor (change leaf.1).tag = table.renameFor leaf.1.tag) :
    (tree.mapTokens change).normalize flatten other fullDetail =
      (tree.normalize flatten table fullDetail).mapTokens change := by
  have renamed := congrArg Prod.fst (serveAll_mapTokens asked)
  rw [normalize, normalize, dropSentenceEnd_mapTokens final, flattenLabels_mapTokens, remapLabels,
    remapLabels, renamed]
  cases fullDetail with
  | true => exact recomputeSpans_mapTokens _
  | false => exact (congrArg _ (elide_mapTokens _)).trans (recomputeSpans_mapTokens _)

/-! ### Phrase lists -/

theorem entries_mapTokens (hidden : LabelSet) (tree : Tree) :
    (tree.mapTokens change).entries hidden =
      (tree.entries hidden).map (PhraseEntry.mapTokens change) := by
  induction tree using children_induction with
  | leaf token span => rfl
  | branch label span children ih =>
    rw [mapTokens_branch, entries_branch, entries_branch, List.map_append, List.flatMap_map,
      List.map_flatMap, List.flatMap_congr ih]
    split <;> rfl

theorem phrases_mapTokens (hidden : LabelSet) (tree : Tree) :
    (tree.mapTokens change).phrases hidden =
      (tree.phrases hidden).map (List.map (PhraseEntry.mapTokens change)) := by
  cases tree with
  | leaf token span => rfl
  | branch label span children =>
    rw [mapTokens_branch, phrases, phrases, Tree.children, Tree.children, List.map_map,
      List.map_map]
    exact List.map_congr_left fun child _ => entries_mapTokens hidden child

end Tree

end Constituency

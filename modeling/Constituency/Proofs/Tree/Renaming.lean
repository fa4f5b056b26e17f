import Constituency.Proofs.Tree.Labels
import Mathlib.Algebra.BigOperators.Group.List.Basic

/-!
# Phrases that are renamed

A tag may ask for a new label of the nearest branch that has the old one. That works out for every
such tag where the branches with the old label, the phrases, each end with the one leaf below them
that may ask, have more than one child, and do not contain each other. The steps to a normal tree
keep a tree in this form: a phrase is neither spliced out nor collapsed, and renaming gives it the
title that its last leaf asks for. In the end the titles are the requests, in the same order.
-/
namespace Constituency.Tree

/-! ### Phrases -/

section Phrases

variable (silent : Token → Prop) (special : List String)

/--
Whether several nodes end with the leaf of a token that does not end the sentence, all leaves in
front of it are silent, and none of their branches has a special label.
-/
structure EndWith (token : Token) (nodes : List Tree) : Prop where
  several : 2 ≤ nodes.length
  plain : ∀ label ∈ nodes.flatMap labels, label ∉ special
  leaves : ∃ front place, nodes.flatMap Tree.leaves = front ++ [(token, place)] ∧
    ∀ leaf ∈ front, silent leaf.1
  inner : token.isSentenceFinal = false

/--
Whether special labels stand above phrases only, as the title that goes with the last token, and
all leaves outside phrases are silent.
-/
inductive Phrased (title : Token → String) : Tree → Prop
  | leaf {token : Token} {span : Span} (quiet : silent token) : Phrased title (.leaf token span)
  | branch {label : String} {span : Span} {children : List Tree} (plain : label ∉ special)
      (below : ∀ child ∈ children, Phrased title child) :
      Phrased title (.branch label span children)
  | phrase {token : Token} {span : Span} {children : List Tree}
      (ends : EndWith silent special token children) :
      Phrased title (.branch (title token) span children)

end Phrases

variable {silent : Token → Prop} {special : List String} {title : Token → String} {tree : Tree}

/-- Only the last leaf of a phrase can ask for something. -/
theorem EndWith.exists_last {token : Token} {nodes : List Tree}
    (ends : EndWith silent special token nodes) :
    ∃ place, (nodes.flatMap Tree.leaves).getLast? = some (token, place) ∧
      ∀ {α : Type} (ask : Token × Span → Option α), (∀ leaf, silent leaf.1 → ask leaf = none) →
        (nodes.flatMap Tree.leaves).filterMap ask = (ask (token, place)).toList := by
  obtain ⟨front, place, leaves, quiet⟩ := ends.leaves
  refine ⟨place, by rw [leaves, List.getLast?_concat], fun ask none => ?_⟩
  have nothing : front.filterMap ask = [] :=
    List.filterMap_eq_nil_iff.mpr fun leaf member => none leaf (quiet leaf member)
  rw [leaves, List.filterMap_append, nothing, List.nil_append]
  cases found : ask (token, place) <;> simp [found]

/--
A phrase stays one if each child gives way to some nodes with the same leaves and no new label.
-/
theorem EndWith.flatMap {token : Token} {nodes : List Tree} {parts : Tree → List Tree}
    (ends : EndWith silent special token nodes) (some : ∀ node ∈ nodes, parts node ≠ [])
    (leaves : ∀ node ∈ nodes, (parts node).flatMap Tree.leaves = node.leaves)
    (labels : ∀ node ∈ nodes, ((parts node).flatMap Tree.labels).Sublist node.labels) :
    EndWith silent special token (nodes.flatMap parts) where
  several := by
    have each : ∀ count ∈ nodes.map fun node => (parts node).length, 1 ≤ count :=
      List.forall_mem_map.mpr fun node member => List.length_pos_iff.mpr (some node member)
    have total := List.length_le_sum_of_one_le _ each
    rw [List.length_map, ← List.length_flatMap] at total
    exact Nat.le_trans ends.several total
  plain := by
    rw [List.flatMap_assoc]
    exact fun label member => ends.plain label
      ((List.Sublist.flatMap_right nodes labels).subset member)
  leaves := by
    rw [List.flatMap_assoc, List.flatMap_congr leaves]
    exact ends.leaves
  inner := ends.inner

theorem EndWith.map {token : Token} {nodes : List Tree} {step : Tree → Tree}
    (ends : EndWith silent special token nodes)
    (leaves : ∀ node, (step node).leaves = node.leaves)
    (labels : ∀ node, (step node).labels.Sublist node.labels) :
    EndWith silent special token (nodes.map step) := by
  rw [List.map_eq_flatMap]
  exact ends.flatMap (by simp) (by simpa using fun node _ => leaves node)
    (by simpa using fun node _ => labels node)

/-! ### The end of the sentence -/

/-- Nodes that do not end with a sentence-final leaf stay as they are. -/
theorem withoutFinalAll_of_inner {children : List Tree} {leaf : Token × Span}
    (filled : ∀ child ∈ children, child.Filled)
    (kept : ∀ child ∈ children, child.leaves.getLast? = some leaf →
      child.withoutFinal = some child)
    (last : (children.flatMap leaves).getLast? = some leaf) :
    withoutFinalAll children = children := by
  rcases List.eq_nil_or_concat' children with rfl | ⟨front, final, rfl⟩
  · rfl
  · have finalFilled := filled final (by simp)
    rw [List.flatMap_append, List.flatMap_singleton,
      List.getLast?_append_of_ne_nil _ finalFilled.leaves_ne_nil] at last
    rw [withoutFinalAll_append, kept final (by simp) last, Option.toList_some]

theorem withoutFinal_of_inner {leaf : Token × Span} (filled : tree.Filled)
    (last : tree.leaves.getLast? = some leaf) (inner : leaf.1.isSentenceFinal = false) :
    tree.withoutFinal = some tree := by
  induction tree using Tree.children_induction with
  | leaf token span =>
    obtain rfl : (token, span) = leaf := Option.some.inj last
    rw [withoutFinal, if_neg (by simpa using inner)]
  | branch label span children ih =>
    obtain ⟨some, below⟩ := filled_branch.mp filled
    rw [leaves_branch] at last
    have same := withoutFinalAll_of_inner below
      (fun child member final => ih child member (below child member) final) last
    rw [withoutFinal_branch some, same]
    split
    · contradiction
    · rfl

theorem EndWith.withoutFinalAll_eq {token : Token} {children : List Tree}
    (ends : EndWith silent special token children) (filled : ∀ child ∈ children, child.Filled) :
    withoutFinalAll children = children := by
  obtain ⟨place, last, -⟩ := ends.exists_last
  exact withoutFinalAll_of_inner filled
    (fun child member final => withoutFinal_of_inner (filled child member) final ends.inner) last

namespace Phrased

theorem of_mem_withoutFinalAll {children : List Tree} {kept : Tree}
    (below : ∀ child ∈ children, Phrased silent special title child)
    (dropped : ∀ child ∈ children, ∀ kept ∈ child.withoutFinal,
      Phrased silent special title kept)
    (member : kept ∈ withoutFinalAll children) : Phrased silent special title kept := by
  rcases List.eq_nil_or_concat' children with rfl | ⟨front, last, rfl⟩
  · contradiction
  · rw [withoutFinalAll_append, List.mem_append, Option.mem_toList] at member
    rcases member with before | final
    · exact below kept (by simp [before])
    · exact dropped last (by simp) kept final

theorem withoutFinal (phrased : Phrased silent special title tree) (filled : tree.Filled) :
    ∀ kept ∈ tree.withoutFinal, Phrased silent special title kept := by
  induction phrased with
  | leaf quiet =>
    intro kept member
    obtain ⟨-, rfl⟩ := mem_withoutFinal_leaf.mp member
    exact .leaf quiet
  | branch plain below ih =>
    obtain ⟨some, filledBelow⟩ := filled_branch.mp filled
    intro kept member
    obtain ⟨-, rfl⟩ := (mem_withoutFinal_branch some).mp member
    exact .branch plain fun child => of_mem_withoutFinalAll below
      fun child member => ih child member (filledBelow child member)
  | phrase ends =>
    -- The token at the end of a phrase does not end the sentence, so nothing is dropped.
    obtain ⟨some, filledBelow⟩ := filled_branch.mp filled
    intro kept member
    obtain ⟨-, rfl⟩ := (mem_withoutFinal_branch some).mp member
    rw [ends.withoutFinalAll_eq filledBelow]
    exact .phrase ends

theorem dropSentenceEnd (phrased : Phrased silent special title tree) (filled : tree.FilledBelow) :
    Phrased silent special title tree.dropSentenceEnd := by
  cases phrased with
  | leaf quiet => exact .leaf quiet
  | branch plain below =>
    exact .branch plain fun child => of_mem_withoutFinalAll below
      fun child member => (below child member).withoutFinal (filled child member)
  | phrase ends =>
    rw [Tree.dropSentenceEnd, ends.withoutFinalAll_eq filled]
    exact .phrase ends

/-! ### Splicing -/

theorem spliced {flatten : LabelSet} (phrased : Phrased silent special title tree)
    (kept : ∀ token, flatten.contains (title token) = false) :
    ∀ node ∈ tree.spliced flatten, Phrased silent special title node := by
  cases phrased with
  | leaf quiet => exact List.forall_mem_singleton.mpr (.leaf quiet)
  | branch plain below =>
    rw [Tree.spliced]
    split
    · exact below
    · exact List.forall_mem_singleton.mpr (.branch plain below)
  | phrase ends =>
    rw [Tree.spliced, kept, if_neg Bool.false_ne_true]
    exact List.forall_mem_singleton.mpr (.phrase ends)

/-- A phrase keeps more than one child, since none of its children is without leaves. -/
theorem flattenLabels {flatten : LabelSet} (phrased : Phrased silent special title tree)
    (filled : tree.FilledBelow) (kept : ∀ token, flatten.contains (title token) = false) :
    Phrased silent special title (tree.flattenLabels flatten) := by
  induction phrased with
  | leaf quiet => exact .leaf quiet
  | branch plain below ih =>
    rw [flattenLabels_branch]
    refine .branch plain fun node member => ?_
    obtain ⟨child, inside, part⟩ := List.mem_flatMap.mp member
    exact (ih child inside (filled child inside).below).spliced kept node part
  | phrase ends =>
    rw [flattenLabels_branch]
    refine .phrase (ends.flatMap (fun child member => ?_) (fun child _ => ?_) fun child _ => ?_)
    · exact (filled child member).flattenLabels.spliced.1
    · rw [flatMap_leaves_spliced, leaves_flattenLabels]
    · exact (labels_spliced_sublist flatten _).trans (labels_flattenLabels_sublist flatten child)

/-! ### Only children -/

theorem collapse (phrased : Phrased silent special title tree) :
    Phrased silent special title tree.collapse := by
  induction phrased with
  | leaf quiet => exact .leaf quiet
  | @branch label span children plain below ih =>
    by_cases only : children.length = 1
    · obtain ⟨child, rfl⟩ := List.length_eq_one_iff.mp only
      rw [collapse_only]
      exact ih child (List.mem_singleton_self child)
    · rw [collapse_branch only]
      exact .branch plain (List.forall_mem_map.mpr ih)
  | phrase ends =>
    have several := ends.several
    rw [collapse_branch (by omega)]
    exact .phrase (ends.map leaves_collapse labels_collapse_sublist)

theorem elide (phrased : Phrased silent special title tree) :
    Phrased silent special title tree.elide := by
  cases phrased with
  | leaf quiet => exact .leaf quiet
  | branch plain below =>
    rw [elide_branch]
    exact .branch plain (List.forall_mem_map.mpr fun child member => (below child member).collapse)
  | phrase ends =>
    rw [elide_branch]
    exact .phrase (ends.map leaves_collapse labels_collapse_sublist)

/-! ### Spans -/

theorem recomputeSpans (phrased : Phrased silent special title tree) :
    Phrased silent special title tree.recomputeSpans := by
  induction phrased with
  | leaf quiet => exact .leaf quiet
  | branch plain below ih =>
    rw [recomputeSpans_branch]
    exact .branch plain (List.forall_mem_map.mpr ih)
  | phrase ends =>
    rw [recomputeSpans_branch]
    exact .phrase (ends.map leaves_recomputeSpans fun node => by rw [labels_recomputeSpans])

end Phrased

/-! ### Renaming -/

section Renaming

variable {renameFor : String → Option Rename} {old : String}

/-- The label that a phrase gets when it is renamed, from the token at its end. -/
def newTitle (renameFor : String → Option Rename) (old : String) (token : Token) : String :=
  ((renameFor token.tag).map Rename.new).getD old

/-- A phrase serves the one request that comes from below it, and is asked for nothing else. -/
theorem EndWith.serveAll {token : Token} {span : Span} {children : List Tree}
    (ends : EndWith (fun token => renameFor token.tag = none) special token children)
    (olds : ∀ tag rename, renameFor tag = some rename → rename.old = old)
    (listed : old ∈ special) : (Tree.branch old span children).serveAll renameFor =
      (.branch (newTitle renameFor old token) span children, []) := by
  -- No branch below has the old label, so the request of the last leaf comes up to the phrase.
  have each : ∀ child ∈ children,
      child.serveAll renameFor = (child, child.leaves.filterMap (asks renameFor)) := by
    refine fun child member => serveAll_of_unasked fun leaf _ rename found named => ?_
    have same := olds _ rename found
    exact ends.plain old (List.mem_flatMap.mpr ⟨child, member, same ▸ named⟩) listed
  obtain ⟨place, -, requests⟩ := ends.exists_last
  have requests : (children.flatMap Tree.leaves).filterMap (asks renameFor) =
      (renameFor token.tag).toList := requests (asks renameFor) fun leaf silent => silent
  rw [Tree.serveAll, serveChildren_of_unasked each, requests]
  cases found : renameFor token.tag with
  | none => simp [newTitle, found, serve]
  | some rename =>
    have same := olds _ rename found
    simp [newTitle, found, serve, same]

/-- Each phrase gets the title that its last token asks for, and no request is left. -/
theorem Phrased.serveAll
    (phrased : Phrased (fun token => renameFor token.tag = none) special (fun _ => old) tree)
    (olds : ∀ tag rename, renameFor tag = some rename → rename.old = old)
    (listed : old ∈ special) :
    Phrased (fun token => renameFor token.tag = none) special (newTitle renameFor old)
      (tree.serveAll renameFor).1 ∧ (tree.serveAll renameFor).2 = [] := by
  induction phrased with
  | leaf quiet => exact ⟨.leaf quiet, by rw [Tree.serveAll, quiet]; rfl⟩
  | @branch label span children plain below ih =>
    have nothing : children.flatMap (fun child => (child.serveAll renameFor).2) = [] :=
      List.flatMap_eq_nil_iff.mpr fun child member => (ih child member).2
    rw [Tree.serveAll, serveChildren_eq, nothing]
    exact ⟨.branch plain (List.forall_mem_map.mpr fun child member => (ih child member).1), rfl⟩
  | phrase ends =>
    rw [ends.serveAll olds listed]
    exact ⟨.phrase ends, rfl⟩

variable {flatten : LabelSet} {table : TagTable}

/-- The steps to a normal tree give each phrase its title, and leave no request unserved. -/
theorem Phrased.normalize
    (phrased : Phrased (fun token => table.renameFor token.tag = none) special (fun _ => old) tree)
    (filled : tree.FilledBelow)
    (olds : ∀ tag rename, table.renameFor tag = some rename → rename.old = old)
    (listed : old ∈ special) (kept : flatten.contains old = false) (fullDetail : Bool) :
    Phrased (fun token => table.renameFor token.tag = none) special (newTitle table.renameFor old)
      (tree.normalize flatten table fullDetail) ∧
    ((tree.dropSentenceEnd.flattenLabels flatten).serveAll table.renameFor).2 = [] := by
  have flattened := (phrased.dropSentenceEnd filled).flattenLabels filled.dropSentenceEnd
    fun _ => kept
  obtain ⟨renamed, nothing⟩ := flattened.serveAll olds listed
  refine ⟨?_, nothing⟩
  rw [normalize_eq, unspanned]
  split
  · exact renamed.recomputeSpans
  · exact renamed.elide.recomputeSpans

end Renaming

/-! ### Titles and requests -/

section Titles

variable {renameFor : String → Option Rename} {old : String} {news : List String}

/-- The label of a branch, if it is one of the new ones, and its last leaf. -/
def title? (news : List String) (branch : Tree) : Option (String × Option (Token × Span)) :=
  branch.label?.bind fun label =>
    if label ∈ news then some (label, branch.leaves.getLast?) else none

theorem title?_eq_some_iff {branch : Tree} {label : String} {last : Option (Token × Span)} :
    title? news branch = some (label, last) ↔
      branch.label? = some label ∧ label ∈ news ∧ branch.leaves.getLast? = last := by
  simp only [title?, Option.bind_eq_some_iff, Option.ite_none_right_eq_some, Option.some.injEq,
    Prod.mk.injEq]
  grind

theorem title?_eq_none_iff {branch : Tree} :
    title? news branch = none ↔ ∀ label ∈ news, branch.label? ≠ some label := by
  simp only [title?, Option.bind_eq_none_iff, ite_eq_right_iff]
  grind

/-- The new label that a leaf asks for, and the leaf. -/
def request? (renameFor : String → Option Rename) (leaf : Token × Span) :
    Option (String × Option (Token × Span)) :=
  (renameFor leaf.1.tag).map fun rename => (rename.new, some leaf)

/-- The phrases with new labels are those that the leaves ask for, one by one. -/
theorem Phrased.titles_eq_requests
    (phrased : Phrased (fun token => renameFor token.tag = none) special
      (newTitle renameFor old) tree)
    (listed : ∀ label ∈ news, label ∈ special) (apart : old ∉ news)
    (asked : ∀ tag rename, renameFor tag = some rename → rename.new ∈ news) :
    tree.branches.filterMap (title? news) = tree.leaves.filterMap (request? renameFor) := by
  induction phrased with
  | leaf quiet => simp [request?, quiet]
  | @branch label span children plain below ih =>
    have untitled : title? news (.branch label span children) = none := by
      refine title?_eq_none_iff.mpr fun new member own => ?_
      obtain rfl : label = new := Option.some.inj own
      exact plain (listed label member)
    rw [branches_branch, List.filterMap_cons_none untitled, List.filterMap_flatMap, leaves_branch,
      List.filterMap_flatMap]
    exact List.flatMap_congr ih
  | @phrase token span children ends =>
    obtain ⟨place, last, requests⟩ := ends.exists_last
    have requests : (children.flatMap Tree.leaves).filterMap (request? renameFor) =
        (request? renameFor (token, place)).toList :=
      requests (request? renameFor) fun leaf silent => by rw [request?, silent]; rfl
    -- Below a phrase no label is special, so the phrase has the only title.
    have below : (children.flatMap branches).filterMap (title? news) = [] := by
      refine List.filterMap_eq_nil_iff.mpr fun branch member => ?_
      refine title?_eq_none_iff.mpr fun label new own => ?_
      obtain ⟨child, inside, part⟩ := List.mem_flatMap.mp member
      have named : label ∈ child.labels := List.mem_filterMap.mpr ⟨branch, part, own⟩
      exact ends.plain label (List.mem_flatMap.mpr ⟨child, inside, named⟩) (listed label new)
    rw [branches_branch, leaves_branch, requests]
    cases found : renameFor token.tag with
    | none =>
      -- A phrase that is not renamed keeps the old label, which is none of the new ones.
      have untitled :
          title? news (.branch (newTitle renameFor old token) span children) = none := by
        refine title?_eq_none_iff.mpr fun label new own => ?_
        obtain rfl : old = label := by simpa [newTitle, found, label?] using own
        exact apart new
      rw [List.filterMap_cons_none untitled, below, request?, found]
      rfl
    | some rename =>
      have titled : title? news (.branch (newTitle renameFor old token) span children) =
          some (rename.new, some (token, place)) :=
        title?_eq_some_iff.mpr ⟨by simp [newTitle, found, label?], asked _ rename found,
          by rw [leaves_branch, last]⟩
      rw [List.filterMap_cons_some titled, below, request?, found]
      rfl

end Titles

end Constituency.Tree

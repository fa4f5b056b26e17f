import Constituency.Grammar.Basic
import Constituency.Proofs.Tree.Leaves
import Mathlib.Data.List.Sort

/-!
# Splices one after another

A node that is spliced out gives way to what is left of its children, and that is settled for each
node by its own label alone. So splicing by one set of labels and then by another is splicing by
their union, and neither the order of two sets nor that of the directives of a grammar text that
name them makes a difference.
-/
namespace Constituency

/-! ### Sets of labels -/

namespace LabelSet

variable {set other : LabelSet} {label : String}

theorem contains_iff : set.contains label = true ↔ label ∈ set := List.contains_iff_mem

/-- A set has one form only, so it is told by its members. -/
theorem ext_mem (same : ∀ label, label ∈ set ↔ label ∈ other) : set = other :=
  ext_labels (set.increasing.eq_of_mem_iff other.increasing same)

instance : Union LabelSet := ⟨fun set other => set.insertAll other.labels⟩

theorem mem_union : label ∈ set ∪ other ↔ label ∈ set ∨ label ∈ other :=
  mem_insertAll.trans or_comm

theorem union_comm (set other : LabelSet) : set ∪ other = other ∪ set :=
  ext_mem fun _ => by rw [mem_union, mem_union, or_comm]

theorem union_self (set : LabelSet) : set ∪ set = set :=
  ext_mem fun _ => by rw [mem_union, or_self]

/-- Labels may be put into a set in any order. -/
theorem insertAll_congr {labels others : List String}
    (same : ∀ label, label ∈ labels ↔ label ∈ others) :
    set.insertAll labels = set.insertAll others :=
  ext_mem fun label => by rw [mem_insertAll, mem_insertAll, same label]

end LabelSet

/-! ### Directives -/

namespace Directive

/-- The labels that a directive has spliced out. -/
def flattened : Directive → List String
  | .flatten labels => labels
  | .start _ | .hide _ => []

def isFlatten : Directive → Bool
  | .flatten _ => true
  | .start _ | .hide _ => false

/-- Whether two lists of directives differ in the places of the flatten directives only. -/
structure Rearranged (directives others : List Directive) : Prop where
  flatten : (directives.filter isFlatten).Perm (others.filter isFlatten)
  rest : directives.filter (!·.isFlatten) = others.filter (!·.isFlatten)

theorem flattened_of_not_isFlatten {directive : Directive} (other : directive.isFlatten = false) :
    directive.flattened = [] := by
  cases directive with
  | flatten labels => contradiction
  | start name => rfl
  | hide labels => rfl

theorem mem_flatMap_flattened {directives : List Directive} {label : String} :
    label ∈ directives.flatMap flattened ↔
      ∃ directive ∈ directives.filter isFlatten, label ∈ directive.flattened := by
  rw [List.mem_flatMap]
  constructor
  · rintro ⟨directive, member, named⟩
    refine ⟨directive, List.mem_filter.mpr ⟨member, ?_⟩, named⟩
    by_contra other
    simp [flattened_of_not_isFlatten (by simpa using other)] at named
  · rintro ⟨directive, member, named⟩
    exact ⟨directive, (List.mem_filter.mp member).1, named⟩

end Directive

namespace Grammar

variable {grammar : Grammar}

theorem withFlatten_withFlatten (labels others : List String) :
    (grammar.withFlatten labels).withFlatten others = grammar.withFlatten (labels ++ others) := by
  simp only [withFlatten, LabelSet.insertAll, List.foldl_append]

theorem withFlatten_congr {labels others : List String}
    (same : ∀ label, label ∈ labels ↔ label ∈ others) :
    grammar.withFlatten labels = grammar.withFlatten others := by
  rw [withFlatten, withFlatten, LabelSet.insertAll_congr same]

theorem withStart_withFlatten (labels : List String) (name : String) :
    (grammar.withFlatten labels).withStart name =
      (grammar.withStart name).map (·.withFlatten labels) := by
  -- Labels do not decide whether there is such a production.
  have places : (grammar.withFlatten labels).ruleId? name = grammar.ruleId? name := rfl
  unfold withStart
  split
  next id found =>
    rw [places] at found
    split
    next id' found' =>
      obtain rfl : id = id' := Option.some.inj (found.symm.trans found')
      rfl
    next missing => simp [missing] at found
  next missing =>
    rw [places] at missing
    split
    next id found => simp [missing] at found
    next => rfl

/-- The labels of a flatten directive may as well be added behind another directive. -/
theorem direct_withFlatten (labels : List String) (directive : Directive) :
    direct (grammar.withFlatten labels) directive =
      (direct grammar directive).map (·.withFlatten labels) := by
  cases directive with
  | start name => exact withStart_withFlatten labels name
  | flatten others =>
    have either : ∀ label, label ∈ labels ++ others ↔ label ∈ others ++ labels := by
      intro label
      rw [List.mem_append, List.mem_append, or_comm]
    simp only [direct, Except.map, withFlatten_withFlatten, withFlatten_congr either]
  | hide others => rfl

theorem foldlM_direct_withFlatten (labels : List String) (directives : List Directive) :
    directives.foldlM direct (grammar.withFlatten labels) =
      (directives.foldlM direct grammar).map (·.withFlatten labels) := by
  induction directives generalizing grammar with
  | nil => rfl
  | cons directive rest ih =>
    rw [List.foldlM_cons, List.foldlM_cons, direct_withFlatten]
    cases direct grammar directive with
    | error error => rfl
    | ok next => exact ih

/-- All flatten directives may stand behind the others, taken together. -/
theorem foldlM_direct_eq (directives : List Directive) :
    directives.foldlM direct grammar =
      ((directives.filter (!·.isFlatten)).foldlM direct grammar).map
        (·.withFlatten (directives.flatMap Directive.flattened)) := by
  induction directives generalizing grammar with
  | nil => rfl
  | cons directive rest ih =>
    have keeps : directive.isFlatten = false → (directive :: rest).foldlM direct grammar =
        (((directive :: rest).filter (!·.isFlatten)).foldlM direct grammar).map
          (·.withFlatten ((directive :: rest).flatMap Directive.flattened)) := by
      intro other
      rw [List.filter_cons_of_pos (by simpa using other), List.foldlM_cons, List.foldlM_cons,
        List.flatMap_cons, Directive.flattened_of_not_isFlatten other, List.nil_append]
      cases direct grammar directive with
      | error error => rfl
      | ok next => exact ih
    cases directive with
    | start name => exact keeps rfl
    | hide labels => exact keeps rfl
    | flatten labels =>
      -- The labels are added in front of all others, but a set does not tell.
      have added : direct grammar (.flatten labels) = .ok (grammar.withFlatten labels) := rfl
      have either : ∀ others label, label ∈ others ++ labels ↔ label ∈ labels ++ others := by
        intro others label
        rw [List.mem_append, List.mem_append, or_comm]
      rw [List.foldlM_cons, added, List.filter_cons_of_neg (by simp [Directive.isFlatten]),
        List.flatMap_cons]
      refine (foldlM_direct_withFlatten labels rest).trans ?_
      rw [ih]
      cases (rest.filter (!·.isFlatten)).foldlM direct grammar with
      | error error => rfl
      | ok built =>
        simp only [Except.map, withFlatten_withFlatten, withFlatten_congr (either _),
          Directive.flattened]

/-- The flatten directives of a text may stand in any order and at any places. -/
theorem ofText_rearranged {rules : List (Rule String)} {directives others : List Directive}
    (rearranged : Directive.Rearranged directives others) :
    ofText ⟨rules, directives⟩ = ofText ⟨rules, others⟩ := by
  have same : ∀ label, label ∈ directives.flatMap Directive.flattened ↔
      label ∈ others.flatMap Directive.flattened := by
    intro label
    simp only [Directive.mem_flatMap_flattened, rearranged.flatten.mem_iff]
  unfold ofText
  cases ofRules rules with
  | error error => rfl
  | ok grammar =>
    change directives.foldlM direct grammar = others.foldlM direct grammar
    rw [foldlM_direct_eq directives, foldlM_direct_eq others, rearranged.rest]
    simp only [withFlatten_congr same]

end Grammar

namespace Tree

/-! ### What is left of a node -/

/-- What is left of a node below the root: the node itself, or what is left of its children. -/
def pieces (labels : LabelSet) (tree : Tree) : List Tree :=
  (tree.flattenLabels labels).spliced labels

variable {labels others : LabelSet}

theorem flattenLabels_root (label : String) (span : Span) (children : List Tree) :
    (Tree.branch label span children).flattenLabels labels =
      .branch label span (children.flatMap (pieces labels)) := by
  rw [flattenLabels_branch]
  rfl

theorem pieces_branch (label : String) (span : Span) (children : List Tree) :
    (Tree.branch label span children).pieces labels =
      if label ∈ labels then children.flatMap (pieces labels)
      else [.branch label span (children.flatMap (pieces labels))] := by
  rw [pieces, flattenLabels_root, spliced]
  simp only [LabelSet.contains_iff]

/-- Splicing what is left of a node leaves what both sets together leave of it. -/
theorem flatMap_pieces (tree : Tree) :
    (tree.pieces labels).flatMap (pieces others) = tree.pieces (labels ∪ others) := by
  induction tree using Tree.children_induction with
  | leaf token span => rfl
  | branch label span children ih =>
    have below : (children.flatMap (pieces labels)).flatMap (pieces others) =
        children.flatMap (pieces (labels ∪ others)) := by
      rw [List.flatMap_assoc]
      exact List.flatMap_congr ih
    rw [pieces_branch, pieces_branch]
    -- The second set decides about the node itself only if the first one has let it stay.
    by_cases first : label ∈ labels
    · rw [if_pos first, if_pos (LabelSet.mem_union.mpr (.inl first)), below]
    · rw [if_neg first, List.flatMap_singleton, pieces_branch, below]
      simp only [LabelSet.mem_union, first, false_or]

theorem flattenLabels_flattenLabels (tree : Tree) :
    (tree.flattenLabels labels).flattenLabels others = tree.flattenLabels (labels ∪ others) := by
  cases tree with
  | leaf token span => rfl
  | branch label span children =>
    rw [flattenLabels_root, flattenLabels_root, flattenLabels_root, List.flatMap_assoc,
      List.flatMap_congr fun child _ => flatMap_pieces child]

/-! ### The branches that stay -/

theorem headers_pieces (tree : Tree) : (tree.pieces labels).flatMap headers =
    tree.headers.filter fun header => header.1 ∉ labels := by
  induction tree using Tree.children_induction with
  | leaf token span => rfl
  | branch label span children ih =>
    have below : (children.flatMap (pieces labels)).flatMap headers =
        (children.flatMap headers).filter fun header => header.1 ∉ labels := by
      rw [List.flatMap_assoc, List.filter_flatMap]
      exact List.flatMap_congr ih
    rw [pieces_branch, headers_branch]
    split
    next out => rw [below, List.filter_cons_of_neg (by simpa using out)]
    next stays =>
      rw [List.flatMap_singleton, headers_branch, below,
        List.filter_cons_of_pos (by simpa using stays)]

theorem headers_inner_flattenLabels (tree : Tree) :
    (tree.flattenLabels labels).inner.filterMap header? =
      (tree.inner.filterMap header?).filter fun header => header.1 ∉ labels := by
  cases tree with
  | leaf token span => rfl
  | branch label span children =>
    rw [flattenLabels_root, filterMap_header?_inner, filterMap_header?_inner, Tree.children,
      Tree.children, List.flatMap_assoc, List.filter_flatMap]
    exact List.flatMap_congr fun child _ => headers_pieces child

theorem header?_flattenLabels (tree : Tree) :
    (tree.flattenLabels labels).header? = tree.header? := by
  cases tree <;> rfl

/-- Whether splicing out some labels below the root leads from one tree to another. -/
structure Splices (labels : LabelSet) (tree flat : Tree) : Prop where
  leaves : flat.leaves = tree.leaves
  root : flat.header? = tree.header?
  gone : ∀ branch ∈ flat.inner, ∀ label ∈ labels, branch.label? ≠ some label
  kept : flat.inner.filterMap header? =
    (tree.inner.filterMap header?).filter fun header => header.1 ∉ labels

theorem splices_flattenLabels (tree : Tree) : Splices labels tree (tree.flattenLabels labels) where
  leaves := leaves_flattenLabels labels tree
  root := header?_flattenLabels tree
  kept := headers_inner_flattenLabels tree
  gone := by
    intro branch member label listed named
    cases branch with
    | leaf token span => contradiction
    | branch own span children =>
      obtain rfl : own = label := Option.some.inj named
      -- What stands at a branch that is left is among what is kept, and that is not listed.
      have header : (own, span) ∈ (tree.flattenLabels labels).inner.filterMap header? :=
        List.mem_filterMap.mpr ⟨_, member, rfl⟩
      rw [headers_inner_flattenLabels] at header
      have unlisted := (List.mem_filter.mp header).2
      simp [listed] at unlisted

/--
Splicing keeps the leaves in their order, the root, and the branches below it whose labels are not
listed, in the same order and each with its label and span; no branch with a listed label is left
below the root. Splicing by two sets in turn is splicing by their union. So splicing twice is
splicing once, two sets may be taken in either order, and a grammar text describes the same grammar
wherever its flatten directives stand.
-/
theorem flattenLabels_composes (tree : Tree) (labels others : LabelSet) :
    Splices labels tree (tree.flattenLabels labels) ∧
    (tree.flattenLabels labels).flattenLabels others = tree.flattenLabels (labels ∪ others) ∧
    (tree.flattenLabels labels).flattenLabels labels = tree.flattenLabels labels ∧
    (tree.flattenLabels labels).flattenLabels others =
      (tree.flattenLabels others).flattenLabels labels ∧
    ∀ rules directives rearranged, Directive.Rearranged directives rearranged →
      Grammar.ofText ⟨rules, directives⟩ = Grammar.ofText ⟨rules, rearranged⟩ := by
  refine ⟨splices_flattenLabels tree, flattenLabels_flattenLabels tree, ?_, ?_,
    fun rules directives rearranged => Grammar.ofText_rearranged⟩
  · rw [flattenLabels_flattenLabels, LabelSet.union_self]
  · rw [flattenLabels_flattenLabels, flattenLabels_flattenLabels, LabelSet.union_comm]

/-- A clause within a clause, both to be spliced out, and a phrase that may be. -/
def nestedClauses : Tree :=
  .branch "Sentence" ⟨0, 2⟩ [.branch "MainClause" ⟨0, 2⟩
    [.branch "Phrase" ⟨0, 1⟩ [.leaf ⟨"밥", "NNG"⟩ ⟨0, 1⟩],
      .branch "MainClause" ⟨1, 2⟩ [.branch "Predicate" ⟨1, 2⟩ [.leaf ⟨"먹다", "VV"⟩ ⟨1, 2⟩]]]]

/-- A sentence is a main clause, which may begin with a phrase. -/
def clauseRules : List (Rule String) :=
  [⟨"Sentence", .ref "MainClause"⟩, ⟨"MainClause", .seq [.opt (.ref "Phrase"), .ref "MainClause"]⟩,
    ⟨"Phrase", .opt (.ref "MainClause")⟩]

theorem flattenLabels_composes_clauses :
    let clauses := LabelSet.insert {} "MainClause"
    let phrases := LabelSet.insert {} "Phrase"
    let directives := [.flatten ["MainClause"], .start "Sentence", .flatten ["Phrase"]]
    let rearranged := [.flatten ["Phrase"], .flatten ["MainClause"], .start "Sentence"]
    Directive.Rearranged directives rearranged ∧
    Splices clauses nestedClauses (nestedClauses.flattenLabels clauses) ∧
    (nestedClauses.flattenLabels clauses).flattenLabels phrases =
      nestedClauses.flattenLabels (clauses ∪ phrases) ∧
    (Grammar.ofText ⟨clauseRules, directives⟩).isOk = true ∧
    Grammar.ofText ⟨clauseRules, directives⟩ = Grammar.ofText ⟨clauseRules, rearranged⟩ := by
  intro clauses phrases directives rearranged
  have moved : Directive.Rearranged directives rearranged := ⟨by decide, by decide⟩
  obtain ⟨splices, union, -, -, texts⟩ := flattenLabels_composes nestedClauses clauses phrases
  exact ⟨moved, splices, union, by decide +kernel, texts _ _ _ moved⟩

end Tree

end Constituency
